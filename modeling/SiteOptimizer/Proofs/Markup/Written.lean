import Mathlib.Data.List.DropRight
import Mathlib.Data.List.TakeWhile
import SiteOptimizer.Proofs.Markup.Injection

/-!
# What written markup reads as

Comments and tags that are written out in full read as themselves wherever they stand, so they are
lines that may go into documents. A comment ends at the first place where it can; a tag's attributes
are written with double quotes, and a value may hold anything but a double quote.
-/

namespace SiteOptimizer
namespace Markup

open Text (Pattern)

theorem Pattern.inOrder_cons {p : Pattern} {ps : List Pattern} {s a b t rest : Text}
    (hp : p.split? s = some (a, t)) (hps : (Pattern.inOrder ps).split? t = some (b, rest)) :
    (Pattern.inOrder (p :: ps)).split? s = some (a ++ b, rest) :=
  split?_followedBy_of hp hps

/-- Where no tag is opened there are no tags. -/
theorem tagsOf_append_of_ne (names : Text → Bool) {v : List Sign}
    (h : ∀ sign ∈ v, sign.kind ≠ .tagOpen) (w : List Sign) :
    tagsOf names (v ++ w) = tagsOf names w := by
  induction v with
  | nil => rfl
  | cons sign v ih =>
    have hne : sign.token.kind ≠ .tagOpen := h sign List.mem_cons_self
    rw [tagsOf, List.cons_append, List.map_cons, tagsNamed_cons_of_ne hne]
    exact ih fun s hs => h s (List.mem_cons_of_mem _ hs)

theorem tagsOf_eq_nil {names : Text → Bool} {v : List Sign} (h : ∀ sign ∈ v, sign.kind ≠ .tagOpen) :
    tagsOf names v = [] := by
  have hv := tagsOf_append_of_ne names h []
  rw [List.append_nil] at hv
  rw [hv]
  simp [tagsOf, tagsNamed]

/-! ## Comments -/

/-- The word that ends a comment. -/
def endWord : Text := ['-', '-', '>']

/-- A text that has no end of a comment in it. -/
def Unended (body : Text) : Prop :=
  ¬ endWord <:+: body

theorem Unended.of_suffix {a b : Text} (h : Unended (a ++ b)) : Unended b :=
  fun hb => h (hb.trans (List.suffix_append a b).isInfix)

theorem split?_commentEnd (s : Text) :
    commentEnd.split? s =
      (Text.after? endWord (s.dropWhile Text.isBlank)).map fun r =>
        (s.takeWhile Text.isBlank ++ endWord, r) := by
  unfold commentEnd Pattern.inOrder
  rw [List.foldr_cons, List.foldr_cons, List.foldr_nil, Pattern.split?_followedBy,
    Pattern.split?_run]
  dsimp only
  rw [Pattern.split?_followedBy, Pattern.split?_word]
  cases h : Text.after? ['-', '-', '>'] (s.dropWhile Text.isBlank) with
  | none => rw [endWord, h]; rfl
  | some r =>
    rw [endWord, h]
    simp [Pattern.nothing]

/-- No comment ends where its body goes on. -/
theorem after?_endWord {body : Text} (hne : body ≠ []) (h : Unended body) (w : Text) :
    Text.after? endWord (body ++ (endWord ++ w)) = none := by
  cases hr : Text.after? endWord (body ++ (endWord ++ w)) with
  | none => rfl
  | some r =>
    have heq := Text.after?_eq_some_iff.1 hr
    rcases body with _ | ⟨a, _ | ⟨b, _ | ⟨c, body⟩⟩⟩
    · exact absurd rfl hne
    · simp [endWord] at heq
    · simp [endWord] at heq
    · simp only [endWord, List.cons_append, List.cons.injEq, List.nil_append] at heq
      obtain ⟨rfl, rfl, rfl, -⟩ := heq
      exact absurd ⟨[], body, rfl⟩ h

/-- What stands at the end of the body of a comment and in front of it. -/
theorem takeWhile_of_all_blank {body : Text} (h : ∀ c ∈ body, Text.isBlank c = true) (w : Text) :
    (body ++ (endWord ++ w)).takeWhile Text.isBlank = body ∧
      (body ++ (endWord ++ w)).dropWhile Text.isBlank = endWord ++ w := by
  rw [List.takeWhile_append_of_pos h, List.dropWhile_append_of_pos h]
  have : Text.isBlank '-' = false := by decide
  simp [endWord, this]

theorem split?_commentEnd_of_blank {body : Text}
    (h : ∀ c ∈ body, Text.isBlank c = true) (w : Text) :
    commentEnd.split? (body ++ (endWord ++ w)) = some (body ++ endWord, w) := by
  obtain ⟨htake, hdrop⟩ := takeWhile_of_all_blank h w
  rw [split?_commentEnd, htake, hdrop, Text.after?_eq_some_iff.2 rfl]
  rfl

theorem split?_commentEnd_of_visible {body : Text} (hb : Unended body)
    (h : ∃ c ∈ body, Text.isBlank c = false) (w : Text) :
    commentEnd.split? (body ++ (endWord ++ w)) = none := by
  rw [split?_commentEnd, (Gap.takeWhile_append_of_stop h _).2, after?_endWord]
  · rfl
  · intro hnil
    obtain ⟨c, hc, hblank⟩ := h
    rw [List.dropWhile_eq_nil_iff.1 hnil c hc] at hblank
    cases hblank
  · have happ := List.takeWhile_append_dropWhile (p := Text.isBlank) (l := body)
    rw [← happ] at hb
    exact hb.of_suffix

theorem dropEndWhile_of_all {p : Char → Bool} {s : Text} (h : ∀ c ∈ s, p c = true) :
    Text.dropEndWhile p s = [] := by
  simp [Text.dropEndWhile, List.dropWhile_eq_nil_iff.2 fun c hc => h c (List.mem_reverse.1 hc)]

theorem dropEndWhile_cons {p : Char → Bool} {c : Char} {s : Text} (h : ∃ d ∈ c :: s, p d = false) :
    Text.dropEndWhile p (c :: s) = c :: Text.dropEndWhile p s := by
  unfold Text.dropEndWhile
  rw [List.reverse_cons]
  rcases Gap.all_or_stop p s.reverse with hall | hstop
  · have hc : p c = false := by
      obtain ⟨d, hd, hpd⟩ := h
      rcases List.mem_cons.1 hd with rfl | hd
      · exact hpd
      · rw [hall d (List.mem_reverse.2 hd)] at hpd
        cases hpd
    rw [List.dropWhile_append_of_pos hall, List.dropWhile_eq_nil_iff.2 hall]
    simp [hc]
  · rw [(Gap.takeWhile_append_of_stop hstop _).2]
    simp

/-- **A comment ends where its word first stands**, and the white space in
front of it belongs to the end. -/
theorem splitAtCommentEnd_eq {body : Text} (h : Unended body) :
    ∃ space, body = Text.dropEndWhile Text.isBlank body ++ space ∧
      (∀ c ∈ space, Text.isBlank c = true) ∧
      ∀ w, splitAtCommentEnd (body ++ (endWord ++ w)) =
        (Text.dropEndWhile Text.isBlank body, space ++ (endWord ++ w)) := by
  induction body with
  | nil =>
    refine ⟨[], rfl, by simp, fun w => ?_⟩
    have hsplit : commentEnd.split? ([] ++ (endWord ++ w)) = some ([] ++ endWord, w) :=
      split?_commentEnd_of_blank (by simp) w
    unfold endWord at hsplit ⊢
    simp only [List.nil_append, List.cons_append] at hsplit ⊢
    rw [splitAtCommentEnd, hsplit]
    rfl
  | cons c body ih =>
    -- a body that is all white space belongs to the end of the comment
    rcases Gap.all_or_stop Text.isBlank (c :: body) with hall | hstop
    · refine ⟨c :: body, by rw [dropEndWhile_of_all hall]; rfl, hall, fun w => ?_⟩
      rw [dropEndWhile_of_all hall, List.cons_append, splitAtCommentEnd, ← List.cons_append,
        split?_commentEnd_of_blank hall]
      rfl
    · obtain ⟨space, hbody, hspace, hsplit⟩ := ih (Unended.of_suffix (a := [c]) h)
      refine ⟨space, by rw [dropEndWhile_cons hstop, List.cons_append, ← hbody],
        hspace, fun w => ?_⟩
      rw [dropEndWhile_cons hstop, List.cons_append, splitAtCommentEnd, ← List.cons_append,
        split?_commentEnd_of_visible h hstop, hsplit]
      rfl

/-- The rule that starts comments. -/
def commentRule : Rule :=
  ⟨.commentStart, .word ['<', '!', '-', '-'], .comment⟩

/-- The rule that ends comments. -/
def commentEndRule : Rule := ⟨.commentEnd, commentEnd, .text⟩

/-- The rule of what stands in comments. -/
def commentBodyRule : Rule := ⟨.commentBody, commentBody, .comment⟩

/-- A comment with this body. -/
def comment (body : Text) : Text :=
  ['<', '!', '-', '-'] ++ body ++ endWord

/-- The markup of the body of a comment, where white space at its end does not count. -/
def bodySigns (body : Text) : List Sign :=
  if body = [] then [] else [⟨.commentBody, body⟩]

theorem firstMatch?_commentEnd {space : Text} (h : ∀ c ∈ space, Text.isBlank c = true) (w : Text) :
    firstMatch? Mode.comment.rules (space ++ (endWord ++ w)) =
      some (commentEndRule, space ++ endWord, w) := by
  have hsplit : commentEndRule.pattern.split? (space ++ (endWord ++ w)) =
      some (space ++ endWord, w) :=
    split?_commentEnd_of_blank h w
  exact firstMatch?_of_split? [] commentEndRule [commentBodyRule] rfl hsplit (by simp [endWord])

theorem firstMatch?_commentStart (w : Text) :
    firstMatch? Mode.text.rules (['<', '!', '-', '-'] ++ w) =
      some (commentRule, ['<', '!', '-', '-'], w) :=
  rfl

/-- Where a comment does not end its body goes up to the place where it does. -/
theorem firstMatch?_commentBody {s : Text} (hne : s ≠ []) (hnot : commentEnd.split? s = none) :
    firstMatch? Mode.comment.rules s = some (commentBodyRule, splitAtCommentEnd s) := by
  cases s with
  | nil => exact absurd rfl hne
  | cons c s =>
    have hend : firstMatch? [commentEndRule] (c :: s) = none := by
      simp [firstMatch?, Rule.take?, commentEndRule, hnot]
    have hsplit : splitAtCommentEnd (c :: s) =
        (c :: (splitAtCommentEnd s).1, (splitAtCommentEnd s).2) := by
      rw [splitAtCommentEnd, hnot]
      rfl
    rw [hsplit]
    exact firstMatch?_of_split? [commentEndRule] commentBodyRule [] hend rfl (List.cons_ne_nil _ _)

/-- **A comment reads as its start, its body and its end**, and what follows is not part of it. -/
theorem reads_comment {body : Text} (h : Unended body) :
    ∃ space, (∀ c ∈ space, Text.isBlank c = true) ∧
      ∀ w, Reads .text (comment body ++ w)
        (⟨.commentStart, ['<', '!', '-', '-']⟩ ::
          (bodySigns (Text.dropEndWhile Text.isBlank body) ++ [⟨.commentEnd, space ++ endWord⟩]))
        .text w := by
  obtain ⟨space, hbody, hspace, hsplit⟩ := splitAtCommentEnd_eq h
  refine ⟨space, hspace, fun w => ?_⟩
  have hstart : Reads .text (comment body ++ w) [⟨.commentStart, ['<', '!', '-', '-']⟩] .comment
      (body ++ (endWord ++ w)) := by
    have hcut : comment body ++ w = ['<', '!', '-', '-'] ++ (body ++ (endWord ++ w)) := by
      simp [comment]
    rw [hcut]
    exact Reads.one (firstMatch?_commentStart _)
  have hend : Reads .comment (space ++ (endWord ++ w)) [⟨.commentEnd, space ++ endWord⟩] .text w :=
    Reads.one (m := .comment) (firstMatch?_commentEnd hspace w)
  refine hstart.trans ?_
  -- blanks in front of the end of a comment belong to the end
  rcases Gap.all_or_stop Text.isBlank body with hall | hstop
  · have hnil := dropEndWhile_of_all hall
    rw [hnil, List.nil_append] at hbody
    rw [hnil, hbody]
    exact hend
  · have hne : Text.dropEndWhile Text.isBlank body ≠ [] := by
      intro hnil
      obtain ⟨c, hc, hvisible⟩ := hstop
      rw [List.rdropWhile_eq_nil_iff.1 hnil c hc] at hvisible
      cases hvisible
    have hmatch := firstMatch?_commentBody (s := body ++ (endWord ++ w)) (by simp [endWord])
      (split?_commentEnd_of_visible h hstop w)
    rw [hsplit] at hmatch
    rw [bodySigns, if_neg hne]
    exact .step hmatch hend

theorem standalone_comment {body : Text} (h : Unended body) : Standalone (comment body) := by
  obtain ⟨space, -, hreads⟩ := reads_comment h
  exact .intro rfl hreads

/-- A comment has no markup but that of a comment. -/
theorem kind_of_mem_comment {body : Text} (h : Unended body) {sign : Sign}
    (hsign : sign ∈ signsFrom .text (comment body)) :
    sign.kind = .commentStart ∨ sign.kind = .commentBody ∨ sign.kind = .commentEnd := by
  obtain ⟨space, -, hreads⟩ := reads_comment h
  have hsigns := (hreads []).signsFrom_eq
  rw [List.append_nil, signsFrom_nil, List.append_nil] at hsigns
  rw [hsigns] at hsign
  rcases List.mem_cons.1 hsign with rfl | hsign
  · exact .inl rfl
  · rcases List.mem_append.1 hsign with hsign | hsign
    · unfold bodySigns at hsign
      split at hsign
      · cases hsign
      · rw [List.mem_singleton.1 hsign]
        exact .inr (.inl rfl)
    · rw [List.mem_singleton.1 hsign]
      exact .inr (.inr rfl)

theorem tagsOf_comment {body : Text} (h : Unended body) (names : Text → Bool) :
    tagsOf names (signsFrom .text (comment body)) = [] :=
  tagsOf_eq_nil fun _ hsign => by
    rcases kind_of_mem_comment h hsign with hk | hk | hk <;> rw [hk] <;> simp

/-! ## Tags -/

/-- The rule of opening tags. -/
def openRule : Rule := ⟨.tagOpen, .inOrder (.word ['<'] :: tagName), .tag⟩

theorem isBlank_of_ascii {c : Char} (hlow : 0x20 < c.toNat) (hhigh : c.toNat < 0x85) :
    Text.isBlank c = false := by
  simp only [Text.isBlank, Text.blankRanges, Text.Ranges.contains]
  grind

theorem isBlank_of_isTagName {c : Char} (h : isTagName c = true) : Text.isBlank c = false := by
  simp only [isTagName, Text.isLetter, Text.isDigit, Bool.or_eq_true, Bool.and_eq_true,
    decide_eq_true_eq, Char.le_def, UInt32.le_iff_toNat_le] at h
  rcases h with ((((h | h) | h) | rfl) | rfl)
  · exact isBlank_of_ascii (Nat.lt_of_lt_of_le (by decide) h.1) (Nat.lt_of_le_of_lt h.2 (by decide))
  · exact isBlank_of_ascii (Nat.lt_of_lt_of_le (by decide) h.1) (Nat.lt_of_le_of_lt h.2 (by decide))
  · exact isBlank_of_ascii (Nat.lt_of_lt_of_le (by decide) h.1) (Nat.lt_of_le_of_lt h.2 (by decide))
  · decide
  · decide

/-- A run that is followed by something else. -/
theorem takeWhile_exact {p : Char → Bool} {s w : Text} (hs : ∀ c ∈ s, p c = true)
    (hw : ∀ c, w.head? = some c → p c = false) :
    (s ++ w).takeWhile p = s ∧ (s ++ w).dropWhile p = w := by
  rw [List.takeWhile_append_of_pos hs, List.dropWhile_append_of_pos hs]
  cases w with
  | nil => simp
  | cons c w => simp [hw c rfl]

/-- The name of a tag is taken up to what cannot be part of it. -/
theorem firstMatch?_tagOpen {c : Char} {name w : Text} (hc : Text.isLetter c = true)
    (hname : ∀ d ∈ name, isTagName d = true) (hw : ∀ d, w.head? = some d → isTagName d = false) :
    firstMatch? textRules ('<' :: c :: name ++ w) = some (openRule, '<' :: c :: name, w) := by
  have hcName : isTagName c = true := by simp [isTagName, hc]
  have hblank : Text.isBlank c = false := isBlank_of_isTagName hcName
  have hbang : '!' ≠ c := by rintro rfl; revert hc; decide
  have hslash : '/' ≠ c := by rintro rfl; revert hc; decide
  obtain ⟨htake, hdrop⟩ := takeWhile_exact hname hw
  have htagName : (Pattern.inOrder tagName).split? (c :: (name ++ w)) = some (c :: name, w) := by
    have hspace : (Pattern.run Text.isBlank).split? (c :: (name ++ w)) =
        some ([], c :: (name ++ w)) := by
      rw [Pattern.split?_run, List.takeWhile_cons_of_neg (by simp [hblank]),
        List.dropWhile_cons_of_neg (by simp [hblank])]
    have hletter : (Pattern.one Text.isLetter).split? (c :: (name ++ w)) =
        some ([c], name ++ w) := by
      rw [Pattern.split?_one, if_pos hc]
    have hrun : (Pattern.run isTagName).split? (name ++ w) = some (name, w) := by
      rw [Pattern.split?_run, htake, hdrop]
    have hnothing : (Pattern.inOrder []).split? w = some ([], w) := rfl
    have h := Pattern.inOrder_cons hspace
      (Pattern.inOrder_cons hletter (Pattern.inOrder_cons hrun hnothing))
    rw [List.append_nil] at h
    exact h
  have hsplit : openRule.pattern.split? ('<' :: c :: (name ++ w)) = some (['<'] ++ c :: name, w) :=
    Pattern.inOrder_cons rfl htagName
  -- the three rules in front of this one need a sign that is no letter behind the bracket
  have hbefore : firstMatch? (textRules.take 3) ('<' :: c :: (name ++ w)) = none := by
    simp [firstMatch?, textRules, Rule.take?, Pattern.inOrder, Pattern.split?_followedBy,
      Pattern.split?_word, Text.after?, hbang, hslash]
  exact firstMatch?_of_split? (textRules.take 3) openRule (textRules.drop 4)
    hbefore hsplit (by simp)

theorem normalize_tagOpen {c : Char} {name : Text} (hc : Text.isLetter c = true)
    (hname : ∀ d ∈ name, isTagName d = true) :
    Kind.tagOpen.normalize ('<' :: c :: name) = Text.lower (c :: name) := by
  have hvisible : Text.withoutBlanks (c :: name) = c :: name := by
    refine List.filter_eq_self.2 fun d hd => ?_
    rcases List.mem_cons.1 hd with rfl | hd
    · simp [Text.isVisible, isBlank_of_isTagName (by simp [isTagName, hc] : isTagName d = true)]
    · simp [Text.isVisible, isBlank_of_isTagName (hname d hd)]
  show Text.lower (Text.withoutBlanks (c :: name)) = _
  rw [hvisible]

/-- **The start of a tag reads as its name.** -/
theorem reads_tagOpen {c : Char} {name w : Text} (hc : Text.isLetter c = true)
    (hname : ∀ d ∈ name, isTagName d = true) (hw : ∀ d, w.head? = some d → isTagName d = false) :
    Reads .text ('<' :: c :: name ++ w) [⟨.tagOpen, Text.lower (c :: name)⟩] .tag w := by
  rw [← normalize_tagOpen hc hname]
  exact Reads.one (m := .text) (firstMatch?_tagOpen hc hname hw)

/-- The attributes of a tag with double quotes around their values. -/
def written (attributes : List (Text × Text)) : Text :=
  attributes.flatMap fun a => ' ' :: a.1 ++ ['=', '"'] ++ a.2 ++ ['"']

/-- The markup of attributes. -/
def attributeSigns (attributes : List (Text × Text)) : List Sign :=
  attributes.flatMap fun a =>
    [⟨.attrName, Text.lower a.1⟩, ⟨.attrAssignment, ['=']⟩, ⟨.attrValue, '"' :: a.2 ++ ['"']⟩]

/-- The rule of attribute names. -/
def nameRule : Rule := ⟨.attrName, .someOf isAttributeName, .attribute false⟩

/-- The rule of equals signs. -/
def assignmentRule : Rule :=
  ⟨.attrAssignment, .inOrder [.run Text.isBlank, .word ['='], .run Text.isBlank], .attribute true⟩

/-- The rule of attribute values. -/
def valueRule : Rule := ⟨.attrValue, attributeValue, .tag⟩

/-- The rule of what stands in a tag and is nothing of the above. -/
def spaceRule : Rule := ⟨.text, .orElse (.someOf Text.isBlank) (.one fun _ => true), .tag⟩

theorem isAttributeName_iff {c : Char} : isAttributeName c = true ↔
    Text.isBlank c = false ∧ c ≠ '"' ∧ c ≠ '\'' ∧ c ≠ '<' ∧ c ≠ '>' ∧ c ≠ '/' ∧ c ≠ '=' := by
  simp [isAttributeName, and_assoc]

/-- White space in front of something that is none. -/
theorem reads_blank {space w : Text} {c : Char} (hne : space ≠ [])
    (hspace : ∀ d ∈ space, Text.isBlank d = true) (hc : Text.isBlank c = false) :
    Reads .tag (space ++ c :: w) [] .tag (c :: w) := by
  cases space with
  | nil => exact absurd rfl hne
  | cons d space =>
    obtain ⟨htake, hdrop⟩ := takeWhile_exact (w := c :: w) hspace (by simpa using hc)
    have hd : Text.isBlank d = true := hspace d List.mem_cons_self
    have hsplit : spaceRule.pattern.split? (d :: space ++ c :: w) = some (d :: space, c :: w) := by
      rw [spaceRule, Pattern.split?_orElse, Pattern.split?_someOf, htake, hdrop]
      simp
    have hbefore : firstMatch? (tagRules.take 3) (d :: space ++ c :: w) = none := by
      have hslash : '/' ≠ d := by rintro rfl; revert hd; decide
      have hend : '>' ≠ d := by rintro rfl; revert hd; decide
      have hname : isAttributeName d = false := by simp [isAttributeName, hd]
      simp [firstMatch?, tagRules, Rule.take?, Pattern.split?_word, Pattern.split?_someOf,
        Text.after?, hslash, hend, hname]
    exact Reads.one (m := .tag) (firstMatch?_of_split? (tagRules.take 3) spaceRule []
      hbefore hsplit (by simp))

theorem reads_space {c : Char} {w : Text} (hc : Text.isBlank c = false) :
    Reads .tag (' ' :: c :: w) [] .tag (c :: w) := by
  have hspace : ∀ d ∈ [' '], Text.isBlank d = true := by decide
  exact reads_blank (List.cons_ne_nil _ _) hspace hc

theorem reads_attrName {c : Char} {name w : Text}
    (hname : ∀ d ∈ c :: name, isAttributeName d = true)
    (hw : ∀ d, w.head? = some d → isAttributeName d = false) :
    Reads .tag (c :: name ++ w) [⟨.attrName, Text.lower (c :: name)⟩] (.attribute false) w := by
  obtain ⟨htake, hdrop⟩ := takeWhile_exact hname hw
  obtain ⟨-, -, -, -, hend, hslash, -⟩ := isAttributeName_iff.1 (hname c List.mem_cons_self)
  have hbefore : firstMatch? (tagRules.take 2) (c :: name ++ w) = none := by
    simp [firstMatch?, tagRules, Rule.take?, Pattern.split?_word, Text.after?, Ne.symm hend,
      Ne.symm hslash]
  have hsplit : nameRule.pattern.split? (c :: name ++ w) = some (c :: name, w) := by
    rw [nameRule, Pattern.split?_someOf, htake, hdrop]
    simp
  exact Reads.one (m := .tag)
    (firstMatch?_of_split? (tagRules.take 2) nameRule (tagRules.drop 3) hbefore hsplit (by simp))

/-- An equals sign ends an attribute's name. -/
theorem isAttributeName_assignment (w : Text) :
    ∀ d, ('=' :: w).head? = some d → isAttributeName d = false := by
  intro d hd
  cases hd
  decide

theorem firstMatch?_assignment (w : Text) :
    firstMatch? (Mode.attribute false).rules ('=' :: '"' :: w) =
    some (assignmentRule, ['='], '"' :: w) := rfl

theorem reads_assignment (w : Text) :
    Reads (.attribute false) ('=' :: '"' :: w) [⟨.attrAssignment, ['=']⟩]
      (.attribute true) ('"' :: w) :=
  Reads.one (m := .attribute false) (firstMatch?_assignment w)

theorem strip_quoted (s : Text) : Text.strip ('"' :: s ++ ['"']) = '"' :: s ++ ['"'] := by
  have hquote : Text.isBlank '"' = false := by decide
  simp [Text.strip, Text.trim, Text.dropEndWhile, hquote]

theorem withoutQuotes_quoted (s : Text) : withoutQuotes ('"' :: s ++ ['"']) = s := by
  have hend : Text.endsWith ['"'] (s ++ ['"']) = true := by
    simp [Text.endsWith]
  simp [withoutQuotes, Text.before?, hend]

theorem firstMatch?_attrValue {value : Text} (h : '"' ∉ value) (w : Text) :
    firstMatch? (Mode.attribute true).rules ('"' :: value ++ '"' :: w) =
      some (valueRule, '"' :: value ++ ['"'], w) := by
  have hall : ∀ c ∈ value, decide (c ≠ '"') = true := fun c hc => by
    simp only [decide_eq_true_eq]
    rintro rfl
    exact h hc
  obtain ⟨htake, hdrop⟩ := takeWhile_exact (w := '"' :: w) hall (by simp)
  have hsplit : valueRule.pattern.split? ('"' :: value ++ '"' :: w) =
      some ('"' :: value ++ ['"'], w) := by
    have hrun : (Pattern.run (· ≠ '"')).split? (value ++ '"' :: w) = some (value, '"' :: w) := by
      rw [Pattern.split?_run, htake, hdrop]
    have hlast : (Pattern.inOrder [.word ['"']]).split? ('"' :: w) = some (['"'], w) := rfl
    have hquoted : (quotedValue '"').split? ('"' :: value ++ '"' :: w) =
        some (['"'] ++ (value ++ ['"']), w) :=
      Pattern.inOrder_cons rfl (Pattern.inOrder_cons hrun hlast)
    rw [valueRule, attributeValue, Pattern.split?_orElse, hquoted]
    rfl
  exact firstMatch?_of_split? [] valueRule tagRules rfl hsplit (by simp)

theorem reads_attrValue {value w : Text} (h : '"' ∉ value) :
    Reads (.attribute true) ('"' :: value ++ '"' :: w)
      [⟨.attrValue, '"' :: value ++ ['"']⟩] .tag w := by
  have hsign : Sign.ofPiece .attrValue ('"' :: value ++ ['"']) =
      [⟨.attrValue, '"' :: value ++ ['"']⟩] := by
    rw [show Sign.ofPiece .attrValue ('"' :: value ++ ['"']) =
      [⟨.attrValue, '"' :: withoutQuotes (Text.strip ('"' :: value ++ ['"'])) ++ ['"']⟩] from rfl,
      strip_quoted, withoutQuotes_quoted]
  rw [← hsign]
  exact Reads.one (m := .attribute true) (firstMatch?_attrValue h w)

theorem kind_of_mem_attributeSigns {attributes : List (Text × Text)} {sign : Sign}
    (h : sign ∈ attributeSigns attributes) :
    sign.kind = .attrName ∨ sign.kind = .attrAssignment ∨ sign.kind = .attrValue := by
  obtain ⟨a, -, ha⟩ := List.mem_flatMap.1 h
  simp only [List.mem_cons, List.not_mem_nil, or_false] at ha
  rcases ha with rfl | rfl | rfl <;> simp

/-- The names of attributes, and the values that can stand between double quotes. -/
def Writable (attributes : List (Text × Text)) : Prop :=
  ∀ a ∈ attributes, a.1 ≠ [] ∧ (∀ c ∈ a.1, isAttributeName c = true) ∧ '"' ∉ a.2

/-- Written attributes one by one: a name starts with no white space. -/
theorem Writable.of_cons {a : Text × Text} {attributes : List (Text × Text)}
    (h : Writable (a :: attributes)) :
    Writable attributes ∧ '"' ∉ a.2 ∧ ∃ c name, a.1 = c :: name ∧ Text.isBlank c = false ∧
      ∀ d ∈ c :: name, isAttributeName d = true := by
  obtain ⟨hne, hname, hvalue⟩ := h a List.mem_cons_self
  obtain ⟨c, name, heq⟩ := List.exists_cons_of_ne_nil hne
  rw [heq] at hname
  exact ⟨fun b hb => h b (List.mem_cons_of_mem a hb), hvalue, c, name, heq,
    (isAttributeName_iff.1 (hname c List.mem_cons_self)).1, hname⟩

theorem written_cons (a : Text × Text) (attributes : List (Text × Text)) (w : Text) :
    written (a :: attributes) ++ w = ' ' ::
      (a.1 ++ '=' :: '"' :: (a.2 ++ '"' :: (written attributes ++ w))) := by
  simp [written]

/-- **Written attributes read as their names and values.** -/
theorem reads_written {attributes : List (Text × Text)} (h : Writable attributes) (w : Text) :
    Reads .tag (written attributes ++ w) (attributeSigns attributes) .tag w := by
  induction attributes with
  | nil => exact .done _ _
  | cons a attributes ih =>
    obtain ⟨hattributes, hvalue, c, name, heq, hblank, hname⟩ := h.of_cons
    obtain ⟨_, value⟩ := a
    cases heq
    rw [written_cons]
    have hspace := reads_space (w := name ++ '=' :: '"' ::
      (value ++ '"' :: (written attributes ++ w))) hblank
    have hread := (reads_attrName hname
      (isAttributeName_assignment ('"' :: (value ++ '"' :: (written attributes ++ w))))).trans
      ((reads_assignment _).trans ((reads_attrValue hvalue).trans (ih hattributes)))
    exact hspace.trans hread

/-! ### Whole tags -/

/-- The start of a tag with its attributes. -/
def tagStart (name : Text) (attributes : List (Text × Text)) : Text :=
  '<' :: name ++ written attributes

/-- The markup of the start of a tag. -/
def tagSigns (name : Text) (attributes : List (Text × Text)) : List Sign :=
  ⟨.tagOpen, Text.lower name⟩ :: attributeSigns attributes

/-- A tag that closes itself. -/
def voidTag (name : Text) (attributes : List (Text × Text)) : Text :=
  tagStart name attributes ++ [' ', '/', '>']

/-- A tag that is left open. -/
def openTag (name : Text) (attributes : List (Text × Text)) : Text :=
  tagStart name attributes ++ ['>']

/-- The names of tags. -/
def IsName (name : Text) : Prop :=
  ∃ c rest, name = c :: rest ∧ Text.isLetter c = true ∧ ∀ d ∈ rest, isTagName d = true

/-- The attributes of a tag end with a quote, so whatever follows them is no part of them. -/
theorem reads_tagStart_cons {name : Text} {a : Text × Text} {attributes : List (Text × Text)}
    (hn : IsName name) (h : Writable (a :: attributes)) (w : Text) :
    Reads .text (tagStart name (a :: attributes) ++ w)
      (tagSigns name (a :: attributes)) .tag w := by
  obtain ⟨d, rest, rfl, hd, hrest⟩ := hn
  have hhead : ∀ e, (written (a :: attributes) ++ w).head? = some e → isTagName e = false := by
    intro e he
    rw [written_cons] at he
    cases he
    decide
  rw [tagStart, List.append_assoc]
  exact (reads_tagOpen hd hrest hhead).trans (reads_written h _)

theorem reads_tagStart {name : Text} {attributes : List (Text × Text)} (hn : IsName name)
    (h : Writable attributes) {c : Char} (hc : isTagName c = false) (w : Text) :
    Reads .text (tagStart name attributes ++ c :: w) (tagSigns name attributes) .tag (c :: w) := by
  cases attributes with
  | nil =>
    obtain ⟨d, rest, rfl, hd, hrest⟩ := hn
    have hhead : ∀ e, (c :: w).head? = some e → isTagName e = false := by
      intro e he
      cases he
      exact hc
    have hread := reads_tagOpen hd hrest hhead
    rw [tagStart, tagSigns, written, attributeSigns, List.flatMap_nil,
      List.flatMap_nil, List.append_nil]
    exact hread
  | cons a attributes => exact reads_tagStart_cons hn h _

theorem reads_voidTag {name : Text} {attributes : List (Text × Text)} (hn : IsName name)
    (h : Writable attributes) (w : Text) :
    Reads .text (voidTag name attributes ++ w)
      (tagSigns name attributes ++ [⟨.tagSelfClose, ['/', '>']⟩]) .text w := by
  have hmatch : firstMatch? tagRules ('/' :: '>' :: w) =
      some (⟨.tagSelfClose, .word ['/', '>'], .text⟩, ['/', '>'], w) := rfl
  have hend : Reads .tag (' ' :: '/' :: '>' :: w) ([] ++ [⟨.tagSelfClose, ['/', '>']⟩]) .text w :=
    (reads_space (by decide)).trans (Reads.one (m := .tag) hmatch)
  rw [voidTag, List.append_assoc]
  exact (reads_tagStart hn h (by decide) _).trans hend

theorem reads_openTag {name : Text} {attributes : List (Text × Text)} (hn : IsName name)
    (h : Writable attributes) (w : Text) :
    Reads .text (openTag name attributes ++ w)
      (tagSigns name attributes ++ [⟨.tagEnd, ['>']⟩]) .text w := by
  have hmatch : firstMatch? tagRules ('>' :: w) = some (⟨.tagEnd, .word ['>'], .text⟩, ['>'], w) :=
    rfl
  rw [openTag, List.append_assoc]
  exact (reads_tagStart hn h (by decide) _).trans (Reads.one (m := .tag) hmatch)

/-- **A tag is found with the attributes that are read behind its name**,
if its name is looked for. -/
theorem tagsOf_open (names : Text → Bool) (name : Text) {v : List Sign} {attributes : Attributes}
    (hopen : ∀ sign ∈ v, sign.kind ≠ .tagOpen)
    (hread : ∀ tokens, Attributes.readFrom [] none (v.map Sign.token ++ tokens) =
      (attributes, tokens))
    (w : List Sign) : tagsOf names (⟨.tagOpen, name⟩ :: (v ++ w)) =
      (if names name then [(name, attributes)] else []) ++ tagsOf names w := by
  have hskip := tagsOf_append_of_ne names hopen w
  rw [tagsOf, List.map_append] at hskip
  rw [tagsOf, List.map_cons, List.map_append, tagsNamed, Attributes.read, hread]
  cases hname : names name with
  | true => simp [Sign.token, hname, tagsOf]
  | false => simpa [Sign.token, hname] using hskip

/-! ### Reading the attributes back -/

/-- Attributes as they are read: by lower-case name, each with its value. -/
def readBack (attributes : List (Text × Text)) : Attributes :=
  attributes.map fun a => (Text.lower a.1, some a.2)

theorem lookup_readBack {attributes : List (Text × Text)}
    (h : (attributes.map fun a => Text.lower a.1).Nodup) {a : Text × Text} (ha : a ∈ attributes) :
    (readBack attributes).lookup (Text.lower a.1) = some (some a.2) := by
  induction attributes with
  | nil => cases ha
  | cons b attributes ih =>
    rw [List.map_cons, List.nodup_cons] at h
    rw [readBack, List.map_cons, List.lookup_cons]
    rcases List.mem_cons.1 ha with rfl | ha
    · simp
    · have hne : Text.lower a.1 ≠ Text.lower b.1 := by
        intro heq
        rw [← heq] at h
        exact h.1 (List.mem_map_of_mem (f := fun a : Text × Text => Text.lower a.1) ha)
      have hbeq : (Text.lower a.1 == Text.lower b.1) = false := beq_eq_false_iff_ne.2 hne
      rw [hbeq]
      exact ih h.2 ha

theorem value?_readBack {attributes : List (Text × Text)}
    (h : (attributes.map fun a => Text.lower a.1).Nodup) {a : Text × Text} (ha : a ∈ attributes) :
    Attributes.value? (readBack attributes) (Text.lower a.1) = some a.2 := by
  rw [Attributes.value?, lookup_readBack h ha]
  rfl

theorem has_eq_false {attributes : Attributes} {name : Text} (h : name ∉ attributes.map Prod.fst) :
    attributes.has name = false := by
  rw [Attributes.has, List.lookup_eq_none_iff.2]
  · rfl
  · intro a ha
    have hne : name ≠ a.1 := by
      rintro rfl
      exact h (List.mem_map_of_mem ha)
    simp [hne]

theorem setValue_append_singleton {attributes : Attributes} {name : Text}
    (h : name ∉ attributes.map Prod.fst) (before : Option Text) (value : Text) :
    Attributes.setValue (attributes ++ [(name, before)]) name value =
      attributes ++ [(name, some value)] := by
  have hsame : ∀ a ∈ attributes, (if a.1 = name then (a.1, some value) else a) = a := by
    intro a ha
    refine if_neg ?_
    rintro rfl
    exact h (List.mem_map_of_mem ha)
  rw [Attributes.setValue, List.map_append, List.map_congr_left hsame]
  simp

/-- **Attributes with different names are read back as they were written.** The induction is on what
is still to be read; the names that are there already are no names of it. -/
theorem readFrom_attributeSigns (attributes : List (Text × Text)) (found : Attributes)
    (tokens : List Token)
    (h : (found.map Prod.fst ++ attributes.map fun a => Text.lower a.1).Nodup) :
    Attributes.readFrom found none ((attributeSigns attributes).map Sign.token ++ tokens) =
      Attributes.readFrom (found ++ readBack attributes) none tokens := by
  induction attributes generalizing found with
  | nil => simp [attributeSigns, readBack]
  | cons a attributes ih =>
    have hname : Text.lower a.1 ∉ found.map Prod.fst := by
      rw [List.map_cons] at h
      exact fun hin => (List.nodup_append.1 h).2.2 _ hin _ List.mem_cons_self rfl
    have hvalue : unquote ('"' :: (a.2 ++ ['"'])) = a.2 := unquote_quoted a.2
    -- the value is assigned to the name read last, and the quotes it was written with are taken off
    have hread : Attributes.readFrom found none (Sign.token ⟨.attrName, Text.lower a.1⟩ ::
        Sign.token ⟨.attrAssignment, ['=']⟩ :: Sign.token ⟨.attrValue, '"' :: a.2 ++ ['"']⟩ ::
          ((attributeSigns attributes).map Sign.token ++ tokens)) =
        Attributes.readFrom (found ++ [(Text.lower a.1, some a.2)]) none
          ((attributeSigns attributes).map Sign.token ++ tokens) := by
      rw [← setValue_append_singleton hname none]
      simp [Attributes.readFrom, Sign.token, Kind.endsTag, has_eq_false hname, hvalue]
    have hcut : (attributeSigns (a :: attributes)).map Sign.token ++ tokens =
        Sign.token ⟨.attrName, Text.lower a.1⟩ :: Sign.token ⟨.attrAssignment, ['=']⟩ ::
          Sign.token ⟨.attrValue, '"' :: a.2 ++ ['"']⟩ ::
            ((attributeSigns attributes).map Sign.token ++ tokens) := by
      simp [attributeSigns]
    rw [hcut, hread, ih]
    · simp [readBack]
    · simpa using h

/-- **A written tag is found with its attributes**, if its name is looked for. -/
theorem tagsOf_tagSigns (names : Text → Bool) (name : Text) {attributes : List (Text × Text)}
    (h : (attributes.map fun a => Text.lower a.1).Nodup) {ending : Sign}
    (hending : ending.kind.endsTag = true) (v : List Sign) :
    tagsOf names (tagSigns name attributes ++ ending :: v) =
      (if names (Text.lower name) then [(Text.lower name, readBack attributes)] else []) ++
        tagsOf names v := by
  have hopen : ∀ sign ∈ attributeSigns attributes ++ [ending], sign.kind ≠ .tagOpen := by
    intro sign hs
    rcases List.mem_append.1 hs with hs | hs
    · rcases kind_of_mem_attributeSigns hs with hk | hk | hk <;> rw [hk] <;> simp
    · rw [List.mem_singleton.1 hs]
      intro hkind
      rw [hkind] at hending
      cases hending
  have hread : ∀ tokens, Attributes.readFrom [] none
      ((attributeSigns attributes ++ [ending]).map Sign.token ++ tokens) =
          (readBack attributes, tokens) := by
    intro tokens
    have hback := readFrom_attributeSigns attributes [] (ending.token :: tokens) h
    have hend : ending.token.kind.endsTag = true := hending
    simpa [Attributes.readFrom, hend] using hback
  have htag := tagsOf_open names (Text.lower name) hopen hread v
  rwa [List.append_assoc] at htag

end Markup
end SiteOptimizer
