import SiteOptimizer.Proofs.Markup.Gap

/-!
# Reading on after an insertion

What goes in front of a closing tag does not change how the text before it is read, with one
exception: a quote that opens an attribute's value and is never closed finds its other half in
what goes in. `Settles` says that a pattern makes the same of both texts unless it goes beyond
the place; every rule of the lexer settles, and `reads_inserted` draws the conclusion for all
that is read on the way to the place.
-/

namespace SiteOptimizer
namespace Markup

open Text (Pattern)

namespace Gap

variable {g : Gap}

/-! ## Patterns that look for an end

The patterns of document types, quoted values and comments run on to their end, which may stand
behind the place. What they do then does not matter, as nothing that leaves less than what stood at
the place is read on the way there. -/

/-- A pattern makes the same of both texts, unless it goes beyond the place. -/
structure Settles (g : Gap) (p : Pattern) (s : Text) : Prop where
  fails : p.split? (s ++ g.old) = none → p.split? (s ++ g.inserted) = none
  finds : ∀ found rest, p.split? (s ++ g.old) = some (found, rest) → g.old.length ≤ rest.length →
    ∃ found' rest', p.split? (s ++ g.inserted) = some (found', rest') ∧
      g.Outcome (some (found, rest)) (some (found', rest'))

theorem settles_of_steady {p : Pattern} {s : Text}
    (h : g.Steady p (s ++ g.old) (s ++ g.inserted)) : g.Settles p s := by
  unfold Steady at h
  generalize hy : p.split? (s ++ g.inserted) = b at h
  constructor
  · intro hx
    rw [hx] at h
    cases h
    exact hy
  · intro found rest hx _
    rw [hx] at h
    cases b with
    | none => cases h
    | some b => exact ⟨b.1, b.2, hy, h⟩

theorem settles_orElse {p q : Pattern} {s : Text} (hp : g.Settles p s) (hq : g.Settles q s) :
    g.Settles (p.orElse q) s := by
  constructor
  · rw [Pattern.split?_orElse, Pattern.split?_orElse]
    cases hx : p.split? (s ++ g.old) with
    | none => rw [hp.fails hx]; exact hq.fails
    | some a => intro h; cases h
  · rw [Pattern.split?_orElse, Pattern.split?_orElse]
    intro found rest
    cases hx : p.split? (s ++ g.old) with
    | none => rw [hp.fails hx]; exact hq.finds found rest
    | some a =>
      rintro h hlen
      cases h
      obtain ⟨found', rest', hy, ho⟩ := hp.finds found rest hx hlen
      exact ⟨found', rest', by rw [hy], ho⟩

/-- A pattern that goes beyond the place settles nothing there. -/
theorem settles_of_beyond {p : Pattern} {s found rest : Text}
    (h : p.split? (s ++ g.old) = some (found, rest)) (hlt : rest.length < g.old.length) :
    g.Settles p s := by
  constructor
  · intro hx; rw [h] at hx; cases hx
  · intro found' rest' hx hlen
    rw [h] at hx
    cases hx
    omega

/-- What a run up to some character leaves starts with that character. -/
theorem dropWhile_ne_of_mem {e : Char} {s : Text} (h : e ∈ s) :
    ∃ r, s.dropWhile (· ≠ e) = e :: r ∧ r.length < s.length := by
  induction s with
  | nil => cases h
  | cons c s ih =>
    by_cases hc : c = e
    · exact ⟨s, by simp [hc], by simp⟩
    · obtain ⟨r, hr, hlt⟩ := ih ((List.mem_cons.1 h).resolve_left (Ne.symm hc))
      exact ⟨r, by simpa [hc] using hr, by simp; omega⟩

/-- The front of a run up to some character, the run and the character itself. -/
theorem split?_upTo {e : Char} {front : Pattern} {a s r : Text} (x : Text)
    (hf : front.split? x = some (a, s)) (hd : s.dropWhile (· ≠ e) = e :: r) :
    (Pattern.inOrder [front, .run (· ≠ e), .word [e]]).split? x =
      some (a ++ (s.takeWhile (· ≠ e) ++ [e]), r) := by
  simp only [Pattern.inOrder, List.foldr_cons, List.foldr_nil, Pattern.split?_followedBy, hf,
    Pattern.split?_run, hd, Pattern.split?_word, Text.after?, Pattern.nothing]
  simp

/-- A pattern that ends before the place does so whatever stands there. -/
theorem settles_of_same {p : Pattern} {s found r : Text}
    (h : ∀ x, p.split? (s ++ x) = some (found, r ++ x)) : g.Settles p s := by
  constructor
  · intro hx; rw [h] at hx; cases hx
  · intro found' rest' hx _
    rw [h] at hx
    cases hx
    exact ⟨_, _, h _, .same _ r⟩

/-- So does a pattern that fails before the place. -/
theorem settles_of_none {p : Pattern} {s : Text} (hold : p.split? (s ++ g.old) = none)
    (hnew : p.split? (s ++ g.inserted) = none) : g.Settles p s := by
  constructor
  · exact fun _ => hnew
  · intro found' rest' hx
    rw [hold] at hx
    cases hx

theorem all_ne_of_not_mem {e : Char} {s : Text} (h : e ∉ s) : ∀ c ∈ s, decide (c ≠ e) = true := by
  intro c hc
  simp only [decide_eq_true_eq]
  rintro rfl
  exact h hc

theorem dropWhile_ne_of_not_mem {e : Char} {s : Text} (h : e ∉ s) : s.dropWhile (· ≠ e) = [] := by
  have hall : (s ++ []).dropWhile (· ≠ e) = [] := List.dropWhile_append_of_pos (all_ne_of_not_mem h)
  rwa [List.append_nil] at hall

theorem split?_quotedValue_of_ne {q c : Char} (h : q ≠ c) (s : Text) :
    (quotedValue q).split? (c :: s) = none := by
  simp [quotedValue, Pattern.inOrder, Pattern.split?_followedBy,
    Pattern.split?_word, Text.after?, h]

theorem split?_quotedValue_of_not_mem {q : Char} {s : Text} (h : q ∉ s) :
    (quotedValue q).split? (q :: s) = none := by
  simp only [quotedValue, Pattern.inOrder, List.foldr_cons, Pattern.split?_followedBy,
    Pattern.split?_word, Text.after?, if_true, Option.map_some, Pattern.split?_run,
    dropWhile_ne_of_not_mem h]
  rfl

theorem split?_quotedValue {q : Char} {s r : Text} (h : s.dropWhile (· ≠ q) = q :: r) :
    (quotedValue q).split? (q :: s) = some ([q] ++ (s.takeWhile (· ≠ q) ++ [q]), r) :=
  split?_upTo _ (by simp [Pattern.split?_word, Text.after?]) h

/-- A quoted value settles unless its quote is open up to the place and behind it. -/
theorem settles_quotedValue {q c : Char} {s : Text} (hpad : Text.isIndent q = false)
    (hq : q = c → q ∈ s ++ g.old ∨ q ∉ g.new) : g.Settles (quotedValue q) (c :: s) := by
  by_cases hc : q = c
  · subst hc
    by_cases hin : q ∈ s
    · obtain ⟨r, hr, -⟩ := dropWhile_ne_of_mem hin
      have hstop : ∃ c ∈ s, decide (c ≠ q) = false := ⟨q, hin, by simp⟩
      have hsame : ∀ x, (quotedValue q).split? (q :: s ++ x) =
          some ([q] ++ (s.takeWhile (· ≠ q) ++ [q]), r ++ x) := by
        intro x
        rw [List.cons_append, split?_quotedValue, (takeWhile_append_of_stop hstop x).1]
        rw [(takeWhile_append_of_stop hstop x).2, hr]
        rfl
      exact settles_of_same hsame
    -- the value is open in front of the gap, so its end is in the old text or nowhere
    · by_cases hold : q ∈ g.old
      · obtain ⟨r, hr, hlt⟩ := dropWhile_ne_of_mem hold
        refine settles_of_beyond (split?_quotedValue (s := s ++ g.old) ?_) hlt
        rw [List.dropWhile_append_of_pos (all_ne_of_not_mem hin), hr]
      · have hsold : q ∉ s ++ g.old := by simp [hin, hold]
        have hnew : q ∉ g.new := (hq rfl).resolve_left hsold
        have hsnew : q ∉ s ++ g.inserted := by
          intro h
          rcases List.mem_append.1 h with h | h
          · exact hin h
          · rcases List.mem_append.1 h with h | h
            · rw [g.pad_indent q h] at hpad; cases hpad
            · exact hnew h
        exact settles_of_none (split?_quotedValue_of_not_mem hsold)
          (split?_quotedValue_of_not_mem hsnew)
  · exact settles_of_none (split?_quotedValue_of_ne hc _) (split?_quotedValue_of_ne hc _)

/-! ### Document types -/

/-- The pattern of document types. -/
def docType : Pattern :=
  .inOrder [.word ['<', '!'], .someOf (· ≠ '>'), .word ['>']]

theorem split?_docType {s r : Text} (h : s.dropWhile (· ≠ '>') = '>' :: r) :
    docType.split? ('<' :: '!' :: s) =
      if s.takeWhile (· ≠ '>') = [] then none
      else some (['<', '!'] ++ (s.takeWhile (· ≠ '>') ++ ['>']), r) := by
  rw [docType, Pattern.inOrder, List.foldr_cons, Pattern.split?_followedBy]
  simp only [Pattern.split?_word, Text.after?, if_true, Option.map_some,
    List.foldr_cons, List.foldr_nil]
  rw [Pattern.split?_followedBy, Pattern.split?_someOf]
  by_cases hnil : s.takeWhile (· ≠ '>') = []
  · rw [if_pos hnil, if_pos hnil]
    rfl
  · rw [if_neg hnil, if_neg hnil]
    simp only [h, Pattern.split?_followedBy, Pattern.split?_word]
    simp [Text.after?, Pattern.nothing]

theorem split?_docType_of_after? {s : Text} (h : Text.after? ['<', '!'] s = none) :
    docType.split? s = none := by
  simp [docType, Pattern.inOrder, Pattern.split?_followedBy, Pattern.split?_word, h]

/-- A document type that is open at the place ends there, as a closing tag stands there. -/
theorem settles_docType (hclose : '>' ∈ g.old) (c : Char) (s : Text) :
    g.Settles docType (c :: s) := by
  obtain ⟨o, ho⟩ := g.old_eq
  obtain ⟨d, i, hi, hd⟩ := g.inserted_eq
  by_cases hc : c = '<'
  · subst hc
    cases s with
    | nil =>
      have hne : '!' ≠ d := by rintro rfl; cases hd
      refine settles_of_none (split?_docType_of_after? ?_) (split?_docType_of_after? ?_)
      · rw [ho]; rfl
      · rw [hi]; simp [Text.after?, hne]
    | cons b s =>
      by_cases hb : b = '!'
      · subst hb
        -- a declaration that is closed in front of the gap is the same; else it runs up to the
        -- first bracket of the old text, behind the gap
        by_cases hin : '>' ∈ s
        · obtain ⟨r, hr, -⟩ := dropWhile_ne_of_mem hin
          have hstop : ∃ c ∈ s, decide (c ≠ '>') = false := ⟨'>', hin, by simp⟩
          have hsplit : ∀ x : Text, docType.split? ('<' :: '!' :: s ++ x) =
              if s.takeWhile (· ≠ '>') = [] then none
              else some (['<', '!'] ++ (s.takeWhile (· ≠ '>') ++ ['>']), r ++ x) := fun x => by
            rw [List.cons_append, List.cons_append, split?_docType (r := r ++ x),
              (takeWhile_append_of_stop hstop x).1]
            rw [(takeWhile_append_of_stop hstop x).2, hr]
            rfl
          by_cases hnil : s.takeWhile (· ≠ '>') = []
          · exact settles_of_none (by rw [hsplit, if_pos hnil]) (by rw [hsplit, if_pos hnil])
          · exact settles_of_same fun x => by rw [hsplit, if_neg hnil]
        · obtain ⟨r, hr, hlt⟩ := dropWhile_ne_of_mem hclose
          have hall := all_ne_of_not_mem hin
          have hsplit := split?_docType (s := s ++ g.old) (r := r)
            (by rw [List.dropWhile_append_of_pos hall, hr])
          rw [if_neg] at hsplit
          · exact settles_of_beyond hsplit hlt
          · rw [List.takeWhile_append_of_pos hall, ho]
            simp
      · refine settles_of_none (split?_docType_of_after? ?_) (split?_docType_of_after? ?_) <;>
          simp [Text.after?, Ne.symm hb]
  · refine settles_of_none (split?_docType_of_after? ?_) (split?_docType_of_after? ?_) <;>
      simp [Text.after?, Ne.symm hc]

/-! ### Comments -/

theorem stops_blank : g.Stops Text.isBlank :=
  ⟨by decide, .inl fun _ => Text.isBlank_of_isIndent⟩

theorem solid_of_decide {w : Text} (h : (w.all fun c => c ≠ '<' && !Text.isIndent c) = true) :
    Solid w := by
  intro c hc
  have := List.all_eq_true.1 h c hc
  simpa using this

theorem steady_commentEnd {x y : Text} (h : g.Alike x y) : g.Steady commentEnd x y := by
  refine steady_inOrder (steady_run stops_blank h) fun q hq x' y' h' => ?_
  rw [List.mem_singleton.1 hq]
  exact steady_word (by simp) (solid_of_decide (by decide)) h'

theorem commentEnd_old : commentEnd.split? g.old = none := by
  obtain ⟨o, ho⟩ := g.old_eq
  rw [commentEnd, Pattern.inOrder, List.foldr_cons, Pattern.split?_followedBy,
    Pattern.split?_run, ho]
  have hb : Text.isBlank '<' = false := by decide
  simp [hb, Pattern.split?_followedBy, Pattern.split?_word, Text.after?]

theorem length_splitAtCommentEnd_le (s : Text) : (splitAtCommentEnd s).2.length ≤ s.length := by
  have h := congrArg List.length (splitAtCommentEnd_append s)
  rw [List.length_append] at h
  omega

/-- The place where a comment ends is found before an insertion if it is
found before what stood there. -/
theorem splitAtCommentEnd_append_inserted (s : Text)
    (h : g.old.length ≤ (splitAtCommentEnd (s ++ g.old)).2.length) :
    ∃ a b, splitAtCommentEnd (s ++ g.old) = (a, b ++ g.old) ∧
      splitAtCommentEnd (s ++ g.inserted) = (a, b ++ g.inserted) := by
  induction s with
  | nil =>
    -- the old text starts with a tag, which is no comment end, so a body at its start takes some of
    -- it
    exfalso
    obtain ⟨o, ho⟩ := g.old_eq
    have hnone := g.commentEnd_old
    rw [List.nil_append] at h
    rw [ho] at h hnone
    simp only [splitAtCommentEnd, hnone, Option.isSome_none, Bool.false_eq_true, if_false,
      List.length_cons] at h
    have := length_splitAtCommentEnd_le o
    omega
  | cons c s ih =>
    have hs := steady_commentEnd (Alike.before (g := g) (c :: s))
    unfold Steady at hs
    simp only [List.cons_append] at hs h ⊢
    simp only [splitAtCommentEnd] at h ⊢
    generalize commentEnd.split? (c :: (s ++ g.old)) = x at hs h
    generalize commentEnd.split? (c :: (s ++ g.inserted)) = y at hs
    cases hs with
    | neither =>
      obtain ⟨a, b, h1, h2⟩ := ih (by simpa using h)
      exact ⟨c :: a, b, by simp [h1], by simp [h2]⟩
    | same => exact ⟨[], c :: s, by simp, by simp⟩
    | stretched => exact ⟨[], c :: s, by simp, by simp⟩

theorem settles_commentBody (c : Char) (s : Text) : g.Settles commentBody (c :: s) := by
  have hsplit : ∀ x : Text, commentBody.split? (c :: s ++ x) =
      some (c :: (splitAtCommentEnd (s ++ x)).1, (splitAtCommentEnd (s ++ x)).2) := fun _ => rfl
  constructor
  · intro hx; rw [hsplit] at hx; cases hx
  · intro found rest hx hlen
    rw [hsplit] at hx
    cases hx
    obtain ⟨a, b, h1, h2⟩ := splitAtCommentEnd_append_inserted s hlen
    rw [hsplit, h1, h2]
    exact ⟨_, _, rfl, .same _ b⟩

/-! ## Rules -/

theorem stops_tagName : g.Stops isTagName :=
  ⟨by decide, .inr fun c hc => by
    simp only [Text.isIndent, Bool.or_eq_true, decide_eq_true_eq] at hc
    rcases hc with rfl | rfl <;> decide⟩

theorem stops_attributeName : g.Stops isAttributeName :=
  ⟨by decide, .inr fun c hc => by simp [isAttributeName, Text.isBlank_of_isIndent hc]⟩

theorem stops_bareValue : g.Stops isBareValue :=
  ⟨by decide, .inr fun c hc => by simp [isBareValue, Text.isBlank_of_isIndent hc]⟩

theorem stops_indent : g.Stops Text.isIndent :=
  ⟨by decide, .inl fun _ hc => hc⟩

theorem stops_prose : g.Stops isProse :=
  ⟨by decide, .inl fun c hc => by
    simp only [Text.isIndent, Bool.or_eq_true, decide_eq_true_eq] at hc
    rcases hc with rfl | rfl <;> decide⟩

theorem isLetter_of_isIndent (c : Char)
    (hc : Text.isIndent c = true) : Text.isLetter c = false := by
  simp only [Text.isIndent, Bool.or_eq_true, decide_eq_true_eq] at hc
  rcases hc with rfl | rfl <;> decide

/-- The patterns behind the front of a tag. -/
theorem steady_tagName {q : Pattern} (hq : q ∈ tagName ++ [.run Text.isBlank, .word ['>']])
    (x y : Text) (h : g.Alike x y) : g.Steady q x y := by
  simp only [tagName, List.cons_append, List.nil_append, List.mem_cons,
    List.not_mem_nil, or_false] at hq
  rcases hq with rfl | rfl | rfl | rfl | rfl
  · exact steady_run stops_blank h
  · exact steady_one (by decide) isLetter_of_isIndent h
  · exact steady_run stops_tagName h
  · exact steady_run stops_blank h
  · exact steady_word (by simp) (solid_of_decide (by decide)) h

/-- No quote is open up to the place that what is inserted would close. -/
def Closed (g : Gap) (m : Mode) (s : Text) : Prop :=
  m = .attribute true → ∀ q t, (q = '"' ∨ q = '\'') → s = q :: t → q ∈ t ++ g.old ∨ q ∉ g.new

theorem settles_tagRules (c : Char) (s : Text) :
    ∀ rule ∈ tagRules, g.Settles rule.pattern (c :: s) := by
  intro rule hr
  simp only [tagRules, List.mem_cons, List.not_mem_nil, or_false] at hr
  rcases hr with rfl | rfl | rfl | rfl
  · exact settles_of_steady (steady_word_before (solid_of_decide (by decide)) c s)
  · exact settles_of_steady (steady_word_before (solid_of_decide (by decide)) c s)
  · exact settles_of_steady (steady_someOf stops_attributeName c s)
  · exact settles_of_steady
      (steady_orElse (steady_someOf stops_blank c s) (steady_one_before _ c s))

theorem settles_textRules (hclose : '>' ∈ g.old) (c : Char) (s : Text) :
    ∀ rule ∈ textRules, g.Settles rule.pattern (c :: s) := by
  intro rule hr
  simp only [textRules, List.mem_cons, List.not_mem_nil, or_false] at hr
  rcases hr with rfl | rfl | rfl | rfl | rfl | rfl | rfl
  · exact settles_of_steady (steady_word_before (solid_of_decide (by decide)) c s)
  · exact settles_docType hclose c s
  · exact settles_of_steady (steady_inOrder
      (steady_word_before (solid_of_decide (by decide)) c s) fun q hq => steady_tagName hq)
  · exact settles_of_steady (steady_inOrder (steady_word_before (solid_of_decide (by decide)) c s)
      fun q hq => steady_tagName (List.mem_append_left _ hq))
  · exact settles_of_steady (steady_orElse
      (steady_word_before (solid_of_decide (by decide)) c s) (steady_one_before _ c s))
  · exact settles_of_steady (steady_someOf stops_indent c s)
  · exact settles_of_steady (steady_orElse
      (steady_word_before (solid_of_decide (by decide)) c s) (steady_someOf stops_prose c s))

/-- **Every rule of every mode settles** unless the insertion closes a quote. -/
theorem settles_rules (hclose : '>' ∈ g.old) {m : Mode} {c : Char} {s : Text}
    (hq : g.Closed m (c :: s)) : ∀ rule ∈ m.rules, g.Settles rule.pattern (c :: s) := by
  intro rule hr
  -- the rules of a tag are shared by three modes, and each of these has rules of its own in front
  -- of them
  rcases m with _ | _ | (_ | _) | _
  · exact settles_textRules hclose c s rule hr
  · exact settles_tagRules c s rule hr
  · rcases List.mem_cons.1 hr with rfl | hr
    · refine settles_of_steady (steady_inOrder (steady_run stops_blank (.before _))
        fun q hq x y h => ?_)
      simp only [List.mem_cons, List.not_mem_nil, or_false] at hq
      rcases hq with rfl | rfl
      · exact steady_word (by simp) (solid_of_decide (by decide)) h
      · exact steady_run stops_blank h
    · rcases List.mem_cons.1 hr with rfl | hr
      · exact settles_of_steady (steady_someOf stops_blank c s)
      · exact settles_tagRules c s rule hr
  · rcases List.mem_cons.1 hr with rfl | hr
    · refine settles_orElse ?_ (settles_orElse ?_ ?_)
      · exact settles_quotedValue (by decide) fun h => hq rfl _ s (.inl rfl) (by rw [h])
      · exact settles_quotedValue (by decide) fun h => hq rfl _ s (.inr rfl) (by rw [h])
      · exact settles_of_steady (steady_someOf stops_bareValue c s)
    · exact settles_tagRules c s rule hr
  · simp only [Mode.rules, List.mem_cons, List.not_mem_nil, or_false] at hr
    rcases hr with rfl | rfl
    · exact settles_of_steady (steady_commentEnd (.before _))
    · exact settles_commentBody c s

/-! ## The first rule that applies -/

theorem take?_of_split? {rule : Rule} {s found rest : Text} (hne : found ≠ [])
    (h : rule.pattern.split? s = some (found, rest)) : rule.take? s = some (rule, found, rest) := by
  cases found with
  | nil => exact absurd rfl hne
  | cons c found => rw [Rule.take?, h]

/-- A rule that does not apply before an insertion does not apply after it. -/
theorem take?_eq_none {rule : Rule} {c : Char} {s : Text} (hs : g.Settles rule.pattern (c :: s))
    (h : rule.take? (c :: s ++ g.old) = none) : rule.take? (c :: s ++ g.inserted) = none := by
  cases hx : rule.pattern.split? (c :: s ++ g.old) with
  | none => rw [Rule.take?, hs.fails hx]
  | some parts =>
    obtain ⟨found, rest⟩ := parts
    cases found with
    | cons d found => rw [take?_of_split? (by simp) hx] at h; cases h
    -- a rule does not apply where it would take nothing, and an empty piece does not reach the gap
    | nil =>
      have happ := rule.pattern.append_eq hx
      rw [List.nil_append] at happ
      subst happ
      obtain ⟨found', rest', hy, ho⟩ := hs.finds _ _ hx (by simp; omega)
      generalize hz : c :: s ++ g.old = z at ho
      cases ho with
      | same => rw [Rule.take?, hy]
      | stretched =>
        have := congrArg List.length hz
        rw [List.length_append, List.length_cons] at this
        omega

/-- The first rule that applies is the same before and after an insertion. -/
theorem firstMatch?_inserted {rules : List Rule} {c : Char} {s : Text}
    (hs : ∀ rule ∈ rules, g.Settles rule.pattern (c :: s)) {rule : Rule} {found rest : Text}
    (h : firstMatch? rules (c :: s ++ g.old) = some (rule, found, rest))
    (hlen : g.old.length ≤ rest.length) :
    ∃ found' rest', firstMatch? rules (c :: s ++ g.inserted) = some (rule, found', rest') ∧
      g.Outcome (some (found, rest)) (some (found', rest')) := by
  induction rules with
  | nil => cases h
  | cons r rules ih =>
    unfold firstMatch? at h ih ⊢
    rw [List.findSome?_cons] at h ⊢
    cases hx : r.take? (c :: s ++ g.old) with
    | none =>
      rw [hx] at h
      rw [take?_eq_none (hs r (by simp)) hx]
      exact ih (fun r hr => hs r (by simp [hr])) h
    | some parts =>
      rw [hx] at h
      cases h
      obtain ⟨rfl, hsplit⟩ := take?_eq_some hx
      obtain ⟨found', rest', hy, ho⟩ := (hs rule (by simp)).finds _ _ hsplit hlen
      refine ⟨found', rest', ?_, ho⟩
      -- the piece is not empty: it is the same piece, or it was stretched over the gap
      have hne : found' ≠ [] := by
        rintro rfl
        have happ := rule.pattern.append_eq hy
        rw [List.nil_append] at happ
        subst happ
        have hlx := congrArg List.length (rule.pattern.append_eq hsplit)
        generalize hz : c :: s ++ g.inserted = z at ho
        cases ho with
        | same =>
          exact (Rule.append_of_take? hx).1 rfl
        | stretched =>
          have := congrArg List.length hz
          simp [inserted] at this
          omega
      rw [take?_of_split? hne hy]

/-- What the pattern finds ends with this character. -/
def EndsWith (p : Pattern) (e : Char) : Prop :=
  ∀ s found rest, p.split? s = some (found, rest) → found.getLast? = some e

theorem endsWith_word {w : Text} {e : Char} (h : w.getLast? = some e) : EndsWith (.word w) e := by
  intro s found rest hs
  rwa [Pattern.eq_of_split?_word hs]

theorem endsWith_followedBy {p q : Pattern} {e : Char} (h : EndsWith q e) :
    EndsWith (p.followedBy q) e := by
  intro s found rest hs
  rw [Pattern.split?_followedBy] at hs
  split at hs
  · cases hs
  · obtain ⟨⟨b, r⟩, hb, he⟩ := Option.map_eq_some_iff.1 hs
    cases he
    rw [List.getLast?_append, h _ _ _ hb]
    rfl

theorem endsWith_followedBy_nothing {p : Pattern} {e : Char} (h : EndsWith p e) :
    EndsWith (p.followedBy .nothing) e := by
  intro s found rest hs
  rw [Pattern.split?_followedBy] at hs
  split at hs
  · cases hs
  · next hp =>
    cases hs
    rw [List.append_nil]
    exact h _ _ _ hp

/-- A token that carries markup and leads out between tags ends with the end of a tag. -/
theorem endsWith_of_next_text {m : Mode} {rule : Rule} (hr : rule ∈ m.rules)
    (hk : rule.kind.isFiller = false) (hnext : rule.next = .text) : EndsWith rule.pattern '>' := by
  have hlast : EndsWith (.inOrder [.word ['>']]) '>' :=
    endsWith_followedBy_nothing (endsWith_word (w := ['>']) rfl)
  -- the rules of a tag are tried in three modes
  have htag : ∀ rule ∈ tagRules, rule.kind.isFiller = false → rule.next = .text →
      EndsWith rule.pattern '>' := by
    intro rule hr hk hnext
    simp only [tagRules, List.mem_cons, List.not_mem_nil, or_false] at hr
    rcases hr with rfl | rfl | rfl | rfl
    · exact endsWith_word rfl
    · exact endsWith_word rfl
    · cases hnext
    · cases hk
  rcases m with _ | _ | (_ | _) | _
  · simp only [Mode.rules, textRules, List.mem_cons, List.not_mem_nil, or_false] at hr
    rcases hr with rfl | rfl | rfl | rfl | rfl | rfl | rfl
    · cases hnext
    · exact endsWith_followedBy (endsWith_followedBy hlast)
    · exact endsWith_followedBy (endsWith_followedBy (endsWith_followedBy (endsWith_followedBy
        (endsWith_followedBy hlast))))
    · cases hnext
    · cases hk
    · cases hk
    · cases hk
  · exact htag rule hr hk hnext
  · rcases List.mem_cons.1 hr with rfl | hr
    · cases hnext
    · rcases List.mem_cons.1 hr with rfl | hr
      · cases hnext
      · exact htag rule hr hk hnext
  · rcases List.mem_cons.1 hr with rfl | hr
    · cases hnext
    · exact htag rule hr hk hnext
  · simp only [Mode.rules, List.mem_cons, List.not_mem_nil, or_false] at hr
    rcases hr with rfl | rfl
    · have hend : EndsWith (.inOrder [.word ['-', '-', '>']]) '>' :=
        endsWith_followedBy_nothing (endsWith_word (w := ['-', '-', '>']) rfl)
      show EndsWith ((Pattern.run Text.isBlank).followedBy (.inOrder [.word ['-', '-', '>']])) '>'
      exact endsWith_followedBy hend
    · cases hnext

/-- Nothing that ends with the end of a tag runs over the pad. -/
theorem not_stretched {p : Pattern} {s found : Text} (h : EndsWith p '>')
    (hs : p.split? (s ++ g.inserted) = some (found, g.new)) : False := by
  have happ : found ++ g.new = (s ++ g.pad) ++ g.new := by
    rw [p.append_eq hs, inserted, List.append_assoc]
  have hfound := List.append_cancel_right happ
  have hlast := h _ _ _ hs
  rw [hfound, List.getLast?_append] at hlast
  cases hp : g.pad.getLast? with
  | none => exact g.pad_ne (List.getLast?_eq_none_iff.1 hp)
  | some c =>
    rw [hp] at hlast
    cases hlast
    have hi := g.pad_indent '>' (List.mem_of_getLast? hp)
    revert hi
    decide

/-- The rule of indents. -/
def indentRule : Rule := ⟨.indent, .someOf Text.isIndent, .text⟩

theorem firstMatch?_indent {c : Char} (hc : Text.isIndent c = true) (s : Text) :
    firstMatch? textRules (c :: s) =
      some (indentRule, c :: s.takeWhile Text.isIndent, s.dropWhile Text.isIndent) := by
  simp only [Text.isIndent, Bool.or_eq_true, decide_eq_true_eq] at hc
  rcases hc with rfl | rfl <;> rfl

/-- A pad in front of a tag reads as an indent. -/
theorem reads_pad {pad s : Text} (hne : pad ≠ []) (hpad : ∀ c ∈ pad, Text.isIndent c = true)
    (hs : s.head? = some '<') : Reads .text (pad ++ s) [] .text s := by
  cases pad with
  | nil => exact absurd rfl hne
  | cons c pad =>
    have h := firstMatch?_indent (hpad c (by simp)) (pad ++ s)
    obtain ⟨h1, h2⟩ := takeWhile_of_head hs (p := Text.isIndent) (by decide)
    have hrest : ∀ d ∈ pad, Text.isIndent d = true := fun d hd => hpad d (by simp [hd])
    rw [List.takeWhile_append_of_pos hrest, List.dropWhile_append_of_pos hrest, h1, h2] at h
    exact Reads.one (m := .text) h

/-- **One step on the way to a closing tag**: it takes what it takes without the lines, or it takes
the pad with it and ends where the lines begin. -/
theorem next_inserted (hclose : '>' ∈ g.old) {m : Mode} {s found rest : Text} {rule : Rule}
    {v : List Sign} (hclosed : g.Closed m s)
    (hf : firstMatch? m.rules (s ++ g.old) = some (rule, found, rest))
    (hr : Reads rule.next rest v .text g.old) :
    (∃ s', rest = s' ++ g.old ∧
      firstMatch? m.rules (s ++ g.inserted) = some (rule, found, s' ++ g.inserted)) ∨
    (rest = g.old ∧ rule.next = .text ∧ v = [] ∧
      ∃ found', firstMatch? m.rules (s ++ g.inserted) = some (rule, found', g.new)) := by
  cases s with
  | nil => exact absurd rfl (Reads.ne_nil_of_step hf hr)
  | cons c s =>
    obtain ⟨found', rest', hf', ho⟩ :=
      firstMatch?_inserted (settles_rules hclose hclosed) hf hr.length_le
    cases ho with
    | same _ s' => exact .inl ⟨s', rfl, hf'⟩
    | stretched =>
      obtain ⟨rfl, hnext⟩ := hr.eq_of_same
      exact .inr ⟨rfl, hnext, rfl, found', hf'⟩

/-- **Inserting lines in front of a closing tag changes nothing that is read on the way there**,
unless they close a quote. The induction is on the reading; its last step may run over the pad. -/
theorem reads_inserted (hclose : '>' ∈ g.old) {m m' : Mode} {x y : Text} {v : List Sign}
    (h : Reads m x v m' y) : ∀ s, x = s ++ g.old → y = g.old → m' = .text →
    (∀ w z, Reads m x w (.attribute true) (z ++ g.old) → g.Closed (.attribute true) z) →
      Reads m (s ++ g.inserted) v .text g.new := by
  induction h with
  | done m x =>
    rintro s rfl hy rfl -
    rw [List.append_left_eq_self.1 hy]
    exact reads_pad g.pad_ne g.pad_indent g.new_head
  | @step m m' x found rest y rule v hf hr ih =>
    rintro s rfl rfl rfl hq
    have hclosed : g.Closed m s := by
      rintro rfl
      exact hq [] s (.done _ _) rfl
    rcases next_inserted hclose hclosed hf hr with ⟨s', rfl, hf'⟩ | ⟨rfl, hnext, rfl, found', hf'⟩
    · exact .step hf' (ih s' rfl rfl rfl fun w z hw => hq _ z (.step hf hw))
    -- only white space comes to an end behind a pad; markup ends with the end of a tag
    · have hmem := Mode.mem_rules_of_firstMatch? hf
      cases hk : rule.kind.isFiller with
      | true =>
        have h := Reads.step (m := m) hf' (.done rule.next g.new)
        rw [hnext] at h
        simpa [Sign.ofPiece, hk] using h
      | false =>
        exact (not_stretched (endsWith_of_next_text hmem hk hnext) (split?_of_firstMatch? hf')).elim

end Gap

end Markup
end SiteOptimizer
