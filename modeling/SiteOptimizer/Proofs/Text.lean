import SiteOptimizer.Text.Blank
import SiteOptimizer.Text.Lines
import SiteOptimizer.Text.Lowercase

/-!
# Laws of texts

What splitting, joining, cutting and listing do to the characters and pieces of a text. Splitting
and joining undo each other where no piece holds what separates the pieces.
-/

namespace SiteOptimizer
namespace Text

/-! ## Pieces -/

theorem splitOn_ne_nil (sep : Char) (s : Text) : splitOn sep s ≠ [] := by
  cases s with
  | nil => simp [splitOn]
  | cons c s =>
    rw [splitOn]
    split
    · simp
    · split <;> simp

/-- A separator between two texts separates their pieces. -/
theorem splitOn_append (sep : Char) (a b : Text) :
    splitOn sep (a ++ sep :: b) = splitOn sep a ++ splitOn sep b := by
  induction a with
  | nil =>
    cases hb : splitOn sep b with
    | nil => exact absurd hb (splitOn_ne_nil sep b)
    | cons piece pieces => simp [splitOn, hb]
  | cons c a ih =>
    rw [List.cons_append, splitOn, ih, splitOn]
    cases ha : splitOn sep a with
    | nil => exact absurd ha (splitOn_ne_nil sep a)
    | cons piece pieces =>
      simp only [List.cons_append]
      split <;> rfl

/-- No piece holds the separator, and all that a piece holds comes from the text. -/
theorem mem_of_mem_splitOn {sep c : Char} {s piece : Text} (h : piece ∈ splitOn sep s)
    (hc : c ∈ piece) :
    c ≠ sep ∧ c ∈ s := by
  induction s generalizing piece with
  | nil =>
    rw [splitOn, List.mem_singleton] at h
    rw [h] at hc
    cases hc
  | cons d s ih =>
    rw [splitOn] at h
    cases hs : splitOn sep s with
    | nil => exact absurd hs (splitOn_ne_nil sep s)
    | cons first rest =>
      rw [hs] at h ih
      simp only at h
      split at h
      · rcases List.mem_cons.1 h with rfl | h
        · cases hc
        · exact (ih h hc).imp id (List.mem_cons_of_mem d)
      -- the character extends the first piece, and the other pieces are those of the rest
      · next hd =>
        rcases List.mem_cons.1 h with rfl | h
        · rcases List.mem_cons.1 hc with rfl | hc
          · exact ⟨hd, List.mem_cons_self⟩
          · exact (ih List.mem_cons_self hc).imp id (List.mem_cons_of_mem d)
        · exact (ih (List.mem_cons_of_mem _ h) hc).imp id (List.mem_cons_of_mem d)

/-- **Joining undoes splitting where no piece holds the separator.** -/
theorem splitOn_join {sep : Char} {pieces : List Text} (hne : pieces ≠ [])
    (h : ∀ piece ∈ pieces, sep ∉ piece) : splitOn sep (join [sep] pieces) = pieces := by
  induction pieces with
  | nil => exact absurd rfl hne
  | cons a pieces ih =>
    have ha := splitOn_of_not_mem (h a List.mem_cons_self)
    cases pieces with
    | nil => simpa [join] using ha
    | cons b pieces =>
      have hrest := ih (by simp) fun p hp => h p (List.mem_cons_of_mem a hp)
      rw [join, List.intercalate_cons_cons, List.append_assoc, List.singleton_append,
        splitOn_append, ha]
      exact congrArg ([a] ++ ·) hrest

theorem join_cons_cons (sep a b : Text) (pieces : List Text) :
    join sep (a :: b :: pieces) = a ++ sep ++ join sep (b :: pieces) :=
  List.intercalate_cons_cons

/-- Between joined lists of pieces there is one more separator. -/
theorem join_append {sep : Text} {a b : List Text} (ha : a ≠ []) (hb : b ≠ []) :
    join sep (a ++ b) = join sep a ++ sep ++ join sep b := by
  induction a with
  | nil => exact absurd rfl ha
  | cons piece a ih =>
    cases a with
    | nil =>
      obtain ⟨other, b, rfl⟩ := List.exists_cons_of_ne_nil hb
      rw [List.singleton_append, join_cons_cons]
      simp [join]
    | cons next a =>
      have hrest := ih (List.cons_ne_nil next a)
      rw [List.cons_append] at hrest
      rw [List.cons_append, List.cons_append, join_cons_cons, hrest, join_cons_cons]
      simp only [List.append_assoc]

/-- Joined pieces end as the last of them does. -/
theorem getLast?_join_concat (sep : Text) (pieces : List Text) {last : Text} (h : last ≠ []) :
    (join sep (pieces ++ [last])).getLast? = last.getLast? := by
  by_cases hpieces : pieces = []
  · rw [hpieces, List.nil_append, join, List.intercalate_singleton]
  · have hsome : last.getLast?.isSome = true := by simpa using h
    rw [join_append hpieces (List.cons_ne_nil _ _), join, join, List.intercalate_singleton,
      List.getLast?_append, Option.or_of_isSome hsome]

/-- The first piece has no separator in front of it, and each of the others has one. -/
theorem join_cons_flatMap (sep a : Text) (pieces : List Text) :
    join sep (a :: pieces) = a ++ pieces.flatMap (sep ++ ·) := by
  induction pieces generalizing a with
  | nil => simp [join]
  | cons b pieces ih =>
    rw [join_cons_cons, ih, List.flatMap_cons, List.append_assoc, List.append_assoc]

/-- **Joining puts back together what splitting has cut.** -/
theorem join_splitOn (sep : Char) (s : Text) : join [sep] (splitOn sep s) = s := by
  induction s with
  | nil => rfl
  | cons c s ih =>
    rw [splitOn]
    cases hs : splitOn sep s with
    | nil => exact absurd hs (splitOn_ne_nil sep s)
    | cons piece pieces =>
      rw [hs] at ih
      dsimp only
      split
      · next hc =>
        rw [join_cons_cons, ih, hc]
        rfl
      · rw [join_cons_flatMap] at ih ⊢
        rw [List.cons_append, ih]

/-- Where no separator stands between two texts, the last piece of the one goes on with
the first piece of the other. -/
theorem splitOn_append_of_eq {sep : Char} {a b last first : Text} {front back : List Text}
    (ha : splitOn sep a = front ++ [last]) (hb : splitOn sep b = first :: back) :
    splitOn sep (a ++ b) = front ++ (last ++ first) :: back := by
  induction a generalizing front last with
  | nil =>
    cases front with
    | nil =>
      cases ha
      exact hb
    | cons piece front => simp [splitOn] at ha
  | cons c a ih =>
    rw [splitOn] at ha
    rw [List.cons_append, splitOn]
    cases hs : splitOn sep a with
    | nil => exact absurd hs (splitOn_ne_nil sep a)
    | cons piece pieces =>
      rw [hs] at ha ih
      dsimp only at ha
      -- a separator starts a new piece, any other character goes into the first one
      split at ha
      · next hc =>
        cases front with
        | nil => cases ha
        | cons head front =>
          obtain ⟨rfl, hrest⟩ := List.cons.inj ha
          rw [ih hrest]
          cases front <;> simp [hc]
      · next hc =>
        cases front with
        | nil =>
          obtain ⟨rfl, rfl⟩ := List.cons.inj ha
          have hrest : splitOn sep (a ++ b) = [] ++ (piece ++ first) :: back := ih rfl
          simp [hrest, hc]
        | cons head front =>
          obtain ⟨rfl, rfl⟩ := List.cons.inj ha
          have hrest : splitOn sep (a ++ b) = (piece :: front) ++ (last ++ first) :: back := ih rfl
          simp [hrest, hc]

/-- A character between two texts joins the last piece of the one and the
first piece of the other. -/
theorem splitOn_append_cons {sep c : Char} (hc : c ≠ sep) {a b last first : Text}
    {front back : List Text} (ha : splitOn sep a = front ++ [last])
    (hb : splitOn sep b = first :: back) :
    splitOn sep (a ++ c :: b) = front ++ (last ++ c :: first) :: back := by
  have hcb : splitOn sep (c :: b) = (c :: first) :: back := by simp [splitOn, hb, hc]
  exact splitOn_append_of_eq ha hcb

/-- What is joined comes from the pieces or from between them. -/
theorem mem_join {sep : Text} {pieces : List Text} {c : Char} (h : c ∈ join sep pieces) :
    c ∈ sep ∨ ∃ piece ∈ pieces, c ∈ piece := by
  induction pieces with
  | nil => cases h
  | cons a pieces ih =>
    cases pieces with
    | nil => exact .inr ⟨a, by simp, by simpa [join] using h⟩
    | cons b pieces =>
      rw [join, List.intercalate_cons_cons] at h
      rcases List.mem_append.1 h with h | h
      · rcases List.mem_append.1 h with h | h
        · exact .inr ⟨a, List.mem_cons_self, h⟩
        · exact .inl h
      · exact (ih h).imp id fun ⟨piece, hp, hc⟩ => ⟨piece, List.mem_cons_of_mem a hp, hc⟩

/-! ## Ends -/

/-- What ends a line is white space. -/
theorem isBlank_of_isLineBreak {c : Char} (h : isLineBreak c = true) : isBlank c = true := by
  simp only [isLineBreak, Bool.or_eq_true, decide_eq_true_eq] at h
  rcases h with ((((((((h | h) | h) | h) | h) | h) | h) | h) | h) | h <;> rw [h] <;> decide

theorem dropEndWhile_eq_self {p : Char → Bool} {s : Text}
    (h : ∀ c, s.getLast? = some c → p c = false) :
    dropEndWhile p s = s := by
  rcases List.eq_nil_or_concat s with rfl | ⟨s, c, rfl⟩
  · rfl
  · have hc : p c = false := h c (by simp)
    simp [dropEndWhile, hc]

/-! ## Lower case -/

theorem dropEndWhile_append {p : Char → Bool} {a b : Text} (h : ∀ c ∈ b, p c = true) :
    dropEndWhile p (a ++ b) = dropEndWhile p a := by
  have hdrop : List.dropWhile p (b.reverse ++ a.reverse) = List.dropWhile p a.reverse :=
    List.dropWhile_append_of_pos fun c hc => h c (List.mem_reverse.1 hc)
  rw [dropEndWhile, List.reverse_append, hdrop]
  rfl

theorem getLast?_lowerAfter (before s : Text) (c : Char) :
    (lowerAfter before (s ++ [c])).getLast? = (lowerAfter (s.reverse ++ before) [c]).getLast? := by
  induction s generalizing before with
  | nil => rfl
  | cons d s ih =>
    rw [List.cons_append, lowerAfter, List.getLast?_append, ih, List.reverse_cons,
      List.append_assoc, List.singleton_append]
    refine Option.or_of_isSome ?_
    unfold lowerAfter
    dsimp only
    split
    · simp
    · split <;> simp

/-- The last character of a text in lower case comes from the last character of the text, whatever
stands before it, unless it is one of those that come from `Σ` and `İ`. -/
theorem eq_lowerChar_of_getLast? {s : Text} {c d : Char} (h : (lower (s ++ [c])).getLast? = some d)
    (hd : d ∉ ['ς', 'σ', Char.ofNat 0x307]) : d = lowerChar c := by
  rw [lower, getLast?_lowerAfter, lowerAfter, lowerAfter, List.append_nil] at h
  split at h
  · rw [List.getLast?_singleton, Option.some_inj] at h
    split at h <;> simp [← h] at hd
  · split at h
    · cases h
      simp at hd
    · cases h
      rfl

/-- What stands at the end of a text stands there in lower case too. -/
theorem lowerAfter_isSuffix (before a s : Text) :
    lowerAfter (a.reverse ++ before) s <:+ lowerAfter before (a ++ s) := by
  induction a generalizing before with
  | nil => exact List.suffix_refl _
  | cons c a ih =>
    rw [List.cons_append, lowerAfter, List.reverse_cons, List.append_assoc, List.singleton_append]
    exact (ih (c :: before)).trans (List.suffix_append _ _)

/-- A text in lower case depends on what stands before it only where it has
characters that come from `Σ`. -/
theorem lowerAfter_eq {before s : Text} (h : ∀ c ∈ lowerAfter before s, c ∉ ['ς', 'σ'])
    (before' : Text) : lowerAfter before' s = lowerAfter before s := by
  induction s generalizing before before' with
  | nil => rfl
  | cons c s ih =>
    simp only [lowerAfter] at h ⊢
    have hrest := ih (fun d hd => h d (List.mem_append_right _ hd)) (c :: before')
    rw [hrest]
    refine congrArg (· ++ _) ?_
    by_cases hsigma : c = 'Σ'
    · rw [if_pos hsigma] at h
      refine absurd ?_ (h _ (List.mem_append_left _ (List.mem_singleton.2 rfl)))
      split <;> simp
    · rw [if_neg hsigma, if_neg hsigma]

/-- A text that ends with a plain one in lower case does so in lower case. -/
theorem lower_isSuffix {s t : Text} (h : s <:+ t) (hplain : ∀ c ∈ lower s, c ∉ ['ς', 'σ']) :
    lower s <:+ lower t := by
  obtain ⟨a, rfl⟩ := h
  have hsame : lowerAfter (a.reverse ++ []) s = lower s := lowerAfter_eq hplain _
  rw [← hsame]
  exact lowerAfter_isSuffix [] a s

/-! ## Lines -/

/-- What the lines of a text hold comes from the text, and no line holds what ends a line. -/
theorem of_mem_splitLines {c : Char} {s line : Text} (hline : line ∈ splitLines s) (hc : c ∈ line) :
    c ∈ s ∧ isLineBreak c = false := by
  -- one case for each way in which a line ends or goes on
  fun_induction splitLines s generalizing line with
  | case1 => cases hline
  | case2 s ih =>
    rcases List.mem_cons.1 hline with rfl | hline
    · cases hc
    · exact (ih hline hc).imp_left fun hmem => List.mem_cons_of_mem _ (List.mem_cons_of_mem _ hmem)
  | case3 d s _ hbreak ih =>
    rcases List.mem_cons.1 hline with rfl | hline
    · cases hc
    · exact (ih hline hc).imp_left (List.mem_cons_of_mem d)
  | case4 d s _ hbreak hnil ih =>
    rw [List.mem_singleton.1 hline] at hc
    rw [List.mem_singleton.1 hc]
    exact ⟨List.mem_cons_self, by simpa using hbreak⟩
  | case5 d s _ hbreak first rest heq ih =>
    rw [heq] at ih
    rcases List.mem_cons.1 hline with rfl | hline
    · rcases List.mem_cons.1 hc with rfl | hc
      · exact ⟨List.mem_cons_self, by simpa using hbreak⟩
      · exact (ih List.mem_cons_self hc).imp_left (List.mem_cons_of_mem d)
    · exact (ih (List.mem_cons_of_mem _ hline) hc).imp_left (List.mem_cons_of_mem d)

/-- The first line stands at the start of the text, and what ends it in front of the other lines. -/
theorem exists_of_splitLines {s line : Text} {lines : List Text}
    (h : splitLines s = line :: lines) :
    ∃ ending rest, s = line ++ (ending ++ rest) ∧ (∀ c ∈ ending, isLineBreak c = true) ∧
      splitLines rest = lines := by
  fun_induction splitLines s generalizing line lines with
  | case1 => cases h
  | case2 s ih =>
    cases h
    exact ⟨['\r', '\n'], s, rfl, by decide, rfl⟩
  | case3 c s _ hbreak ih =>
    cases h
    exact ⟨[c], s, rfl, by simpa using hbreak, rfl⟩
  | case4 c s _ hbreak hnil ih =>
    cases h
    exact ⟨[], s, rfl, by simp, hnil⟩
  | case5 c s _ hbreak first rest heq ih =>
    cases h
    obtain ⟨ending, behind, rfl, hending, hbehind⟩ := ih heq
    exact ⟨ending, behind, rfl, hending, hbehind⟩

/-- A text without line ends that is not empty is one line. -/
theorem splitLines_of_not_break {s : Text} (hne : s ≠ []) (h : ∀ c ∈ s, isLineBreak c = false) :
    splitLines s = [s] := by
  fun_induction splitLines s with
  | case1 => exact absurd rfl hne
  | case2 s ih => exact absurd (h '\r' List.mem_cons_self) (by decide)
  | case3 d s _ hbreak ih =>
    rw [h d List.mem_cons_self] at hbreak
    cases hbreak
  | case4 d s _ hbreak hnil ih => rw [splitLines_eq_nil_iff.1 hnil]
  | case5 d s _ hbreak first rest heq ih =>
    have hs : s ≠ [] := by
      rintro rfl
      cases heq
    have hrest := ih hs fun c hc => h c (List.mem_cons_of_mem d hc)
    rw [heq] at hrest
    cases hrest
    rfl

theorem splitLines_cons_of_not_break {c : Char} (hc : isLineBreak c = false) {s line : Text}
    {lines : List Text} (h : splitLines s = line :: lines) :
    splitLines (c :: s) = (c :: line) :: lines := by
  have hcr : c ≠ '\r' := by
    rintro rfl
    revert hc
    decide
  rw [splitLines, h, hc]
  · rfl
  · exact fun _ hcr' => absurd hcr' hcr

theorem splitLines_cons_of_break {c : Char} (hc : isLineBreak c = true) {s : Text}
    (hpair : ∀ t, c = '\r' → s ≠ '\n' :: t) : splitLines (c :: s) = [] :: splitLines s := by
  rw [splitLines, hc]
  · rfl
  · exact fun t hcr hs => hpair t hcr hs

/-- What stands in front of a text without a line end belongs to its first line. -/
theorem splitLines_append_of_not_break {a : Text} (ha : ∀ c ∈ a, isLineBreak c = false)
    {s line : Text} {lines : List Text} (h : splitLines s = line :: lines) :
    splitLines (a ++ s) = (a ++ line) :: lines := by
  induction a with
  | nil => exact h
  | cons c a ih =>
    exact splitLines_cons_of_not_break (ha c List.mem_cons_self)
      (ih fun d hd => ha d (List.mem_cons_of_mem c hd))

/-- A line end behind a text without line ends ends its one line. -/
theorem splitLines_append {a : Text} (h : ∀ c ∈ a, isLineBreak c = false) (b : Text) :
    splitLines (a ++ '\n' :: b) = a :: splitLines b := by
  have hfeed : splitLines ('\n' :: b) = [] :: splitLines b :=
    splitLines_cons_of_break (by decide) fun _ hcr => absurd hcr (by decide)
  rw [splitLines_append_of_not_break h hfeed, List.append_nil]

/-- **The lines of joined lines are those lines.** -/
theorem splitLines_join {lines : List Text}
    (h : ∀ line ∈ lines, line ≠ [] ∧ ∀ c ∈ line, isLineBreak c = false) :
    splitLines (join ['\n'] lines) = lines := by
  induction lines with
  | nil => rfl
  | cons a lines ih =>
    obtain ⟨hne, hbreak⟩ := h a List.mem_cons_self
    cases lines with
    | nil => simpa [join] using splitLines_of_not_break hne hbreak
    | cons b lines =>
      have hrest := ih fun line hl => h line (List.mem_cons_of_mem a hl)
      rw [join, List.intercalate_cons_cons, List.append_assoc, List.singleton_append,
        splitLines_append hbreak]
      exact congrArg (a :: ·) hrest

/-- Text without carriage returns is read as it stands. -/
theorem unifyNewlines_eq_self {s : Text} (h : '\r' ∉ s) : unifyNewlines s = s := by
  fun_induction unifyNewlines s with
  | case1 => rfl
  | case2 s ih => simp at h
  | case3 c s _ ih =>
    obtain ⟨hc, hs⟩ := not_or.1 (mt List.mem_cons.2 h)
    rw [if_neg (Ne.symm hc), ih hs]

/-! ## Lists of texts -/

theorem nodup_unique (texts : List Text) : (unique texts).Nodup := by
  induction texts with
  | nil => exact List.nodup_nil
  | cons t texts ih =>
    have hcons : unique (t :: texts) = (unique texts).insert t := rfl
    rw [hcons]
    by_cases h : t ∈ unique texts
    · rw [List.insert_of_mem h]
      exact ih
    · rw [List.insert_of_not_mem h]
      exact List.nodup_cons.2 ⟨h, ih⟩

theorem mem_sort {t : Text} {texts : List Text} : t ∈ sort texts ↔ t ∈ texts :=
  (List.mergeSort_perm _ _).mem_iff

theorem nodup_sort {texts : List Text} : (sort texts).Nodup ↔ texts.Nodup :=
  (List.mergeSort_perm _ _).nodup_iff

/-- What is in order stays as it is. -/
theorem sort_eq_self {texts : List Text} (h : texts.Pairwise fun s t => le s t = true) :
    sort texts = texts :=
  List.mergeSort_of_pairwise h

theorem unique_eq_self {texts : List Text} (h : texts.Nodup) : unique texts = texts := by
  induction texts with
  | nil => rfl
  | cons t texts ih =>
    obtain ⟨hnot, hrest⟩ := List.nodup_cons.1 h
    rw [unique, List.foldr_cons]
    exact (congrArg (List.insert t) (ih hrest)).trans (List.insert_of_not_mem hnot)

/-- The listing of a set is listed as it is. -/
theorem sortUnique_eq_self {texts : List Text} (hnodup : texts.Nodup)
    (h : texts.Pairwise fun s t => le s t = true) : sortUnique texts = texts := by
  rw [sortUnique, unique_eq_self hnodup, sort_eq_self h]

theorem nodup_sortUnique (texts : List Text) : (sortUnique texts).Nodup :=
  nodup_sort.2 (nodup_unique texts)

/-! ## The order of texts -/

theorem le_iff {a b : Text} : le a b = true ↔ List.le a b := by
  have hlex : precedes b a = b.lex a fun c d => decide (c < d) := rfl
  rw [le, hlex, Bool.not_eq_true']
  exact List.lex_eq_false_iff_ge

theorem le_trans {a b c : Text} (h : le a b = true) (h' : le b c = true) : le a c = true :=
  le_iff.2 (List.le_trans (le_iff.1 h) (le_iff.1 h'))

theorem le_total (a b : Text) : (le a b || le b a) = true := by
  rw [Bool.or_eq_true, le_iff, le_iff]
  exact List.le_total a b

theorem le_antisymm {a b : Text} (h : le a b = true) (h' : le b a = true) : a = b :=
  List.le_antisymm (le_iff.1 h) (le_iff.1 h')

/-! ## Counting texts -/

/-- A number for each text: its characters are the digits, none of which is zero. -/
def number (s : Text) : Nat :=
  s.foldr (fun c n => c.toNat + 1 + 0x110001 * n) 0

theorem toNat_lt (c : Char) : c.toNat < 0x110000 := by
  have hvalid : c.toNat.isValidChar := c.valid
  rcases hvalid with hvalid | hvalid <;> omega

theorem number_injective {s t : Text} (h : number s = number t) : s = t := by
  induction s generalizing t with
  | nil =>
    cases t with
    | nil => rfl
    | cons c t =>
      have h : 0 = c.toNat + 1 + 0x110001 * number t := h
      omega
  | cons c s ih =>
    cases t with
    | nil =>
      have h : c.toNat + 1 + 0x110001 * number s = 0 := h
      omega
    | cons d t =>
      have h : c.toNat + 1 + 0x110001 * number s = d.toNat + 1 + 0x110001 * number t := h
      have hc := toNat_lt c
      have hd := toNat_lt d
      -- the last digit is the remainder, as no code point reaches the base
      have hchar : c.toNat = d.toNat := by omega
      have hrest : number s = number t := by omega
      rw [Char.toNat_inj.1 hchar, ih hrest]

theorem number_lt {s : Text} {n : Nat} (h : s.length ≤ n) : number s < Nat.pow 0x110001 n := by
  induction s generalizing n with
  | nil => exact Nat.pow_pos (by decide)
  | cons c s ih =>
    cases n with
    | zero => cases h
    | succ n =>
      have hrest := ih (Nat.le_of_succ_le_succ h)
      have hc := toNat_lt c
      have hnumber : number (c :: s) = c.toNat + 1 + 0x110001 * number s := rfl
      have hpow : Nat.pow 0x110001 (n + 1) = Nat.pow 0x110001 n * 0x110001 := rfl
      rw [hnumber, hpow]
      omega

/-- **There are no more texts of some length than that.** -/
theorem length_le_of_nodup {texts : List Text} {n : Nat} (hnodup : texts.Nodup)
    (h : ∀ t ∈ texts, t.length ≤ n) : texts.length ≤ Nat.pow 0x110001 n := by
  have hsub : texts.map number ⊆ List.range (Nat.pow 0x110001 n) := by
    intro m hm
    obtain ⟨t, ht, rfl⟩ := List.mem_map.1 hm
    exact List.mem_range.2 (number_lt (h t ht))
  have hnumbers : (texts.map number).Nodup := by
    rw [List.nodup_iff_pairwise_ne, List.pairwise_map]
    exact (List.nodup_iff_pairwise_ne.1 hnodup).imp fun hne heq => hne (number_injective heq)
  have hle := hnumbers.length_le_of_subset hsub
  rwa [List.length_map, List.length_range] at hle

end Text
end SiteOptimizer
