import SiteOptimizer.Proofs.Script.Declaration

/-!
# Searching a declaration

The search for statements tries every place of a declaration. At its start it reads the declaration,
by the reader for its form. An `import` that is read from further inside, since a name starts like
that, goes up to the same specifier; so all that is found in a declaration has its specifier, and
something is found just if the specifier is not empty (`Declaration.exists_found`). In a specifier
nothing is found either, unless what follows it holds another quote on the same line: its closing
quote could be taken for an opening one (`Unquoted`).
-/

namespace SiteOptimizer
namespace Script

open Markup (IsSpace IsQuote)

/-! ## Silent fronts -/

section

variable {statement? : Text → Option (Text × Text)} {head gap t : Text}

/-- Words that start no statement are silent, with marks and white space around them. -/
theorem Spaced.silent {ls : List Lexeme}
    (hwords : ∀ w, .word w ∈ ls → (∀ c ∈ w, isNameChar c = true) ∧ ∀ t, Breaks t →
      statement? (w ++ t) = none)
    (hmarks : ∀ c, .mark c ∈ ls → isNameChar c = false ∧ ∀ s, statement? (c :: s) = none)
    (hblank : ∀ c, Text.isBlank c = true → ∀ s, statement? (c :: s) = none) (h : Spaced ls head)
    (ht : Breaks t) (before : Option Char) : Silent statement? before head t := by
  have hlexeme {l : Lexeme} (hl : l ∈ ls) {t : Text} (ht : l.isWord = true → Breaks t)
      (before : Option Char) :
      Silent statement? before l.text t := by
    cases l with
    | word w => exact silent_word (hwords w hl).1 ((hwords w hl).2 t (ht rfl)) before
    | mark c =>
      refine silent_of_none (fun d hd => ?_) before t
      rw [List.mem_singleton.1 hd]
      exact (hmarks c hl).2
  induction h generalizing before with
  | last l => exact hlexeme (List.mem_singleton_self l) (fun _ => ht) before
  | @cons l k ls gap s hgap hne hs ih =>
    -- behind a word stands white space or a mark, so the word breaks off there
    have hbehind : l.isWord = true → Breaks ((gap ++ s) ++ t) := by
      intro hword
      rw [List.append_assoc]
      refine breaks_append hgap fun hnil => ?_
      cases k with
      | word w => exact absurd hnil (hne hword rfl)
      | mark c =>
        have hc := (hmarks c (List.mem_cons_of_mem l List.mem_cons_self)).1
        cases hs <;> exact breaks_cons hc _
    refine (hlexeme List.mem_cons_self hbehind before).append
      ((silent_of_none (fun c hc => hblank c (hgap c hc)) _ _).append ?_)
    exact ih (fun w hw => hwords w (List.mem_cons_of_mem l hw))
      (fun c hc => hmarks c (List.mem_cons_of_mem l hc)) _
      fun hl => hlexeme (List.mem_cons_of_mem l hl)

theorem exportStatement?_cons {c : Char} (hc : c ≠ 'e') (s : Text) :
    exportStatement? (c :: s) = none := by
  have hafter : Text.after? "export".toList (c :: s) = none := if_neg (Ne.symm hc)
  rw [exportStatement?, hafter, Option.bind_none]

theorem importStatement?_cons {c : Char} (hc : c ≠ 'i') (s : Text) :
    importStatement? (c :: s) = none := by
  have hafter : Text.after? "import".toList (c :: s) = none := if_neg (Ne.symm hc)
  rw [importStatement?, hafter, Option.bind_none]

theorem ne_of_isBlank {c d : Char} (hc : Text.isBlank c = true)
    (hd : Text.isBlank d = false) : c ≠ d := by
  rintro rfl
  rw [hc] at hd
  cases hd

/-- No export starts with a word other than `export`, be it that it starts like that. -/
theorem exportStatement?_word {w : Text} (hw : ∀ c ∈ w, isIdentifierChar c = true)
    (hne : w ≠ exportWord) (ht : Breaks t) : exportStatement? (w ++ t) = none := by
  rw [exportStatement?]
  cases hafter : Text.after? "export".toList (w ++ t) with
  | none => rfl
  | some r =>
    -- the word ends within the one that is looked for, or it goes on behind it
    rcases List.append_eq_append_iff.1 (Text.after?_eq_some_iff.1 hafter) with
      ⟨a, ha, rfl⟩ | ⟨a, rfl, rfl⟩
    · cases a with
      | nil =>
        rw [List.append_nil] at ha
        exact absurd ha.symm hne
      | cons c a =>
        have hletter : ∀ c ∈ "export".toList, isNameChar c = true := by decide +kernel
        have hc := hletter c (by rw [ha]; simp)
        rw [ht c rfl] at hc
        cases hc
    · cases a with
      | nil => exact absurd (List.append_nil _) hne
      | cons c a =>
        have hc := hw c (by simp)
        have hstar : c ≠ '*' := by
          rintro rfl
          exact absurd hc (by decide)
        have hbrace : c ≠ '\x7b' := by
          rintro rfl
          exact absurd hc (by decide)
        rw [Option.bind_some, List.cons_append,
          List.dropWhile_cons_of_neg (by simp [(of_isIdentifierChar hc).2])]
        simp [hstar, hbrace]

theorem exportStatement?_mark {c : Char} (h : (Lexeme.mark c).Inner) :
    isNameChar c = false ∧ ∀ s, exportStatement? (c :: s) = none := by
  have hall : ∀ c ∈ ['\x7b', '\x7d', ',', '*'], isNameChar c = false ∧ c ≠ 'e' := by decide +kernel
  exact ⟨(hall c h).1, exportStatement?_cons (hall c h).2⟩

theorem exportStatement?_blank {c : Char} (h : Text.isBlank c = true) (s : Text) :
    exportStatement? (c :: s) = none :=
  exportStatement?_cons (ne_of_isBlank h (by decide)) s

/-- What stands behind the first word of a declaration is silent when exports are searched. -/
theorem Spaced.silent_export {ls : List Lexeme} (hls : ∀ l ∈ ls, l.Inner) (h : Spaced ls head)
    (ht : Breaks t) (before : Option Char) : Silent exportStatement? before head t :=
  h.silent (fun _ hw => ⟨fun c hc => (of_isIdentifierChar ((hls _ hw).2.1 c hc)).1, fun _ ht =>
      exportStatement?_word (hls _ hw).2.1 (hls _ hw).2.2 ht⟩)
    (fun _ hc => exportStatement?_mark (hls _ hc)) (fun _ hc => exportStatement?_blank hc) ht before

/-- **No export is found in front of the specifier of an import.** -/
theorem silent_export_import {form : Form} (himport : form.isImport = true)
    (h : Spaced (.word form.firstWord :: form.inner) head) (hgap : IsSpace gap) (ht : Breaks t)
    (before : Option Char) : Silent exportStatement? before (head ++ gap) t := by
  have hinner : ∀ l ∈ Lexeme.word form.firstWord :: form.inner, l.Inner := by
    intro l hl
    rcases List.mem_cons.1 hl with rfl | hl
    · rw [Form.firstWord, if_pos himport]
      exact ⟨by decide, by decide, by decide⟩
    · exact form.inner_inner l hl
  exact (h.silent_export hinner (breaks_append hgap fun _ => ht) before).append
    (silent_of_none (fun c hc => exportStatement?_blank (hgap c hc)) _ _)

end

/-! ## Silent specifiers -/

/-- A character that stops a run stands behind it. -/
theorem exists_dropWhile_cons {p : Char → Bool} {s : Text} (h : ∃ c ∈ s, p c = false) :
    ∃ c y, s.dropWhile p = c :: y ∧ c ∈ s ∧ p c = false := by
  cases hdrop : s.dropWhile p with
  | nil =>
    obtain ⟨c, hc, hpc⟩ := h
    rw [List.dropWhile_eq_nil_iff.1 hdrop c hc] at hpc
    cases hpc
  | cons c y =>
    refine ⟨c, y, rfl, (List.dropWhile_suffix p).subset
      (by rw [hdrop]; exact List.mem_cons_self), ?_⟩
    have hstop := List.head?_dropWhile_not p s
    rw [hdrop] at hstop
    simpa using hstop

/-- No quote in front of `t` starts a specifier. -/
def Unquoted (t : Text) : Prop :=
  ∀ q, IsQuote q → specifier? (q :: t) = none

/-- What stands on a line without quotes starts no specifier. -/
theorem unquoted_line {x : Text} (hx : ∀ c ∈ x, ¬ IsQuote c) (rest : Text) :
    Unquoted (x ++ '\n' :: rest) := by
  intro q hq
  have hline : '\n' ≠ q := by
    rintro rfl
    rcases hq with h | h <;> cases h
  -- what a specifier takes ends at the line end, as there is no quote in front of it
  obtain ⟨left, hleft⟩ : ∃ left, (x ++ '\n' :: rest).dropWhile isSpecifierChar = '\n' :: left := by
    rcases Markup.Gap.all_or_stop isSpecifierChar x with hall | hstop
    · refine ⟨rest, ?_⟩
      rw [List.dropWhile_append_of_pos hall, List.dropWhile_cons_of_neg (by decide)]
    · rw [(Markup.Gap.takeWhile_append_of_stop hstop _).2]
      obtain ⟨c, y, hdrop, hc, hp⟩ := exists_dropWhile_cons hstop
      have hquote : ¬ (c = '"' ∨ c = '\'') := hx c hc
      obtain rfl : c = '\n' := by
        by_contra hne
        simp [isSpecifierChar, not_or.1 hquote, hne] at hp
      rw [hdrop]
      exact ⟨_, rfl⟩
  rw [specifier?]
  split
  · rw [List.span_eq_takeWhile_dropWhile, hleft]
    cases List.takeWhile isSpecifierChar (x ++ '\n' :: rest) with
    | nil => rfl
    | cons c found => exact if_neg hline
  · rfl

section

variable (s : Specifier) {x t : Text}

/-- The end of a specifier, with its quote, is no specifier. -/
theorem Specifier.specifier?_dropWhile (hx : ∀ c ∈ x, ¬ IsQuote c) (ht : Unquoted t)
    {p : Char → Bool} (hp : p s.quote = false) :
    specifier? ((x ++ s.quote :: t).dropWhile p) = none := by
  rcases Markup.Gap.all_or_stop p x with hall | hstop
  · rw [List.dropWhile_append_of_pos hall, List.dropWhile_cons_of_neg (by simp [hp])]
    exact ht s.quote s.isQuote
  · rw [(Markup.Gap.takeWhile_append_of_stop hstop _).2]
    obtain ⟨c, y, hdrop, hc, -⟩ := exists_dropWhile_cons hstop
    have hquote : ¬ (c = '"' ∨ c = '\'') := hx c hc
    rw [hdrop, List.cons_append, specifier?, if_neg (by simpa using hquote)]

/-- A word in the end of a specifier stands in front of the quote. -/
theorem Specifier.of_after? {w r : Text} (hw : ∀ c ∈ w, ¬ IsQuote c)
    (h : Text.after? w (x ++ s.quote :: t) = some r) : ∃ y, x = w ++ y ∧ r = y ++ s.quote :: t := by
  rcases List.append_eq_append_iff.1 (Text.after?_eq_some_iff.1 h) with ⟨a, rfl, ha⟩ | ⟨a, ha, rfl⟩
  · cases a with
    | nil => exact ⟨[], by simp, by simpa using ha.symm⟩
    | cons c a =>
      obtain ⟨rfl, -⟩ := List.cons.inj ha
      exact absurd s.isQuote (hw s.quote (by simp))
  · exact ⟨a, ha, rfl⟩

end

theorem Specifier.silent_render (s : Specifier) {t : Text}
    {statement? : Text → Option (Text × Text)} (hquote : ∀ w, statement? (s.quote :: w) = none)
    (hend : ∀ x, x <:+ s.text → statement? (x ++ s.quote :: t) = none) (before : Option Char) :
    Silent statement? before s.render t := by
  have htext : ∀ x, x <:+ s.text → ∀ before, Silent statement? before (x ++ [s.quote]) t := by
    intro x hx
    induction x with
    | nil => exact fun before => ⟨fun _ => hquote t, trivial⟩
    | cons c x ih =>
      intro before
      refine ⟨fun _ => ?_, ih ((List.suffix_cons c x).trans hx) (some c)⟩
      have hread := hend (c :: x) hx
      rwa [List.append_eq, List.append_assoc, List.singleton_append]
  exact ⟨fun _ => hquote _, htext s.text (List.suffix_refl _) (some s.quote)⟩

section

variable (s : Specifier) {t : Text}

theorem Specifier.not_isQuote_of_suffix {x : Text} (hx : x <:+ s.text) : ∀ c ∈ x, ¬ IsQuote c := by
  intro c hc hquote
  obtain ⟨hdouble, hsingle, -⟩ := s.isPlain c (hx.subset hc)
  rcases hquote with h | h
  · exact hdouble h
  · exact hsingle h

theorem Specifier.getLast?_render (u : Text) : (u ++ s.render).getLast? = some s.quote := by
  rw [render, ← List.cons_append, ← List.append_assoc, List.getLast?_concat]

/-- Behind a specifier a statement may start. -/
theorem Specifier.isJoined_lastOf (before : Option Char) (u : Text) :
    isJoined (lastOf before (u ++ s.render)) = false := by
  rw [lastOf, s.getLast?_render, Option.some_or]
  rcases s.isQuote with h | h <;> rw [h] <;> decide +kernel

theorem Specifier.not_mem_render {c : Char} (hc : Text.isBlank c = true) : c ∉ s.render := by
  have hquote : c ≠ s.quote := ne_of_isBlank hc s.isBlank_quote
  have htext : c ∉ s.text := by
    intro hmem
    rw [(s.isPlain c hmem).2.2.2.2] at hc
    cases hc
  simp [Specifier.render, hquote, htext]

theorem Specifier.ne_of_not_isQuote {c : Char} (h : ¬ IsQuote c) : s.quote ≠ c := by
  rintro rfl
  exact h s.isQuote

/-- **No import is found in a specifier.** -/
theorem Specifier.silent_import (ht : Unquoted t) (before : Option Char) :
    Silent importStatement? before s.render t := by
  have hquote : s.quote ≠ 'i' := s.ne_of_not_isQuote (by unfold IsQuote; decide)
  refine s.silent_render (importStatement?_cons hquote) (fun x hx => ?_) before
  rw [importStatement?]
  cases hafter : Text.after? "import".toList (x ++ s.quote :: t) with
  | none => rfl
  | some r =>
    obtain ⟨y, rfl, rfl⟩ := s.of_after? (by unfold IsQuote; decide) hafter
    -- the quote behind the clause is the one that ends the specifier, so it starts none
    have hnone := s.specifier?_dropWhile
      (s.not_isQuote_of_suffix ((List.suffix_append _ y).trans hx)) ht s.isClauseChar_quote
    rw [Option.bind_some, hnone]
    exact ite_self _

theorem Specifier.dropWhile_blank {x : Text} (hx : x <:+ s.text) :
    (x ++ s.quote :: t).dropWhile Text.isBlank = x ++ s.quote :: t ∧
      (x ++ s.quote :: t).takeWhile Text.isBlank = [] := by
  have hhead : ∃ c w, x ++ s.quote :: t = c :: w ∧ Text.isBlank c = false := by
    cases x with
    | nil => exact ⟨_, _, rfl, s.isBlank_quote⟩
    | cons c x => exact ⟨c, _, rfl, (s.isPlain c (hx.subset List.mem_cons_self)).2.2.2.2⟩
  obtain ⟨c, w, heq, hc⟩ := hhead
  rw [heq]
  exact ⟨List.dropWhile_cons_of_neg (by simp [hc]), List.takeWhile_cons_of_neg (by simp [hc])⟩

theorem Specifier.exportedStar?_end {x : Text} (hx : x <:+ s.text) (ht : Unquoted t) :
    exportedStar? (x ++ s.quote :: t) = none := by
  obtain ⟨hdrop, -⟩ := s.dropWhile_blank (t := t) hx
  rw [exportedStar?, hdrop]
  cases hafter : Text.after? "as".toList (x ++ s.quote :: t) with
  | none =>
    dsimp only
    rw [fromClause?, hdrop]
    cases hfrom : Text.after? fromWord (x ++ s.quote :: t) with
    | none => rfl
    | some r =>
      obtain ⟨y, rfl, rfl⟩ := s.of_after? (by unfold IsQuote; decide) hfrom
      exact s.specifier?_dropWhile (s.not_isQuote_of_suffix ((List.suffix_append _ y).trans hx))
        ht s.isBlank_quote
  | some r =>
    obtain ⟨y, rfl, rfl⟩ := s.of_after? (by unfold IsQuote; decide) hafter
    obtain ⟨-, htake⟩ := s.dropWhile_blank (t := t) ((List.suffix_append "as".toList y).trans hx)
    simp [List.span_eq_takeWhile_dropWhile, htake]

/-- **No export is found in a specifier.** -/
theorem Specifier.silent_export (ht : Unquoted t) (before : Option Char) :
    Silent exportStatement? before s.render t := by
  have hquote : s.quote ≠ 'e' := s.ne_of_not_isQuote (by unfold IsQuote; decide)
  refine s.silent_render (exportStatement?_cons hquote) (fun x hx => ?_) before
  rw [exportStatement?]
  cases hafter : Text.after? "export".toList (x ++ s.quote :: t) with
  | none => rfl
  | some r =>
    obtain ⟨y, rfl, rfl⟩ := s.of_after? (by unfold IsQuote; decide) hafter
    have hy : y <:+ s.text := (List.suffix_append _ y).trans hx
    rw [Option.bind_some, (s.dropWhile_blank hy).1]
    -- in the specifier a star or the end may stand behind the word, but no brace
    cases y with
    | nil =>
      have hq : IsQuote s.quote := s.isQuote
      rcases hq with h | h <;> rw [h] <;> rfl
    | cons c y =>
      obtain ⟨-, -, hopen, -, -⟩ := s.isPlain c (hy.subset List.mem_cons_self)
      by_cases hstar : c = '*'
      · rw [hstar]
        exact s.exportedStar?_end ((List.suffix_cons c y).trans hy) ht
      · simp [hstar, hopen]

end

/-! ## What is found in a declaration -/

section

variable {head gap t : Text}

/-- An import that is read in front of a specifier ends with it. -/
theorem of_importStatement? {u found rest : Text} (hu : ∀ c ∈ u, isClauseChar c = true)
    (s : Specifier) (h : importStatement? (u ++ (s.render ++ t)) = some (found, rest)) :
    specifier? (s.render ++ t) = some (found, rest) := by
  rw [importStatement?] at h
  obtain ⟨r, hafter, h⟩ := Option.bind_eq_some_iff.1 h
  have hdrop : r.dropWhile isClauseChar = s.render ++ t := by
    have hword : ∀ c ∈ "import".toList, isClauseChar c = true := by decide +kernel
    have hr := @List.dropWhile_append_of_pos _ isClauseChar _ r hword
    rw [← Text.after?_eq_some_iff.1 hafter, List.dropWhile_append_of_pos hu, s.render_append,
      List.dropWhile_cons_of_neg (by simp [s.isClauseChar_quote]), ← s.render_append] at hr
    exact hr.symm
  dsimp only at h
  split at h
  · rwa [hdrop] at h
  · cases h

/-- The imports that are found in a declaration: one at most, with its specifier. -/
theorem exists_imports {u : Text} (hu : ∀ c ∈ u, isClauseChar c = true) (s : Specifier)
    (ht : Unquoted t) (before : Option Char) (offset : Nat) :
    ∃ found, (∀ f ∈ found, f.offset < offset + u.length ∧ f.specifier = s.text) ∧
      (s.text = [] → found = []) ∧
      occurrences importStatement? 0 before offset (u ++ (s.render ++ t)) =
        found ++ occurrences importStatement? 0 none (offset + (u ++ s.render).length) t := by
  induction u generalizing before offset with
  | nil =>
    refine ⟨[], by simp, fun _ => rfl, ?_⟩
    rw [List.nil_append, occurrences_silent (s.silent_import ht before),
      Nat.zero_sub, List.nil_append]
    exact occurrences_unjoined (s.isJoined_lastOf before []) _ t
  | cons c u ih =>
    obtain ⟨found, hfound, hempty, hlater⟩ :=
      ih (fun d hd => hu d (List.mem_cons_of_mem c hd)) (some c) (offset + 1)
    have hlength : offset + 1 + (u ++ s.render).length = offset + (c :: u ++ s.render).length := by
      rw [List.cons_append, List.length_cons, Nat.add_assoc, Nat.add_comm 1]
    rw [hlength] at hlater
    have hfound : ∀ f ∈ found, f.offset < offset + (c :: u).length ∧ f.specifier = s.text := by
      intro f hf
      have hbounds := (hfound f hf).1
      exact ⟨by rw [List.length_cons]; omega, (hfound f hf).2⟩
    rw [List.cons_append]
    -- the rest has its imports already; an import from here on reaches over all of it
    cases hjoined : isJoined before with
    | true => exact ⟨found, hfound, hempty, by rw [occurrences_of_joined hjoined, hlater]⟩
    | false =>
      cases hread : importStatement? (c :: (u ++ (s.render ++ t))) with
      | none => exact ⟨found, hfound, hempty, by rw [occurrences_of_none hread, hlater]⟩
      | some read =>
        obtain ⟨specifier, rest⟩ := read
        have hspecifier := of_importStatement? hu s hread
        rw [s.specifier?_render] at hspecifier
        split at hspecifier
        · cases hspecifier
        · next hne =>
          obtain ⟨rfl, rfl⟩ : s.text = specifier ∧ t = rest := by simpa using hspecifier
          have hwhole : c :: (u ++ (s.render ++ t)) = (c :: u ++ s.render) ++ t := by simp
          rw [hwhole] at hread ⊢
          refine ⟨[⟨offset, s.text⟩], by simp, fun h => absurd h hne, ?_⟩
          rw [occurrences_statement hjoined (by simp) hread,
            occurrences_unjoined (s.isJoined_lastOf before (c :: u))]
          rfl

end

/-- The characters in front of the specifier of a declaration. -/
theorem of_mem_front {form : Form} {head gap : Text}
    (h : Spaced (.word form.firstWord :: form.inner) head) (hgap : IsSpace gap) :
    ∀ c ∈ head ++ gap, isClauseChar c = true := by
  have hword : ∀ c ∈ form.firstWord, isClauseChar c = true := by
    rw [Form.firstWord]
    split <;> decide +kernel
  intro c hc
  rcases List.mem_append.1 hc with hc | hc
  · rcases h.mem c hc with hblank | ⟨l, hl, hc⟩
    · exact isClauseChar_of_isBlank hblank
    · rcases List.mem_cons.1 hl with rfl | hl
      · exact hword c hc
      · exact (form.inner_inner l hl).isClauseChar c hc
  · exact isClauseChar_of_isBlank (hgap c hc)

/-- An export with an empty specifier is no statement, and it holds none. -/
theorem silent_export_written {form : Form} {head gap : Text} (hexport : form.isImport = false)
    (h : Spaced (.word form.firstWord :: form.inner) head) (hgap : IsSpace gap) (s : Specifier)
    (hempty : s.text = []) {t : Text} (ht : Unquoted t) (before : Option Char) :
    Silent exportStatement? before (head ++ (gap ++ s.render)) t := by
  have hnone := exportStatement?_written hexport h hgap s t
  rw [s.specifier?_render, if_pos hempty] at hnone
  have hend : ∀ before, Silent exportStatement? before (gap ++ s.render) t := fun before =>
    (silent_of_none (fun c hc => exportStatement?_blank (hgap c hc)) before _).append
      (s.silent_export ht _)
  have hword : ∀ c ∈ exportWord, isNameChar c = true := by decide +kernel
  -- the first word is followed by another lexeme, so it is read as a word of its own
  obtain ⟨k, ls, hls⟩ : ∃ k ls, form.inner = k :: ls := by
    cases form with
    | importEffect => cases hexport
    | importClause clause => cases hexport
    | exportList names => exact ⟨_, _, rfl⟩
    | exportAll => exact ⟨_, _, rfl⟩
    | exportAllAs name => exact ⟨_, _, rfl⟩
  have hinner := form.inner_inner
  rw [Form.firstWord, hexport, if_neg Bool.false_ne_true, hls] at h
  rw [hls] at hinner
  cases h with
  | @cons _ _ _ g inner hg _ hinside =>
    have hbreaks : Breaks ((gap ++ s.render) ++ t) := by
      rw [List.append_assoc]
      exact breaks_append hgap fun _ => s.breaks_render t
    refine Silent.append ?_ (hend _)
    refine (silent_word hword ?_ before).append
      ((silent_of_none (fun c hc => exportStatement?_blank (hg c hc)) _ _).append
        (hinside.silent_export hinner hbreaks _))
    simpa [Lexeme.text] using hnone

section

variable {form : Form} {head gap t : Text}

/-- A declaration that is read from its start is found there, if its specifier is not empty. -/
theorem yields_written {statement? : Text → Option (Text × Text)} (s : Specifier) (hs : s.text ≠ [])
    (hread : statement? (head ++ (gap ++ (s.render ++ t))) = specifier? (s.render ++ t)) :
    Yields statement? (head ++ (gap ++ s.render)) t [⟨0, s.text⟩] := by
  rw [s.specifier?_render, if_neg hs] at hread
  refine yields_statement (by simp [Specifier.render]) (by simpa using hread) fun before => ?_
  rw [← List.append_assoc]
  exact s.isJoined_lastOf before _

/-- No export is found in a declaration that is an import, or whose specifier is empty. -/
theorem yields_no_export (h : Spaced (.word form.firstWord :: form.inner) head) (hgap : IsSpace gap)
    (s : Specifier) (hnone : form.isImport = true ∨ s.text = []) (ht : Unquoted t) :
    Yields exportStatement? (head ++ (gap ++ s.render)) t [] := by
  refine yields_silent (fun before => ?_) fun before _ => ?_
  · cases hform : form.isImport with
    | true =>
      rw [← List.append_assoc]
      exact (silent_export_import hform h hgap (s.breaks_render t) before).append
        (s.silent_export ht _)
    | false =>
      have hempty : s.text = [] := hnone.resolve_left (by rw [hform]; exact Bool.false_ne_true)
      exact silent_export_written hform h hgap s hempty ht before
  · rw [← List.append_assoc]
    exact s.isJoined_lastOf before _

end

/-- **What is found in a declaration has its specifier**, and something is found just if
the specifier is not empty. -/
theorem Declaration.exists_found {d : Declaration} {text : Text} (h : d.Written text) :
    ∃ front, text = front ++ d.specifier.render ∧ (∀ c ∈ front, isClauseChar c = true) ∧
      ∀ {t}, Unquoted t → ∃ imports exports,
        (∀ f ∈ imports ++ exports, f.offset < front.length ∧ f.specifier = d.specifier.text) ∧
        (imports ++ exports = [] ↔ d.specifier.text = []) ∧
        Yields importStatement? text t imports ∧ Yields exportStatement? text t exports := by
  obtain ⟨form, s⟩ := d
  cases h with
  | @intro head gap hhead hgap =>
    have hfront := of_mem_front hhead hgap
    refine ⟨head ++ gap, by simp, hfront, fun {t} ht => ?_⟩
    dsimp only at *
    have hpos : 0 < (head ++ gap).length := by
      rw [List.length_append]
      exact Nat.add_pos_left (List.length_pos_iff.2 (hhead.ne_nil form.firstWord_ne_nil)) _
    obtain ⟨found, hfound, hempty, hsearch⟩ := exists_imports hfront s ht none 0
    rw [Nat.zero_add] at hfound
    have himports : Yields importStatement? (head ++ (gap ++ s.render)) t found := by
      intro before hbefore
      rw [occurrences_unjoined hbefore]
      simpa using hsearch
    by_cases hs : s.text = []
    · obtain rfl := hempty hs
      exact ⟨[], [], by simp, by simp [hs], himports, yields_no_export hhead hgap s (.inr hs) ht⟩
    · cases hform : form.isImport with
      | true =>
        exact ⟨[⟨0, s.text⟩], [], by simpa using hpos, by simp [hs],
          yields_written s hs (importStatement?_written hform hhead hgap s t),
          yields_no_export hhead hgap s (.inl hform) ht⟩
      | false =>
        -- an import may be found inside of an export, where a name starts like one
        refine ⟨found, [⟨0, s.text⟩], ?_, by simp [hs], himports,
          yields_written s hs (exportStatement?_written hform hhead hgap s t)⟩
        intro f hf
        rcases List.mem_append.1 hf with hf | hf
        · exact hfound f hf
        · rw [List.mem_singleton.1 hf]
          exact ⟨hpos, rfl⟩

end Script
end SiteOptimizer
