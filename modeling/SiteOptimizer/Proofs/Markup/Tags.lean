import SiteOptimizer.Proofs.Markup.Written

/-!
# The tags of an injected document

A document keeps its own tags when lines go in front of its closing tags, and the tags of those
lines are all that it gains. It stays as it is only if it has none of these closing tags.
-/

namespace SiteOptimizer
namespace Markup

variable {frag : Text → Option Text} {newline : Text} {m : Mode}

/-! ## Reading up to a closing tag -/

/-- Every sign of a document is read from some place on. -/
theorem exists_reads (l : Lexer) : ∀ {a b : List Sign} {sign : Sign},
    signsFrom l.mode l.rest = a ++ sign :: b →
    ∃ m' x' rule found rest, Reads l.mode l.rest a m' x' ∧
      firstMatch? m'.rules x' = some (rule, found, rest) ∧ Sign.ofPiece rule.kind found = [sign] ∧
      signsFrom rule.next rest = b := by
  induction l using Lexer.induct with
  | done l h =>
    intro a b sign hs
    have hnil : signsFrom l.mode l.rest = [] := by
      rw [← signs_tokens l.mode l.rest l.offset, show Lexer.tokens ⟨l.rest, l.offset, l.mode⟩ =
        [] from Lexer.tokens_of_none h, signs_nil]
    rw [hnil] at hs
    cases a <;> cases hs
  | step l rule found rest hf ih =>
    intro a b sign hs
    rw [signsFrom_step hf] at hs
    cases hk : rule.kind.isFiller with
    | true =>
      have hnone : Sign.ofPiece rule.kind found = [] := if_pos hk
      rw [hnone, List.nil_append] at hs
      obtain ⟨m', x', rule', found', rest', hr, h⟩ := ih hs
      have hstep := Reads.step hf hr
      rw [hnone] at hstep
      exact ⟨m', x', rule', found', rest', hstep, h⟩
    | false =>
      have hone : Sign.ofPiece rule.kind found = [⟨rule.kind, rule.kind.normalize found⟩] :=
        if_neg (by rw [hk]; simp)
      rw [hone] at hs
      -- the sign is the first of this step, or it stands among those of the rest
      cases a with
      | nil =>
        rw [List.nil_append, List.singleton_append, List.cons.injEq] at hs
        exact ⟨l.mode, l.rest, rule, found, rest, .done _ _, hf, by rw [hone, hs.1], hs.2⟩
      | cons s a =>
        rw [List.singleton_append, List.cons_append, List.cons.injEq] at hs
        obtain ⟨m', x', rule', found', rest', hr, h⟩ := ih hs.2
        have hstep := Reads.step hf hr
        rw [hone, hs.1] at hstep
        exact ⟨m', x', rule', found', rest', hstep, h⟩

/-- **A closing tag is read between tags**, and what follows it is read from there on. -/
theorem exists_reads_close {x : Text} {a b : List Sign} {sign : Sign}
    (h : signsFrom m x = a ++ sign :: b) (hk : sign.kind = .tagClose) :
    ∃ close rest, Reads m x a .text (close ++ rest) ∧
      firstMatch? textRules (close ++ rest) = some (closeRule, close, rest) ∧
      sign.value = Kind.tagClose.normalize close ∧ signsFrom .text rest = b := by
  obtain ⟨m', x', rule, found, rest, hr, hf, hsign, hb⟩ := exists_reads ⟨x, 0, m⟩ h
  have hkind : rule.kind = .tagClose ∧ sign.value = rule.kind.normalize found := by
    unfold Sign.ofPiece at hsign
    split at hsign
    · cases hsign
    · cases hsign
      exact ⟨hk, rfl⟩
  obtain ⟨rfl, rfl⟩ := eq_closeRule (Mode.mem_rules_of_firstMatch? hf) hkind.1
  have happ := (append_of_firstMatch? hf).2
  refine ⟨found, rest, ?_, ?_, hkind.2, hb⟩
  · rw [happ]
    exact hr
  · rw [happ]
    exact hf

/-! ## Which tags there are -/

theorem marksBefore_of_none {sign : Sign} (h : closing frag sign.kind sign.value = none) :
    marksBefore frag sign = [] := by
  rw [marksBefore, h]

theorem marksBefore_of_some {sign : Sign} {fragment : Text}
    (h : closing frag sign.kind sign.value = some fragment) :
    marksBefore frag sign = marks (Text.splitLines fragment) := by
  rw [marksBefore, h]

/-- Lines that read as the same markup wherever they stand have their own tags. -/
theorem tagsOf_marks_append (names : Text → Bool) {lines : List Text}
    (h : ∀ line ∈ lines, Standalone line) (w : List Sign) :
    tagsOf names (marks lines ++ w) =
      lines.flatMap (fun line => tagsOf names (signsFrom .text line)) ++
      tagsOf names w := by
  induction lines with
  | nil => rfl
  | cons line lines ih =>
    have hline := (h line List.mem_cons_self).reads []
    rw [show marks (line :: lines) = signsFrom .text line ++ marks lines from rfl,
      List.append_assoc, tagsOf_append names hline, ih fun l hl => h l (List.mem_cons_of_mem _ hl),
      List.flatMap_cons, List.append_assoc]

theorem tagsOf_marks (names : Text → Bool) {lines : List Text}
    (h : ∀ line ∈ lines, Standalone line) :
    tagsOf names (marks lines) = lines.flatMap fun line => tagsOf names (signsFrom .text line) := by
  have hmarks := tagsOf_marks_append names h []
  rw [List.append_nil] at hmarks
  rw [hmarks, tagsOf_eq_nil (v := []) (by simp), List.append_nil]

/-- The signs of a document up to the first closing tag that wants something, or all of them. -/
theorem none_or_first (frag : Text → Option Text) (v : List Sign) :
    (∀ sign ∈ v, closing frag sign.kind sign.value = none) ∨
      ∃ a sign b fragment, v = a ++ sign :: b ∧ closing frag sign.kind sign.value = some fragment ∧
        ∀ s ∈ a, closing frag s.kind s.value = none := by
  induction v with
  | nil => exact .inl (by simp)
  | cons sign v ih =>
    cases hc : closing frag sign.kind sign.value with
    | some fragment => exact .inr ⟨[], sign, v, fragment, rfl, hc, by simp⟩
    | none =>
      rcases ih with hall | ⟨a, s, b, fragment, rfl, hs, ha⟩
      · refine .inl fun s hs => ?_
        rcases List.mem_cons.1 hs with rfl | hs
        · exact hc
        · exact hall s hs
      · refine .inr ⟨sign :: a, s, b, fragment, rfl, hs, fun t ht => ?_⟩
        rcases List.mem_cons.1 ht with rfl | ht
        · exact hc
        · exact ha t ht

/-- **A document gains the tags of the lines that go into it, and loses none.** The induction is on
the length of the document, from one closing tag that wants lines to the next. -/
theorem mem_tagsOf_spliced (names : Text → Bool) (hfrag : Fragments frag) (x : Text)
    (p : Text × Attributes) :
    p ∈ tagsOf names ((signsFrom .text x).flatMap fun sign => marksBefore frag sign ++ [sign]) ↔
      p ∈ tagsOf names (signsFrom .text x) ∨
        ∃ sign ∈ signsFrom .text x, p ∈ tagsOf names (marksBefore frag sign) := by
  induction hn : x.length using Nat.strongRecOn generalizing x with
  | _ n ih =>
    have hnone : ∀ sign, closing frag sign.kind sign.value = none →
        p ∉ tagsOf names (marksBefore frag sign) := by
      intro sign hs
      rw [marksBefore_of_none hs, tagsOf_eq_nil (by simp)]
      simp
    rcases none_or_first frag (signsFrom .text x) with hall | ⟨a, sign, b, fragment, hx, hs, ha⟩
    · rw [flatMap_marksBefore_of_none hall]
      constructor
      · exact .inl
      · rintro (h | ⟨sign, hs, h⟩)
        · exact h
        · exact absurd h (hnone sign (hall sign hs))
    -- The document is cut behind the first tag that wants a fragment: no tag runs over the
    -- cut, so each half has its own.
    · obtain ⟨hk, hfragment⟩ := closing_eq_some_iff.1 hs
      obtain ⟨close, rest, hr, hf, -, rfl⟩ := exists_reads_close hx hk
      have hlt : rest.length < n := by
        have hle := hr.length_le
        have hpos := List.length_pos_iff.2 (append_of_firstMatch? hf).1
        rw [List.length_append] at hle
        omega
      have hskip : ∀ w, tagsOf names (sign :: w) = tagsOf names w := fun w =>
        tagsOf_append_of_ne names (v := [sign]) (by simp [hk]) w
      have hlines : ∀ line ∈ Text.splitLines fragment, Standalone line := hfrag.lines _ _ hfragment
      have hmarks : ∀ w, tagsOf names (marksBefore frag sign ++ w) =
          tagsOf names (marksBefore frag sign) ++ tagsOf names w := by
        intro w
        rw [marksBefore_of_some hs, tagsOf_marks_append names hlines, tagsOf_marks names hlines]
      rw [hx, List.flatMap_append, List.flatMap_cons, flatMap_marksBefore_of_none ha,
        tagsOf_append names hr, tagsOf_append names hr, List.append_assoc, hmarks,
        List.singleton_append, hskip, hskip, List.mem_append, List.mem_append,
        List.mem_append, ih _ hlt rest rfl]
      constructor
      · rintro (h | h | h | ⟨s, hs', h⟩)
        · exact .inl (.inl h)
        · exact .inr ⟨sign, by simp, h⟩
        · exact .inl (.inr h)
        · exact .inr ⟨s, by simp [hs'], h⟩
      · rintro ((h | h) | ⟨s, hs', h⟩)
        · exact .inl h
        · exact .inr (.inr (.inl h))
        · rcases List.mem_append.1 hs' with hs' | hs'
          · exact absurd h (hnone s (ha s hs'))
          · rcases List.mem_cons.1 hs' with rfl | hs'
            · exact .inr (.inl h)
            · exact .inr (.inr (.inr ⟨s, hs', h⟩))

/-! ## When a document stays as it is -/

/-- Without a closing tag that wants lines a document stays as it is. -/
theorem Woven.eq_of_none {x y : Text} (h : Woven frag newline m x y)
    (hnone : ∀ sign ∈ signsFrom m x, closing frag sign.kind sign.value = none) : y = x := by
  cases h with
  | rest => rfl
  | @insert _ s close x y v i hr _ hc hf _ _ =>
    have hread := Reads.one (m := .text) hc
    have hmem : ⟨.tagClose, Kind.tagClose.normalize close⟩ ∈ signsFrom m (s ++ (close ++ x)) := by
      rw [hr.signsFrom_eq, hread.signsFrom_eq]
      simp [Sign.ofPiece, closeRule, Kind.isFiller]
    have hnothing := hnone _ hmem
    rw [closing_eq_some_iff.2 ⟨rfl, hf⟩] at hnothing
    cases hnothing

theorem Woven.length_le {x y : Text} (h : Woven frag newline m x y) : x.length ≤ y.length := by
  induction h with
  | rest => exact Nat.le_refl _
  | insert _ _ _ _ _ _ ih =>
    simp only [List.length_append]
    omega

theorem Woven.length_lt {x y : Text} (h : Woven frag newline m x y)
    (hne : ∀ tag fragment, frag tag = some fragment → fragment ≠ []) {sign : Sign}
    (hsign : sign ∈ signsFrom m x) (hc : closing frag sign.kind sign.value ≠ none) :
    x.length < y.length := by
  cases h with
  | rest hnone => exact absurd (hnone sign hsign) hc
  | @insert _ s close x y v i _ _ _ hf hindent hw =>
    have hle := hw.length_le
    have hblock := List.length_pos_iff.2 (i.block_ne_nil newline hindent (hne _ _ hf))
    simp only [List.length_append]
    omega

theorem fragmentFor_ne_nil {headEnd bodyEnd tag fragment : Text}
    (h : fragmentFor headEnd bodyEnd tag = some fragment) : fragment ≠ [] := by
  unfold fragmentFor at h
  split at h
  · next hc =>
    cases h
    simpa using (Bool.and_eq_true_iff.1 hc).2
  · split at h
    · next hc =>
      cases h
      simpa using (Bool.and_eq_true_iff.1 hc).2
    · cases h

/-- **Injecting leaves a document as it is just if the document has none of the closing tags.** -/
theorem inject_eq_self_iff (document headEnd bodyEnd : Text) :
    inject document headEnd bodyEnd = document ↔
      ∀ sign ∈ signsFrom .text document,
        closing (fragmentFor headEnd bodyEnd) sign.kind sign.value = none := by
  obtain ⟨newline, -, hw⟩ := woven_inject document headEnd bodyEnd
  constructor
  · intro heq sign hsign
    cases hc : closing (fragmentFor headEnd bodyEnd) sign.kind sign.value with
    | none => rfl
    | some fragment =>
      have hlt := hw.length_lt (fun _ _ => fragmentFor_ne_nil) hsign (by rw [hc]; simp)
      rw [heq] at hlt
      exact absurd hlt (Nat.lt_irrefl _)
  · exact hw.eq_of_none

/-! ## Tags with other names -/

/-- In a tag no other tag opens, so skipping what is left of it loses none. -/
theorem tagsNamed_readFrom (names : Text → Bool) (l : Lexer) (hin : l.mode.inTag = true)
    (attributes : Attributes) (pending : Option Text) :
    tagsNamed names (Attributes.readFrom attributes pending l.tokens).2 =
      tagsNamed names l.tokens := by
  induction l using Lexer.induct generalizing attributes pending with
  | done l h =>
    rw [Lexer.tokens_of_none h]
    rfl
  | step l rule found rest hf ih =>
    obtain ⟨hopen, hend⟩ : rule.kind ≠ .tagOpen ∧
        (rule.kind.endsTag = true ∨ rule.next.inTag = true) := by
      rcases Mode.rule_cases (Mode.mem_rules_of_firstMatch? hf) with ⟨hout, -⟩ | ⟨-, hopen, hend⟩
      · rw [hin] at hout
        cases hout
      · exact ⟨hopen, hend.imp And.left And.right⟩
    rw [Lexer.tokens_of_some (Lexer.next_eq l hf), tagsNamed_cons_of_ne hopen]
    simp only [Attributes.readFrom]
    split
    · rfl
    · next hne =>
      -- a token that does not end the tag keeps the lexer in it, as the induction needs
      have hnext := hend.resolve_left hne
      split
      · split <;> exact ih hnext _ _
      · split
        · cases pending <;> exact ih hnext _ _
        · exact ih hnext _ _

/-- A document has the tag that its first token opens, if that is looked
for, and the tags behind it. -/
theorem tagsNamed_step (names : Text → Bool) (l : Lexer) {rule : Rule} {found rest : Text}
    (hf : firstMatch? l.mode.rules l.rest = some (rule, found, rest)) :
    tagsNamed names l.tokens =
      (if rule.kind = .tagOpen && names (rule.kind.normalize found) then
        [(rule.kind.normalize found,
          (Attributes.read (Lexer.tokens ⟨rest, l.offset + found.length, rule.next⟩)).1)]
      else []) ++
        tagsNamed names (Lexer.tokens ⟨rest, l.offset + found.length, rule.next⟩) := by
  rw [Lexer.tokens_of_some (Lexer.next_eq l hf), tagsNamed]
  show (if (decide (rule.kind = .tagOpen) && names (rule.kind.normalize found)) =
    true then _ else _) = _
  split
  · next h =>
    rw [Bool.and_eq_true, decide_eq_true_eq] at h
    have hin : rule.next.inTag = true := by
      rcases Mode.rule_cases (Mode.mem_rules_of_firstMatch? hf) with ⟨-, hopen⟩ | ⟨-, hne, -⟩
      · exact (hopen.resolve_right fun hne => hne.1 h.1).2
      · exact absurd h.1 hne
    rw [Attributes.read, tagsNamed_readFrom names _ hin]
    rfl
  · rfl

theorem names_of_mem_tagsNamed {names : Text → Bool} {tokens : List Token} {tag : Text × Attributes}
    (h : tag ∈ tagsNamed names tokens) : names tag.1 = true := by
  fun_induction tagsNamed names tokens with
  | case1 => cases h
  | case2 t tokens hopen ih =>
    rcases List.mem_cons.1 h with rfl | h
    · exact (Bool.and_eq_true_iff.1 hopen).2
    · exact ih h
  | case3 t tokens _ ih => exact ih h

/-- **Whoever looks for more names finds no fewer tags**, although all of a tag
is skipped whose name counts. -/
theorem mem_tagsNamed_mono {names names' : Text → Bool}
    (h : ∀ name, names name = true → names' name = true) (document : Text) {tag : Text × Attributes}
    (htag : tag ∈ tagsNamed names (tokenize document)) :
    tag ∈ tagsNamed names' (tokenize document) := by
  have hall : ∀ l : Lexer, tag ∈ tagsNamed names l.tokens → tag ∈ tagsNamed names' l.tokens := by
    intro l
    induction l using Lexer.induct with
    | done l hdone =>
      rw [Lexer.tokens_of_none hdone]
      simp [tagsNamed]
    | step l rule found rest hf ih =>
      rw [tagsNamed_step names l hf, tagsNamed_step names' l hf, List.mem_append, List.mem_append]
      refine Or.imp (fun hmem => ?_) ih
      rw [List.mem_ite_nil_right, Bool.and_eq_true] at hmem ⊢
      exact ⟨⟨hmem.1.1, h _ hmem.1.2⟩, hmem.2⟩
  exact hall _ htag

end Markup
end SiteOptimizer
