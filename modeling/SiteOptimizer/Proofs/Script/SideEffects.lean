import SiteOptimizer.Proofs.Script.DeclarationSearch
import SiteOptimizer.Proofs.Script.StyleProxy

/-!
# Where imports are dropped

The rewriter goes through a script character by character and passes over each import that it reads
at the start of a line. No import starts inside of another one (`SideEffect.quiet`), so passing
over makes no difference: an import is dropped just if it stands at the start of a line of the
script and can be dropped. `Sheds` says so of a script and what is left of it; each script sheds in
one way only (`Sheds.unique`).
-/

namespace SiteOptimizer
namespace Script

open Markup (IsSpace IsQuote)

/-! ## The parts of an import -/

/-- What the line of an import ends with. -/
inductive LineTail : Text → Prop where
  | intro {front lineEnd : Text} : (∀ c ∈ front, Text.isIndent c = true ∨ c = ';') →
      lineEnd ∈ [[], ['\n'], ['\r', '\n']] → LineTail (front ++ lineEnd)

/-- An import for its effect alone at the start of a text, with its
specifier and what follows its line. -/
inductive SideEffect : Text → Text → Text → Prop where
  | intro {indent gap specifier tail rest : Text} {quote : Char} :
      (∀ c ∈ indent, Text.isIndent c = true) → IsSpace gap → IsQuote quote → specifier ≠ [] →
      (∀ c ∈ specifier, isSpecifierChar c = true) → LineTail tail →
        SideEffect (indent ++ (importWord ++
          (gap ++ quote :: (specifier ++ quote :: (tail ++ rest))))) specifier rest

theorem of_specifier? {s specifier rest : Text} (h : specifier? s = some (specifier, rest)) :
    ∃ quote, IsQuote quote ∧ specifier ≠ [] ∧ (∀ c ∈ specifier, isSpecifierChar c = true) ∧
      s = quote :: (specifier ++ quote :: rest) := by
  cases s with
  | nil => cases h
  | cons quote s =>
    rw [specifier?] at h
    split at h
    case isFalse => cases h
    case isTrue hquote =>
      rw [List.span_eq_takeWhile_dropWhile] at h
      split at h
      case h_2 => cases h
      case h_1 c found close left hspan =>
        split at h
        case isFalse => cases h
        case isTrue hclose =>
          cases h
          obtain ⟨htake, hdrop⟩ := Prod.mk.inj hspan
          refine ⟨quote, by simpa [IsQuote] using hquote, List.cons_ne_nil c found,
            fun d hd => ?_, ?_⟩
          -- the characters are those that were taken, and the quote behind them is the one that
          -- opened
          · rw [← htake] at hd
            exact List.mem_takeWhile_imp hd
          · rw [← hclose, ← List.takeWhile_append_dropWhile (p := isSpecifierChar)
              (l := s), htake, hdrop]

theorem exists_tail (s : Text) : ∃ tail, s = tail ++ lineRest s ∧ LineTail tail := by
  have hindent : ∀ s : Text, ∃ a, s = a ++ s.dropWhile Text.isIndent ∧
      ∀ c ∈ a, Text.isIndent c = true := fun s =>
    ⟨s.takeWhile Text.isIndent, List.takeWhile_append_dropWhile.symm,
      fun c hc => List.mem_takeWhile_imp hc⟩
  have hsemicolon : ∀ s : Text, ∃ b, s = b ++ (Text.after? [';'] s).getD s ∧ ∀ c ∈ b, c = ';' := by
    intro s
    cases hafter : Text.after? [';'] s with
    | none => exact ⟨[], rfl, by simp⟩
    | some rest => exact ⟨[';'], Text.after?_eq_some_iff.1 hafter, by simp⟩
  obtain ⟨a, ha, hindenta⟩ := hindent s
  obtain ⟨b, hb, hsemicolonb⟩ := hsemicolon (s.dropWhile Text.isIndent)
  obtain ⟨c, hc, hindentc⟩ :=
    hindent ((Text.after? [';'] (s.dropWhile Text.isIndent)).getD (s.dropWhile Text.isIndent))
  -- the three pieces in front of the line end are indents and at most one semicolon
  have hfront : ∀ d ∈ a ++ b ++ c, Text.isIndent d = true ∨ d = ';' := by
    intro d hd
    rcases List.mem_append.1 hd with hd | hd
    · exact (List.mem_append.1 hd).imp (hindenta d) (hsemicolonb d)
    · exact .inl (hindentc d hd)
  have hline : ∃ lineEnd ∈ [[], ['\n'], ['\r', '\n']],
      s = (a ++ b ++ c ++ lineEnd) ++ lineRest s := by
    conv => enter [1, lineEnd, 2]; lhs; rw [ha, hb, hc]
    unfold lineRest
    dsimp only
    split
    · next heq => exact ⟨['\n'], by simp, by rw [heq]; simp⟩
    · next heq => exact ⟨['\r', '\n'], by simp, by rw [heq]; simp⟩
    · exact ⟨[], by simp, by simp⟩
  obtain ⟨lineEnd, hmem, hs⟩ := hline
  exact ⟨_, hs, .intro hfront hmem⟩

theorem of_sideEffectImport? {line specifier rest : Text}
    (h : sideEffectImport? line = some (specifier, rest)) :
    SideEffect line specifier rest := by
  obtain ⟨s, behind, hword, hfound, rfl⟩ := parts_of_sideEffectImport? h
  obtain ⟨quote, hquote, hne, hspecifier, hs⟩ := of_specifier? hfound
  obtain ⟨tail, htail, hline⟩ := exists_tail behind
  have hcut : line = line.takeWhile Text.isIndent ++ (importWord ++ (s.takeWhile Text.isBlank ++
      quote :: (specifier ++ quote :: (tail ++ lineRest behind)))) := by
    rw [← htail, ← hs, List.takeWhile_append_dropWhile,
      importWord, ← Text.after?_eq_some_iff.1 hword,
      List.takeWhile_append_dropWhile]
  rw [hcut]
  exact .intro (fun c hc => List.mem_takeWhile_imp hc) (fun c hc => List.mem_takeWhile_imp hc)
    hquote hne hspecifier hline

theorem isClauseChar_of_mem_line {indent gap : Text}
    (hindent : ∀ c ∈ indent, Text.isIndent c = true) (hgap : IsSpace gap) :
    ∀ c ∈ indent ++ (importWord ++ gap), isClauseChar c = true := by
  have hword : ∀ c ∈ importWord, isClauseChar c = true := by decide +kernel
  intro c hc
  rcases List.mem_append.1 hc with hc | hc
  · exact isClauseChar_of_isBlank (Text.isBlank_of_isIndent (hindent c hc))
  rcases List.mem_append.1 hc with hc | hc
  · exact hword c hc
  · exact isClauseChar_of_isBlank (hgap c hc)

/-! ## Line starts -/

/-- Whether a new line starts behind a text, where one starts in front of
it if `lineStart` holds. -/
def endsLine (lineStart : Bool) (u : Text) : Bool :=
  u.getLast?.elim lineStart (· = '\n')

theorem endsLine_cons (lineStart : Bool) (c : Char) (u : Text) :
    endsLine lineStart (c :: u) = endsLine (c = '\n') u := by
  rw [endsLine, endsLine, List.getLast?_cons]
  cases u.getLast? <;> rfl

theorem endsLine_of_not_mem {u : Text} (h : '\n' ∉ u) : endsLine false u = false := by
  rw [endsLine]
  cases hlast : u.getLast? with
  | none => rfl
  | some c =>
    refine decide_eq_false ?_
    rintro rfl
    exact h (List.mem_of_getLast? hlast)

theorem endsLine_append (lineStart : Bool) (u v : Text) :
    endsLine lineStart (u ++ v) = endsLine (endsLine lineStart u) v := by
  rw [endsLine, endsLine, endsLine, List.getLast?_append]
  cases v.getLast? <;> rfl

/-- No import stands at the start of a line of `u`, where `t` follows. -/
def Quiet (lineStart : Bool) : Text → Text → Prop
  | [], _ => True
  | c :: u, t =>
    (lineStart = true → sideEffectImport? (c :: (u ++ t)) = none) ∧ Quiet (c = '\n') u t

theorem Quiet.append {lineStart : Bool} {u v t : Text} (hu : Quiet lineStart u (v ++ t))
    (hv : Quiet (endsLine lineStart u) v t) : Quiet lineStart (u ++ v) t := by
  induction u generalizing lineStart with
  | nil => exact hv
  | cons c u ih =>
    rw [endsLine_cons] at hv
    refine ⟨fun hstart => ?_, ih hu.2 hv⟩
    rw [List.append_eq, List.append_assoc]
    exact hu.1 hstart

/-- In a line no other one starts. -/
theorem quiet_of_not_mem {u : Text} (h : '\n' ∉ u) (t : Text) : Quiet false u t := by
  induction u with
  | nil => trivial
  | cons c u ih =>
    have hc : decide (c = '\n') = false := decide_eq_false fun hc => h (by simp [hc])
    exact ⟨nofun, by rw [hc]; exact ih fun hmem => h (List.mem_cons_of_mem c hmem)⟩

theorem sideEffectImport?_eq_none {s : Text} (h : (s.dropWhile Text.isIndent).head? ≠ some 'i') :
    sideEffectImport? s = none := by
  rw [sideEffectImport?]
  cases hafter : Text.after? "import".toList (s.dropWhile Text.isIndent) with
  | none => rfl
  | some rest =>
    rw [Text.after?_eq_some_iff.1 hafter] at h
    exact absurd rfl h

theorem sideEffectImport?_space {gap : Text} (hgap : IsSpace gap) {quote : Char}
    (hquote : IsQuote quote) (t : Text) :
    sideEffectImport? (gap ++ quote :: t) = none := by
  have hindent : Text.isIndent quote = false := hquote.not_isIndent
  have hne : quote ≠ 'i' := by
    rcases hquote with h | h <;> rw [h] <;> decide
  refine sideEffectImport?_eq_none ?_
  -- the gap may hold a line end, where the indent ends without the word
  induction gap with
  | nil =>
    rw [List.nil_append, List.dropWhile_cons_of_neg (by simp [hindent])]
    simpa using hne
  | cons c gap ih =>
    rw [List.cons_append]
    cases hc : Text.isIndent c with
    | true =>
      rw [List.dropWhile_cons_of_pos hc]
      exact ih fun d hd => hgap d (List.mem_cons_of_mem c hd)
    | false =>
      have hi : c ≠ 'i' := ne_of_isBlank (hgap c List.mem_cons_self) (by decide)
      rw [List.dropWhile_cons_of_neg (by simp [hc])]
      simpa using hi

/-- Lines that hold nothing but white space in front of a quote hold no import. -/
theorem quiet_space {gap : Text} (hgap : IsSpace gap) {quote : Char} (hquote : IsQuote quote)
    (t : Text) (lineStart : Bool) : Quiet lineStart (gap ++ [quote]) t := by
  induction gap generalizing lineStart with
  | nil => exact ⟨fun _ => sideEffectImport?_space hgap hquote t, trivial⟩
  | cons c gap ih =>
    refine ⟨fun _ => ?_, ih (fun d hd => hgap d (List.mem_cons_of_mem c hd)) _⟩
    have hnone := sideEffectImport?_space hgap hquote t
    simpa using hnone

theorem quiet_lineTail {tail : Text} (h : LineTail tail) (t : Text) : Quiet false tail t := by
  cases h with
  | @intro front lineEnd hfront hmem =>
    have hno : '\n' ∉ front := by
      intro hmem
      rcases hfront _ hmem with h | h
      · exact absurd h (by decide)
      · cases h
    have hend : endsLine false front = false := endsLine_of_not_mem hno
    refine (quiet_of_not_mem hno _).append ?_
    rw [hend]
    simp only [List.mem_cons, List.not_mem_nil, or_false] at hmem
    rcases hmem with rfl | rfl | rfl
    · trivial
    · exact ⟨nofun, trivial⟩
    · exact ⟨nofun, nofun, trivial⟩

/-- **No import starts inside of another one.** -/
theorem SideEffect.exists_text {line specifier rest : Text} (h : SideEffect line specifier rest) :
    ∃ c u, line = c :: (u ++ rest) ∧ Quiet (c = '\n') u rest := by
  cases h with
  | @intro indent gap specifier tail rest quote hindent hgap hquote _ hspecifier htail =>
    have hindentLine : '\n' ∉ indent := fun hmem => absurd (hindent _ hmem) (by decide)
    have hword : '\n' ∉ importWord := by decide
    have hspecifierLine : '\n' ∉ specifier := fun hmem => absurd (hspecifier _ hmem) (by decide)
    have hquoteLine : '\n' ≠ quote := by
      rintro rfl
      rcases hquote with h | h <;> cases h
    have hbody : '\n' ∉ specifier ++ [quote] := by
      simp [hspecifierLine, hquoteLine]
    -- the first quote ends the only part of an import that may run over several lines
    have hquiet : Quiet false (indent ++ (importWord ++ ((gap ++ [quote]) ++
        ((specifier ++ [quote]) ++ tail)))) rest := by
      refine (quiet_of_not_mem hindentLine _).append ?_
      rw [endsLine_of_not_mem hindentLine]
      refine (quiet_of_not_mem hword _).append ((quiet_space hgap hquote _ _).append ?_)
      have hopen (lineStart : Bool) : endsLine lineStart (gap ++ [quote]) = false := by
        simp [endsLine, Ne.symm hquoteLine]
      rw [hopen]
      refine (quiet_of_not_mem hbody _).append ?_
      rw [endsLine_of_not_mem hbody]
      exact quiet_lineTail htail rest
    obtain ⟨c, u, hcut⟩ : ∃ c u,
        indent ++ (importWord ++ ((gap ++ [quote]) ++ ((specifier ++ [quote]) ++ tail))) = c :: u :=
      List.exists_cons_of_ne_nil (by simp [importWord])
    rw [hcut] at hquiet
    refine ⟨c, u, ?_, hquiet.2⟩
    have hwhole := congrArg (· ++ rest) hcut
    simpa using hwhole

theorem SideEffect.quiet {c : Char} {u rest specifier : Text}
    (h : SideEffect (c :: (u ++ rest)) specifier rest) :
    Quiet (c = '\n') u rest := by
  obtain ⟨d, v, hline, hquiet⟩ := h.exists_text
  obtain ⟨rfl, htext⟩ := List.cons.inj hline
  rwa [List.append_cancel_right htext]

/-! ## What is left of a script -/

section

variable {linked : Linked}

/-- Whether an import that can be dropped stands at the start of a text. -/
def Drops (linked : Linked) (s : Text) : Prop :=
  ∃ specifier rest, sideEffectImport? s = some (specifier, rest) ∧ linked.drops specifier = true

/-- A script from an offset on, what is left of it, and what is dropped. -/
inductive Sheds (linked : Linked) : Bool → Nat → Text → Text → List Found → Prop where
  | nil {lineStart : Bool} {offset : Nat} : Sheds linked lineStart offset [] [] []
  | keep {lineStart : Bool} {offset : Nat} {c : Char} {s left : Text} {found : List Found} :
      (lineStart = true → ¬ Drops linked (c :: s)) →
      Sheds linked (c = '\n') (offset + 1) s left found →
        Sheds linked lineStart offset (c :: s) (c :: left) found
  | lose {offset : Nat} {c : Char} {u rest specifier left : Text} {found : List Found} :
      sideEffectImport? (c :: (u ++ rest)) = some (specifier, rest) →
      linked.drops specifier = true →
      Sheds linked (endsLine (c = '\n') u) (offset + 1 + u.length) rest left found →
        Sheds linked true offset (c :: (u ++ rest)) left (⟨offset, specifier⟩ :: found)

theorem Sheds.quiet {lineStart : Bool} {offset : Nat} {u t left : Text} {found : List Found}
    (hu : Quiet lineStart u t)
    (h : Sheds linked (endsLine lineStart u) (offset + u.length) t left found) :
    Sheds linked lineStart offset (u ++ t) (u ++ left) found := by
  induction u generalizing lineStart offset with
  | nil => exact h
  | cons c u ih =>
    rw [endsLine_cons, List.length_cons, Nat.add_comm u.length, ← Nat.add_assoc] at h
    refine .keep (fun hstart hdrops => ?_) (ih hu.2 h)
    obtain ⟨specifier, rest, hread, -⟩ := hdrops
    rw [List.append_eq, hu.1 hstart] at hread
    cases hread

/-- **A script sheds in one way only.** -/
theorem Sheds.unique {lineStart : Bool} {offset : Nat} {s left left' : Text}
    {found found' : List Found} (h : Sheds linked lineStart offset s left found)
    (h' : Sheds linked lineStart offset s left' found') :
    left = left' ∧ found = found' := by
  -- the second script is named apart, for its form has to come from its own last step
  induction h generalizing left' found' with
  | nil =>
    cases h'
    exact ⟨rfl, rfl⟩
  | @keep lineStart offset c s left found hkeep _ ih =>
    generalize hs : c :: s = s' at h'
    cases h' with
    | nil => cases hs
    | keep _ h' =>
      cases hs
      obtain ⟨rfl, rfl⟩ := ih h'
      exact ⟨rfl, rfl⟩
    | lose hread hdrops _ =>
      rw [hs] at hkeep
      exact (hkeep rfl ⟨_, _, hread, hdrops⟩).elim
  | @lose offset c u rest specifier left found hread hdrops _ ih =>
    generalize hs : c :: (u ++ rest) = s' at h'
    cases h' with
    | nil => cases hs
    | keep hkeep _ =>
      rw [← hs] at hkeep
      exact (hkeep rfl ⟨_, _, hread, hdrops⟩).elim
    | lose hread' _ h' =>
      rw [hs, hread'] at hread
      cases hread
      obtain ⟨rfl, htext⟩ := List.cons.inj hs
      obtain rfl := List.append_cancel_right htext
      obtain ⟨rfl, rfl⟩ := ih h'
      exact ⟨rfl, rfl⟩

theorem dropFrom_skip (linked : Linked) (lineStart : Bool) (u t : Text) :
    dropFrom linked u.length true lineStart (u ++ t) =
      u ++ dropFrom linked 0 true (endsLine lineStart u) t ∧
    dropFrom linked u.length false lineStart (u ++ t) =
      dropFrom linked 0 true (endsLine lineStart u) t := by
  induction u generalizing lineStart with
  | nil =>
    refine ⟨rfl, ?_⟩
    cases t with
    | nil => rfl
    | cons c t => rw [List.nil_append, dropFrom, dropFrom]; rfl
  | cons c u ih =>
    obtain ⟨hkeep, hlose⟩ := ih (c = '\n')
    rw [List.cons_append, List.length_cons, dropFrom, dropFrom, endsLine_cons]
    simp only [Nat.succ_pos, if_true, Nat.add_sub_cancel, hkeep, hlose, Bool.false_eq_true,
      if_false, List.cons_append, and_self]

theorem droppedFrom_skip (linked : Linked) (lineStart : Bool) (offset : Nat) (u t : Text) :
    droppedFrom linked u.length lineStart offset (u ++ t) =
      droppedFrom linked 0 (endsLine lineStart u) (offset + u.length) t := by
  induction u generalizing lineStart offset with
  | nil => rfl
  | cons c u ih =>
    rw [List.cons_append, List.length_cons, droppedFrom, endsLine_cons]
    simp only [Nat.succ_pos, if_true, Nat.add_sub_cancel, ih]
    rw [Nat.add_assoc, Nat.add_comm 1]

/-- **A script sheds what is dropped from it.** -/
theorem sheds_dropFrom (linked : Linked) (lineStart : Bool) (offset : Nat) (s : Text) :
    Sheds linked lineStart offset s (dropFrom linked 0 true lineStart s)
      (droppedFrom linked 0 lineStart offset s) := by
  induction hn : s.length using Nat.strong_induction_on generalizing lineStart offset s with
  | h n ih =>
    cases s with
    | nil => exact .nil
    | cons c s =>
      rw [dropFrom, droppedFrom]
      simp only [Nat.lt_irrefl, if_false]
      cases hread : (if lineStart = true then sideEffectImport? (c :: s) else none) with
      | none =>
        refine .keep (fun hstart hdrops => ?_) (ih s.length (by simp at hn; omega) _ _ s rfl)
        obtain ⟨specifier, rest, hread', -⟩ := hdrops
        rw [if_pos hstart, hread'] at hread
        cases hread
      | some read =>
        obtain ⟨specifier, rest⟩ := read
        obtain rfl : lineStart = true := by
          by_contra hstart
          rw [if_neg hstart] at hread
          cases hread
        rw [if_pos rfl] at hread
        obtain ⟨d, u, hline, hquiet⟩ := (of_sideEffectImport? hread).exists_text
        obtain ⟨rfl, rfl⟩ := List.cons.inj hline
        have hskip : (u ++ rest).length - rest.length = u.length := by
          rw [List.length_append, Nat.add_sub_cancel]
        have hrest (offset : Nat) :=
          ih rest.length (by simp at hn; omega) (endsLine (c = '\n') u) offset rest rfl
        obtain ⟨hkeep, hlose⟩ := dropFrom_skip linked (c = '\n') u rest
        dsimp only
        rw [hskip, droppedFrom_skip]
        cases hdrops : linked.drops specifier with
        | true =>
          rw [if_pos rfl, if_pos rfl, hlose]
          exact .lose hread hdrops (hrest _)
        | false =>
          rw [if_neg Bool.false_ne_true, if_neg Bool.false_ne_true, hkeep]
          -- the program passes over the import that it keeps, `Sheds` goes through it
          refine .keep (fun _ hdropped => ?_) (.quiet hquiet (hrest _))
          obtain ⟨specifier', rest', hread', hdrops'⟩ := hdropped
          rw [hread] at hread'
          cases hread'
          rw [hdrops] at hdrops'
          cases hdrops'

end

end Script
end SiteOptimizer
