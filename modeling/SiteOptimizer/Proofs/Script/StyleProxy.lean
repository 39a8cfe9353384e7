import Mathlib.Data.List.TakeDrop
import SiteOptimizer.Script.StyleProxy

/-!
# Which imports a script loses

`dropped` lists the imports that are dropped from a script, each with the offset at which it
starts. A script that loses none stays as it is. Where the linked stylesheets are given by a list,
a dropped import leads to the proxy of one of them.
-/

namespace SiteOptimizer
namespace Script

/-- The imports that `dropFrom` leaves out; `offset` counts the characters in front of the text. -/
def droppedFrom (linked : Linked) (skip : Nat) (lineStart : Bool) (offset : Nat) : Text → List Found
  | [] => []
  | c :: s =>
    let goOn (skip : Nat) := droppedFrom linked skip (c = '\n') (offset + 1) s
    if 0 < skip then goOn (skip - 1)
    else
      match if lineStart then sideEffectImport? (c :: s) else none with
      | some (specifier, rest) =>
        let skip := s.length - rest.length
        if linked.drops specifier then ⟨offset, specifier⟩ :: goOn skip else goOn skip
      | none => goOn 0

/-- The imports that are dropped from a script. -/
def dropped (linked : Linked) (code : Text) : List Found :=
  droppedFrom linked 0 true 0 code

/-! ## Imports at the start of a text -/

theorem suffix_of_specifier? {s specifier rest : Text}
    (h : specifier? s = some (specifier, rest)) : rest <:+ s := by
  unfold specifier? at h
  split at h
  · cases h
  · next quote s =>
    split at h
    · split at h
      · next c found close rest' heq =>
        split at h
        · cases h
          have hspan : s = (c :: found) ++ close :: rest := by
            rw [← List.takeWhile_append_dropWhile (p := isSpecifierChar) (l := s)]
            rw [List.span_eq_takeWhile_dropWhile] at heq
            rw [(Prod.mk.inj heq).1, (Prod.mk.inj heq).2]
          exact ⟨quote :: (c :: found) ++ [close], by rw [hspan]; simp⟩
        · cases h
      · cases h
    · cases h

theorem lineRest_suffix (s : Text) : lineRest s <:+ s := by
  have hsemicolon : ∀ s : Text, (Text.after? [';'] s).getD s <:+ s := by
    intro s
    cases hafter : Text.after? [';'] s with
    | none => exact List.suffix_refl s
    | some rest => exact ⟨[';'], (Text.after?_eq_some_iff.1 hafter).symm⟩
  have hfront : ((Text.after? [';'] (s.dropWhile Text.isIndent)).getD
    (s.dropWhile Text.isIndent)).dropWhile Text.isIndent <:+ s :=
    (List.dropWhile_suffix _).trans ((hsemicolon _).trans (List.dropWhile_suffix _))
  unfold lineRest
  dsimp only
  split
  · next heq => exact (List.suffix_cons _ _).trans (heq ▸ hfront)
  · next heq => exact ((List.suffix_cons _ _).trans (List.suffix_cons _ _)).trans (heq ▸ hfront)
  · exact hfront

/-- An import for its effect is its word, its specifier and the rest of its line. -/
theorem parts_of_sideEffectImport? {line specifier rest : Text}
    (h : sideEffectImport? line = some (specifier, rest)) :
    ∃ s behind, Text.after? "import".toList (line.dropWhile Text.isIndent) = some s ∧
      specifier? (s.dropWhile Text.isBlank) = some (specifier, behind) ∧
      lineRest behind = rest := by
  unfold sideEffectImport? at h
  obtain ⟨s, hword, h⟩ := Option.bind_eq_some_iff.1 h
  obtain ⟨⟨found, behind⟩, hfound, hrest⟩ := Option.map_eq_some_iff.1 h
  cases hrest
  exact ⟨s, behind, hword, hfound, rfl⟩

/-- An import covers some of the text, and what follows it is the rest. -/
theorem exists_of_sideEffectImport? {line specifier rest : Text}
    (h : sideEffectImport? line = some (specifier, rest)) :
    ∃ text, text ≠ [] ∧ line = text ++ rest := by
  obtain ⟨s, behind, hword, hfound, rfl⟩ := parts_of_sideEffectImport? h
  have hbehind : lineRest behind <:+ s :=
    (lineRest_suffix behind).trans ((suffix_of_specifier? hfound).trans (List.dropWhile_suffix _))
  obtain ⟨before, hbefore⟩ := hbehind
  obtain ⟨indent, hindent⟩ := List.dropWhile_suffix (l := line) Text.isIndent
  refine ⟨indent ++ "import".toList ++ before, by simp, ?_⟩
  rw [← hindent, Text.after?_eq_some_iff.1 hword, ← hbefore]
  simp only [List.append_assoc]

/-! ## What a script loses -/

variable {linked : Linked}

/-- A script, what is left of it, and the specifiers of the imports that it
loses, each with its whole text. -/
inductive Loses (linked : Linked) : Text → Text → List Text → Prop where
  | nil : Loses linked [] [] []
  | keep (c : Char) {code rest : Text} {specifiers : List Text} :
      Loses linked code rest specifiers → Loses linked (c :: code) (c :: rest) specifiers
  | lose {text code rest specifier : Text} {specifiers : List Text} : text ≠ [] →
      sideEffectImport? (text ++ code) = some (specifier, code) → linked.drops specifier = true →
      Loses linked code rest specifiers → Loses linked (text ++ code) rest (specifier :: specifiers)

theorem loses_dropFrom (skip : Nat) (lineStart : Bool) (offset : Nat) (s : Text) :
    Loses linked s (dropFrom linked skip true lineStart s)
        ((droppedFrom linked skip lineStart offset s).map (·.specifier)) ∧
      Loses linked (s.drop skip) (dropFrom linked skip false lineStart s)
        ((droppedFrom linked skip lineStart offset s).map (·.specifier)) := by
  -- An import is passed over character by character, be it kept or left out: the first
  -- part of the statement is about the characters of one that is kept, the second about
  -- those of one that is left out.
  induction s generalizing skip lineStart offset with
  | nil => exact ⟨.nil, by rw [List.drop_nil]; exact .nil⟩
  | cons c s ih =>
    unfold dropFrom droppedFrom
    dsimp only
    by_cases hskip : 0 < skip
    · obtain ⟨n, rfl⟩ := Nat.exists_eq_succ_of_ne_zero (Nat.ne_of_gt hskip)
      rw [if_pos hskip, if_pos hskip, if_pos hskip, if_pos rfl, if_neg Bool.false_ne_true]
      obtain ⟨hkeep, hlose⟩ := ih n (c = '\n') (offset + 1)
      exact ⟨.keep c hkeep, hlose⟩
    · obtain rfl : skip = 0 := Nat.eq_zero_of_not_pos hskip
      rw [if_neg hskip, if_neg hskip, if_neg hskip, List.drop_zero, and_self]
      cases himport : (if lineStart = true then sideEffectImport? (c :: s) else none) with
      | none => exact .keep c (ih 0 (c = '\n') (offset + 1)).1
      | some found =>
        obtain ⟨specifier, rest⟩ := found
        dsimp only
        obtain ⟨hkeep, hlose⟩ := ih (s.length - rest.length) (c = '\n') (offset + 1)
        cases hdrops : linked.drops specifier with
        | false => exact .keep c hkeep
        | true =>
          have himport : sideEffectImport? (c :: s) = some (specifier, rest) := by
            cases lineStart with
            | true => exact himport
            | false => cases himport
          obtain ⟨text, htext, hline⟩ := exists_of_sideEffectImport? himport
          -- what is skipped is the import without its first character, which is read here
          have hskipped : s.drop (s.length - rest.length) = rest := by
            obtain ⟨d, text, rfl⟩ := List.exists_cons_of_ne_nil htext
            rw [(List.cons.inj hline).2, List.append_eq, List.length_append,
              Nat.add_sub_cancel, List.drop_left]
          rw [hskipped] at hlose
          rw [hline] at himport ⊢
          exact .lose htext himport hdrops hlose

/-- **What `dropped` lists is what a script loses**: the script is what is left of it and the texts
of these imports, in their places. -/
theorem loses_dropped (linked : Linked) (code : Text) :
    Loses linked code (dropStyleImports linked code) ((dropped linked code).map (·.specifier)) :=
  (loses_dropFrom 0 true 0 code).1

theorem Loses.drops {code rest specifier : Text} {specifiers : List Text}
    (h : Loses linked code rest specifiers) (hs : specifier ∈ specifiers) :
    linked.drops specifier = true := by
  induction h with
  | nil => cases hs
  | keep c _ ih => exact ih hs
  | lose _ _ hdrops _ ih =>
    rcases List.mem_cons.1 hs with rfl | hs
    · exact hdrops
    · exact ih hs

theorem Loses.length_le {code rest : Text} {specifiers : List Text}
    (h : Loses linked code rest specifiers) :
    rest.length + specifiers.length ≤ code.length := by
  induction h with
  | nil => exact Nat.le_refl 0
  | keep c _ ih =>
    rw [List.length_cons, List.length_cons]
    omega
  | lose htext _ _ _ ih =>
    have hpos := List.length_pos_iff.2 htext
    rw [List.length_append, List.length_cons]
    omega

theorem Loses.eq_self {code rest : Text} (h : Loses linked code rest []) : rest = code := by
  generalize hs : ([] : List Text) = specifiers at h
  induction h with
  | nil => rfl
  | keep c _ ih => rw [ih hs]
  | lose => cases hs

/-- **Only imports that can be dropped are dropped.** -/
theorem drops_of_mem_dropped {code : Text} {found : Found} (h : found ∈ dropped linked code) :
    linked.drops found.specifier = true :=
  (loses_dropped linked code).drops (List.mem_map_of_mem h)

/-- **A script stays as it is just if it loses no import.** -/
theorem dropStyleImports_eq_self_iff (linked : Linked) (code : Text) :
    dropStyleImports linked code = code ↔ dropped linked code = [] := by
  have hloses := loses_dropped linked code
  constructor
  · intro hsame
    have hlength := hloses.length_le
    rw [hsame, List.length_map] at hlength
    exact List.length_eq_zero_iff.1 (by omega)
  · intro hnil
    rw [hnil] at hloses
    exact hloses.eq_self

/-- A plain proxy is named after a stylesheet. -/
theorem of_styleSource? {path source : Path} (h : styleSource? path = some source) :
    path = source ++ proxySuffix ∧ ∃ name, source = name ++ ".css".toList := by
  unfold styleSource? at h
  split at h
  · next hplain =>
    obtain ⟨hproxy, -⟩ := Bool.and_eq_true_iff.1 hplain
    obtain ⟨name, rfl⟩ := List.isSuffixOf_iff_suffix.1 hproxy
    have hcut : name ++ styleProxySuffix = (name ++ ".css".toList) ++ proxySuffix :=
      (List.append_assoc ..).symm
    rw [hcut] at h ⊢
    unfold Text.before? at h
    split at h
    · cases h
      rw [List.length_append, Nat.add_sub_cancel, List.take_left]
      exact ⟨rfl, name, rfl⟩
    · cases h
  · cases h

/-- **An import is dropped for the proxy of a listed stylesheet.** -/
theorem drops_listed {sources : List Path} {path root : Path} {specifier : Text}
    (h : (Linked.listed sources path root).drops specifier = true) :
    ∃ target source, Reference.resolve? specifier path root = some target ∧
      styleSource? target = some source ∧ source ∈ sources := by
  obtain ⟨-, h⟩ := Bool.and_eq_true_iff.1 h
  obtain ⟨source, hsource, hin⟩ := (Option.any_eq_true _ _).1 h
  obtain ⟨target, htarget, hsource⟩ := Option.bind_eq_some_iff.1 hsource
  exact ⟨target, source, htarget, hsource, List.contains_iff_mem.1 hin⟩

end Script
end SiteOptimizer
