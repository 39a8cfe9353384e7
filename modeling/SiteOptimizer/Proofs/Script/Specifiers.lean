import SiteOptimizer.Proofs.Script.Search

/-!
# The specifiers of a script, piece by piece

The specifiers of a script are the ones of the statements that are found in it outside of literals,
in the order of the statements. An import and an export are never found at one place, so their
order is only one (`eq_of_offset_eq`). Where no statement that is found in the first piece of a
script reaches beyond it, the specifiers of the script are the ones of this piece and the ones of
the rest (`specifiersIn_append`).
-/

namespace SiteOptimizer
namespace Script

/-! ## Statements among segments -/

/-- What is left of segments once comments are gone. -/
def strippedText (found : List Segment) : Text :=
  found.flatMap Segment.stripped

theorem strippedText_append (a b : List Segment) :
    strippedText (a ++ b) = strippedText a ++ strippedText b :=
  List.flatMap_append

/-- The statements of both sorts that are found among segments. -/
def allFound (found : List Segment) : List Found :=
  statements importStatement? (strippedText found) ++ statements exportStatement?
    (strippedText found)

/-- The statements that start outside of literals. -/
def outside (found : List Segment) (statements : List Found) : List Found :=
  statements.filter fun f => !literalAt found f.offset

theorem mem_of_mem_outside {found : List Segment} {statements : List Found} {f : Found}
    (h : f ∈ outside found statements) : f ∈ statements :=
  (List.mem_filter.1 h).1

/-- Statements in the order in which they start. -/
def inOrder (statements : List Found) : List Found :=
  statements.mergeSort fun a b => a.offset ≤ b.offset

/-- The specifiers that are found among segments. -/
def specifiersIn (found : List Segment) : List Text :=
  (inOrder (outside found (allFound found))).map (·.specifier)

theorem specifiers_eq (code : Text) : specifiers code = specifiersIn (segments code) := by
  rw [specifiers, specifiersIn, inOrder, outside]
  simp only [inLiteral_eq]
  rfl

/-! ## Order -/

theorem not_import_and_export {s : Text} {found found' : Text × Text}
    (himport : importStatement? s = some found)
    (hexport : exportStatement? s = some found') : False := by
  obtain ⟨r, hr, -⟩ := Option.bind_eq_some_iff.1 himport
  obtain ⟨r', hr', -⟩ := Option.bind_eq_some_iff.1 hexport
  rw [Text.after?_eq_some_iff] at hr hr'
  have hhead := (List.cons.inj (hr.symm.trans hr')).1
  exact absurd hhead (by decide)

/-- **There is one statement at a place at most.** -/
theorem eq_of_offset_eq {found : List Segment} {f g : Found} (hf : f ∈ allFound found)
    (hg : g ∈ allFound found) (h : f.offset = g.offset) : f = g := by
  have hread {statement? : Text → Option (Text × Text)} {f : Found}
      (hf : f ∈ statements statement? (strippedText found)) :
      ∃ rest, statement? ((strippedText found).drop f.offset) = some (f.specifier, rest) := by
    simpa using exists_of_mem_occurrences hf
  have hsame {statement? : Text → Option (Text × Text)}
    (hf : f ∈ statements statement? (strippedText found))
      (hg : g ∈ statements statement? (strippedText found)) : f = g := by
    obtain ⟨rest, hf⟩ := hread hf
    obtain ⟨rest', hg⟩ := hread hg
    rw [h, hg] at hf
    obtain ⟨offset, specifier⟩ := f
    obtain ⟨offset', specifier'⟩ := g
    simp_all
  -- an import and an export cannot start at one place, as their first words differ
  rcases List.mem_append.1 hf with hf | hf <;> rcases List.mem_append.1 hg with hg | hg
  · exact hsame hf hg
  · obtain ⟨rest, hf⟩ := hread hf
    obtain ⟨rest', hg⟩ := hread hg
    exact (not_import_and_export hf (h ▸ hg)).elim
  · obtain ⟨rest, hf⟩ := hread hf
    obtain ⟨rest', hg⟩ := hread hg
    exact (not_import_and_export hg (h ▸ hf)).elim
  · exact hsame hf hg

theorem pairwise_inOrder (found : List Found) :
    (inOrder found).Pairwise fun f g => decide (f.offset ≤ g.offset) = true := by
  refine List.pairwise_mergeSort (fun a b c hab hbc => ?_) (fun a b => ?_) found
  · simp only [decide_eq_true_eq] at *
    exact Nat.le_trans hab hbc
  · simp only [Bool.or_eq_true, decide_eq_true_eq]
    exact Nat.le_total a.offset b.offset

/-- Statements are found in the order in which they start. -/
theorem pairwise_occurrences (statement? : Text → Option (Text × Text)) (skip : Nat)
    (before : Option Char) (offset : Nat) (s : Text) :
    (occurrences statement? skip before offset s).Pairwise fun f g =>
      decide (f.offset ≤ g.offset) = true := by
  fun_induction occurrences statement? skip before offset s with
  | case1 => exact .nil
  | case2 _ _ _ _ _ _ _ ih => exact ih _
  | case3 _ _ _ _ _ _ _ _ ih => exact ih _
  | case4 skip before offset c s searchOn _ _ specifier rest _ ih =>
    refine .cons (fun f hf => decide_eq_true ?_) (ih _)
    have hbounds := offset_of_mem_occurrences hf
    dsimp only
    omega
  | case5 _ _ _ _ _ _ _ _ _ ih => exact ih _

/-- Statements of which some stand in front of the others are ordered one part after the other. -/
theorem inOrder_append {l a b : List Found} (hperm : l.Perm (a ++ b))
    (hlt : ∀ f ∈ a, ∀ g ∈ b, f.offset < g.offset)
    (hplace : ∀ f ∈ l, ∀ g ∈ l, f.offset = g.offset → f = g) :
    inOrder l = inOrder a ++ inOrder b := by
  -- a list that is in order is known by its members, as no two of them start at one place
  have hsame (l : List Found) : (inOrder l).Perm l := List.mergeSort_perm _ _
  have hboth : (inOrder a ++ inOrder b).Perm l := ((hsame a).append (hsame b)).trans hperm.symm
  refine List.Perm.eq_of_pairwise (fun f g hf hg hfg hgf => ?_) (pairwise_inOrder l) ?_
    ((hsame l).trans hboth.symm)
  · simp only [decide_eq_true_eq] at hfg hgf
    exact hplace f ((hsame l).mem_iff.1 hf) g (hboth.mem_iff.1 hg) (Nat.le_antisymm hfg hgf)
  · refine List.pairwise_append.2 ⟨pairwise_inOrder a, pairwise_inOrder b, fun f hf g hg => ?_⟩
    exact decide_eq_true (Nat.le_of_lt (hlt f ((hsame a).mem_iff.1 hf) g ((hsame b).mem_iff.1 hg)))

/-! ## A piece and the rest -/

section

variable {a b : List Segment} {imports exports : List Found}

theorem outside_shift (a b : List Segment) (found : List Found) :
    outside (a ++ b) (found.map (Found.shift (strippedText a).length)) =
      (outside b found).map (Found.shift (strippedText a).length) := by
  rw [outside, outside, List.filter_map]
  refine congrArg (List.map _) (List.filter_congr fun f _ => ?_)
  exact congrArg not (literalAt_append a b f.offset)

theorem specifiers_inOrder_shift (k : Nat) (found : List Found) :
    (inOrder (found.map (Found.shift k))).map (·.specifier) =
      (inOrder found).map (·.specifier) := by
  have horder : ∀ f g : Found, decide (f.offset ≤ g.offset) =
      decide ((f.shift k).offset ≤ (g.shift k).offset) := by
    intro f g
    simp [Found.shift]
  rw [inOrder, ← List.map_mergeSort fun f _ g _ => horder f g, List.map_map]
  rfl

/-- **What is found in a piece stands in front of what is found in the rest.** -/
theorem specifiersIn_append
    (himports : Yields importStatement? (strippedText a) (strippedText b) imports)
    (hexports : Yields exportStatement? (strippedText a) (strippedText b) exports)
    (hwithin : ∀ f ∈ imports ++ exports, f.offset < (strippedText a).length) :
    specifiersIn (a ++ b) =
      (inOrder (outside (a ++ b) (imports ++ exports))).map (·.specifier) ++ specifiersIn b := by
  have hsplit {statement? : Text → Option (Text × Text)} {found : List Found}
      (h : Yields statement? (strippedText a) (strippedText b) found) :
      statements statement? (strippedText (a ++ b)) =
        found ++ (statements statement? (strippedText b)).map
          (Found.shift (strippedText a).length) := by
    rw [statements, strippedText_append, h none rfl]
    exact congrArg _ (occurrences_add (strippedText a).length 0 none 0 (strippedText b))
  -- imports and exports are searched apart, so the pieces come one behind the
  -- other only when they are sorted
  have hall : (allFound (a ++ b)).Perm
      ((imports ++ exports) ++ (allFound b).map (Found.shift (strippedText a).length)) := by
    rw [allFound, hsplit himports, hsplit hexports, allFound, List.map_append,
      List.append_assoc, List.append_assoc]
    exact (List.perm_append_comm_assoc _ _ _).append_left imports
  have houtside : (outside (a ++ b) (allFound (a ++ b))).Perm
      (outside (a ++ b) (imports ++ exports) ++ outside (a ++ b)
          ((allFound b).map (Found.shift (strippedText a).length))) := by
    rw [outside, outside, outside, ← List.filter_append]
    exact hall.filter _
  have hplace : ∀ f ∈ outside (a ++ b) (allFound (a ++ b)),
      ∀ g ∈ outside (a ++ b) (allFound (a ++ b)), f.offset = g.offset → f = g := fun f hf g hg =>
    eq_of_offset_eq (mem_of_mem_outside hf) (mem_of_mem_outside hg)
  have hlt : ∀ f ∈ outside (a ++ b) (imports ++ exports),
      ∀ g ∈ outside (a ++ b) ((allFound b).map (Found.shift (strippedText a).length)),
      f.offset < g.offset := by
    intro f hf g hg
    obtain ⟨g, -, rfl⟩ := List.mem_map.1 (mem_of_mem_outside hg)
    exact Nat.lt_of_lt_of_le (hwithin f (mem_of_mem_outside hf)) (Nat.le_add_right _ _)
  rw [specifiersIn, inOrder_append houtside hlt hplace, List.map_append, outside_shift,
    specifiers_inOrder_shift]
  rfl

/-- A piece in which all statements have one specifier. -/
theorem specifiersIn_append_of_same
    (himports : Yields importStatement? (strippedText a) (strippedText b) imports)
    (hexports : Yields exportStatement? (strippedText a) (strippedText b) exports)
    {specifier : Text}
    (hfound : ∀ f ∈ imports ++ exports, f.offset < (strippedText a).length ∧
      literalAt (a ++ b) f.offset = false ∧ f.specifier = specifier) :
    specifiersIn (a ++ b) = List.replicate (imports ++ exports).length specifier ++
      specifiersIn b := by
  have houtside : outside (a ++ b) (imports ++ exports) = imports ++ exports := by
    refine List.filter_eq_self.2 fun f hf => ?_
    rw [(hfound f hf).2.1]
    rfl
  rw [specifiersIn_append himports hexports fun f hf => (hfound f hf).1, houtside]
  refine congrArg (· ++ specifiersIn b)
    (List.eq_replicate_iff.2 ⟨by simp [inOrder], fun s hs => ?_⟩)
  obtain ⟨f, hf, rfl⟩ := List.mem_map.1 hs
  exact (hfound f ((List.mergeSort_perm _ _).mem_iff.1 hf)).2.2

end

end Script
end SiteOptimizer
