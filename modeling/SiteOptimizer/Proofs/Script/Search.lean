import SiteOptimizer.Proofs.Script.Segments
import SiteOptimizer.Proofs.Script.Statements

/-!
# Where the search for statements finds nothing

The search goes through a script character by character, so what it makes of a script can be said
piece by piece, each with all that follows it. `Silent` says of a piece that no statement starts in
it; it holds of white space, of marks, and of whole words that start no statement, since no
statement starts inside a word. Over a silent piece the search only moves on, wherever it is in a
statement that it has found before (`occurrences_silent`).
-/

namespace SiteOptimizer
namespace Script

/-! ## Moving on -/

/-- The character in front of what follows `s`, where `before` stands in front of `s`. -/
def lastOf (before : Option Char) (s : Text) : Option Char :=
  s.getLast?.or before

theorem lastOf_cons (before : Option Char) (c : Char) (s : Text) :
    lastOf before (c :: s) = lastOf (some c) s := by
  rw [lastOf, lastOf, List.getLast?_cons]
  cases s.getLast? <;> rfl

section

variable {statement? : Text → Option (Text × Text)}

theorem occurrences_skip (before : Option Char) (offset : Nat) (u t : Text) :
    occurrences statement? u.length before offset (u ++ t) =
      occurrences statement? 0 (lastOf before u) (offset + u.length) t := by
  induction u generalizing before offset with
  | nil => rfl
  | cons c u ih =>
    rw [List.cons_append, List.length_cons, occurrences_of_skip (Nat.succ_pos _), Nat.succ_sub_one,
      ih, lastOf_cons, Nat.add_assoc, Nat.add_comm 1]

/-- Behind a statement the search goes on where the statement ends. -/
theorem occurrences_statement {before : Option Char} (hbefore : isJoined before = false)
    {u t specifier : Text} (hne : u ≠ [])
    (h : statement? (u ++ t) = some (specifier, t)) (offset : Nat) :
    occurrences statement? 0 before offset (u ++ t) =
      ⟨offset, specifier⟩ :: occurrences statement? 0 (lastOf before u) (offset + u.length) t := by
  obtain ⟨c, u, rfl⟩ := List.exists_cons_of_ne_nil hne
  have hlength : (u ++ t).length - t.length = u.length := by
    rw [List.length_append, Nat.add_sub_cancel]
  rw [List.cons_append] at h ⊢
  rw [occurrences_of_some hbefore h, hlength, occurrences_skip, lastOf_cons, List.length_cons,
    Nat.add_assoc, Nat.add_comm 1]

/-- What is found in a piece starts in it, and the search goes on behind the
piece, maybe inside a statement. -/
theorem exists_occurrences_append (skip : Nat) (before : Option Char) (offset : Nat) (u t : Text) :
    ∃ found skip', (∀ f ∈ found, offset ≤ f.offset ∧ f.offset < offset + u.length) ∧
      occurrences statement? skip before offset (u ++ t) =
        found ++ occurrences statement? skip' (lastOf before u) (offset + u.length) t := by
  induction u generalizing skip before offset with
  | nil => exact ⟨[], skip, by simp, rfl⟩
  | cons c u ih =>
    have hlength : offset + (c :: u).length = offset + 1 + u.length := by
      rw [List.length_cons]
      omega
    have hwiden {found : List Found} (h : ∀ f ∈ found, offset + 1 ≤ f.offset ∧
        f.offset < offset + 1 + u.length) :
        ∀ f ∈ found, offset ≤ f.offset ∧ f.offset < offset + (c :: u).length := by
      intro f hf
      have hbounds := h f hf
      omega
    rw [List.cons_append, lastOf_cons]
    -- a character is passed over inside of a statement and inside of a name, and else
    -- where nothing is read from it
    by_cases hskip : 0 < skip
    · obtain ⟨found, skip', hfound, heq⟩ := ih (skip - 1) (some c) (offset + 1)
      exact ⟨found, skip', hwiden hfound, by rw [occurrences_of_skip hskip, heq, hlength]⟩
    obtain rfl := Nat.eq_zero_of_not_pos hskip
    cases hjoined : isJoined before with
    | true =>
      obtain ⟨found, skip', hfound, heq⟩ := ih 0 (some c) (offset + 1)
      exact ⟨found, skip', hwiden hfound, by rw [occurrences_of_joined hjoined, heq, hlength]⟩
    | false =>
      cases hread : statement? (c :: (u ++ t)) with
      | none =>
        obtain ⟨found, skip', hfound, heq⟩ := ih 0 (some c) (offset + 1)
        exact ⟨found, skip', hwiden hfound, by rw [occurrences_of_none hread, heq, hlength]⟩
      | some read =>
        obtain ⟨found, skip', hfound, heq⟩ :=
          ih ((u ++ t).length - read.2.length) (some c) (offset + 1)
        refine ⟨⟨offset, read.1⟩ :: found, skip', ?_, by
          rw [occurrences_of_some hjoined hread, heq, hlength, List.cons_append]⟩
        intro f hf
        rcases List.mem_cons.1 hf with rfl | hf
        · exact ⟨Nat.le_refl offset, Nat.lt_add_of_pos_right (Nat.succ_pos u.length)⟩
        · exact hwiden hfound f hf

/-- What is found is read where it is found. -/
theorem exists_of_mem_occurrences {skip : Nat} {before : Option Char} {offset : Nat} {s : Text}
    {found : Found} (h : found ∈ occurrences statement? skip before offset s) :
    ∃ rest, statement? (s.drop (found.offset - offset)) = some (found.specifier, rest) := by
  -- what is found behind the first character is read from the rest of the text
  have hcons {offset skip : Nat} {c : Char} {s : Text}
      (hmem : found ∈ occurrences statement? skip (some c) (offset + 1) s)
      (hread : ∃ rest, statement? (s.drop (found.offset - (offset + 1))) =
          some (found.specifier, rest)) :
      ∃ rest, statement? ((c :: s).drop (found.offset - offset)) =
        some (found.specifier, rest) := by
    have hcut : found.offset - offset = found.offset - (offset + 1) + 1 := by
      have hbounds := offset_of_mem_occurrences hmem
      omega
    rwa [hcut, List.drop_succ_cons]
  fun_induction occurrences statement? skip before offset s with
  | case1 => cases h
  | case2 skip before offset c s searchOn hpos ih => exact hcons h (ih _ h)
  | case3 skip before offset c s searchOn hpos hjoined ih => exact hcons h (ih _ h)
  | case4 skip before offset c s searchOn hpos hjoined specifier rest hread ih =>
    rcases List.mem_cons.1 h with rfl | h
    · rw [Nat.sub_self]
      exact ⟨rest, hread⟩
    · exact hcons h (ih _ h)
  | case5 skip before offset c s searchOn hpos hjoined hread ih => exact hcons h (ih _ h)

/-! ## Silent pieces -/

/-- No statement starts in `u`, where `before` stands in front of it and `t` follows. -/
def Silent (statement? : Text → Option (Text × Text)) : Option Char → Text → Text → Prop
  | _, [], _ => True
  | before, c :: u, t =>
    (isJoined before = false → statement? (c :: (u ++ t)) = none) ∧ Silent statement? (some c) u t

/-- **Over a silent piece the search moves on.** -/
theorem occurrences_silent {before : Option Char} {u t : Text} (h : Silent statement? before u t)
    (skip offset : Nat) :
    occurrences statement? skip before offset (u ++ t) =
      occurrences statement? (skip - u.length) (lastOf before u) (offset + u.length) t := by
  induction u generalizing before skip offset with
  | nil => rfl
  | cons c u ih =>
    obtain ⟨hhere, hlater⟩ := h
    have hgoOn (skip : Nat) : occurrences statement? skip (some c) (offset + 1) (u ++ t) =
        occurrences statement? (skip - u.length) (lastOf before (c :: u))
          (offset + (c :: u).length) t := by
      rw [ih hlater, lastOf_cons, List.length_cons, Nat.add_assoc, Nat.add_comm 1]
    have hlength : skip - (c :: u).length = skip - 1 - u.length := by
      rw [List.length_cons]
      omega
    rw [List.cons_append, hlength, ← hgoOn]
    -- a character that is skipped or joined to the one before is not tried at all
    by_cases hskip : 0 < skip
    · exact occurrences_of_skip hskip before offset c (u ++ t)
    obtain rfl := Nat.eq_zero_of_not_pos hskip
    cases hjoined : isJoined before with
    | true => exact occurrences_of_joined hjoined offset c (u ++ t)
    | false => exact occurrences_of_none (hhere hjoined) before offset

theorem Silent.append {before : Option Char} {u v t : Text}
    (hu : Silent statement? before u (v ++ t)) (hv : Silent statement? (lastOf before u) v t) :
    Silent statement? before (u ++ v) t := by
  induction u generalizing before with
  | nil => exact hv
  | cons c u ih =>
    rw [lastOf_cons] at hv
    refine ⟨fun hbefore => ?_, ih hu.2 hv⟩
    rw [List.append_eq, List.append_assoc]
    exact hu.1 hbefore

theorem silent_of_none {u : Text} (h : ∀ c ∈ u, ∀ s, statement? (c :: s) = none)
    (before : Option Char) (t : Text) :
    Silent statement? before u t := by
  induction u generalizing before with
  | nil => trivial
  | cons c u ih =>
    exact ⟨fun _ => h c List.mem_cons_self _,
      ih (fun d hd => h d (List.mem_cons_of_mem c hd)) (some c)⟩

/-- A word that starts no statement is silent, for no statement starts inside a word. -/
theorem silent_word {w : Text} (hw : ∀ c ∈ w, isNameChar c = true) {t : Text}
    (h : statement? (w ++ t) = none) (before : Option Char) : Silent statement? before w t := by
  have hinside : ∀ {u : Text}, (∀ c ∈ u, isNameChar c = true) → ∀ {b : Char}, isNameChar b = true →
      Silent statement? (some b) u t := by
    intro u hu
    induction u with
    | nil => exact fun _ => trivial
    | cons c u ih =>
      intro b hb
      refine ⟨fun hbefore => ?_, ih (fun d hd => hu d (List.mem_cons_of_mem c hd))
        (hu c List.mem_cons_self)⟩
      simp [isJoined, hb] at hbefore
  cases w with
  | nil => trivial
  | cons c w =>
    exact ⟨fun _ => h, hinside (fun d hd => hw d (List.mem_cons_of_mem c hd))
      (hw c List.mem_cons_self)⟩

/-! ## What a piece yields -/

/-- The statements of one sort that start in a piece, where `t` follows it and no name runs into it.
None of them reaches beyond the piece, so the search goes on behind it as it would start there. -/
def Yields (statement? : Text → Option (Text × Text)) (u t : Text) (found : List Found) : Prop :=
  ∀ before, isJoined before = false →
    occurrences statement? 0 before 0 (u ++ t) = found ++ occurrences statement? 0 none u.length t

theorem yields_silent {u t : Text} (h : ∀ before, Silent statement? before u t)
    (hlast : ∀ before, isJoined before = false → isJoined (lastOf before u) = false) :
    Yields statement? u t [] := by
  intro before hbefore
  rw [occurrences_silent (h before), Nat.zero_sub, Nat.zero_add, List.nil_append]
  exact occurrences_unjoined (hlast before hbefore) _ t

theorem yields_statement {u t specifier : Text} (hne : u ≠ [])
    (h : statement? (u ++ t) = some (specifier, t))
    (hlast : ∀ before, isJoined (lastOf before u) = false) :
    Yields statement? u t [⟨0, specifier⟩] := by
  intro before hbefore
  rw [occurrences_statement hbefore hne h, Nat.zero_add, occurrences_unjoined (hlast before)]
  rfl

theorem Yields.append {u v t : Text} {found found' : List Found}
    (hu : Yields statement? u (v ++ t) found) (hv : Yields statement? v t found') :
    Yields statement? (u ++ v) t (found ++ found'.map (Found.shift u.length)) := by
  intro before hbefore
  have hrest : occurrences statement? 0 none u.length (v ++ t) =
      (occurrences statement? 0 none 0 (v ++ t)).map (Found.shift u.length) :=
    occurrences_add u.length 0 none 0 (v ++ t)
  have hend : (occurrences statement? 0 none v.length t).map (Found.shift u.length) =
      occurrences statement? 0 none (u ++ v).length t := by
    rw [← occurrences_add, List.length_append]
  rw [List.append_assoc, hu before hbefore, hrest, hv none rfl, List.map_append,
    hend, List.append_assoc]

end

end Script
end SiteOptimizer
