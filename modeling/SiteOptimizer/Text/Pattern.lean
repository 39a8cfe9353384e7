import SiteOptimizer.Text.Basic

/-!
# Patterns

A pattern looks at the start of a text and either does not match or splits the text into what it
matches and what is left. It carries the proof that it loses nothing. Patterns are built from fixed
words, single characters and maximal runs of a class, put in order or tried in turn. A run always
takes as much as it can, and no choice is taken back.
-/

namespace SiteOptimizer
namespace Text

/-- A way to split off what stands at the start of a text. -/
structure Pattern where
  /-- What is matched and what is left. -/
  split? : Text → Option (Text × Text)
  append_eq : ∀ {s found rest : Text}, split? s = some (found, rest) → found ++ rest = s

namespace Pattern

def nothing : Pattern where
  split? s := some ([], s)
  append_eq h := by
    simp only [Option.some.injEq, Prod.mk.injEq] at h
    simp [← h.1, h.2]

def word (w : Text) : Pattern where
  split? s := (after? w s).map (w, ·)
  append_eq h := by
    obtain ⟨r, hr, he⟩ := Option.map_eq_some_iff.1 h
    simp only [Prod.mk.injEq] at he
    rw [after?_eq_some_iff.1 hr, ← he.1, he.2]

def one (p : Char → Bool) : Pattern where
  split?
    | [] => none
    | c :: s => if p c then some ([c], s) else none
  append_eq {s _ _} h := by
    cases s with
    | nil => simp at h
    | cons c s =>
      simp only at h
      split at h
      · simp only [Option.some.injEq, Prod.mk.injEq] at h
        simp [← h.1, h.2]
      · simp at h

/-- Matches the longest run of a class, which may be empty. -/
def run (p : Char → Bool) : Pattern where
  split? s := some (s.takeWhile p, s.dropWhile p)
  append_eq h := by
    simp only [Option.some.injEq, Prod.mk.injEq] at h
    simp [← h.1, ← h.2, List.takeWhile_append_dropWhile]

def followedBy (first second : Pattern) : Pattern where
  split? s :=
    match first.split? s with
    | none => none
    | some (a, s) => (second.split? s).map fun (b, rest) => (a ++ b, rest)
  append_eq {s _ _} h := by
    cases hs : first.split? s with
    | none => simp [hs] at h
    | some part =>
      obtain ⟨a, t⟩ := part
      simp only [hs] at h
      obtain ⟨⟨b, rest⟩, hb, he⟩ := Option.map_eq_some_iff.1 h
      simp only [Prod.mk.injEq] at he
      rw [← first.append_eq hs, ← second.append_eq hb, ← he.1, he.2, List.append_assoc]

/-- Matches the patterns in order, each behind the one before it. -/
def inOrder (patterns : List Pattern) : Pattern :=
  patterns.foldr followedBy nothing

def orElse (first second : Pattern) : Pattern where
  split? s :=
    match first.split? s with
    | some parts => some parts
    | none => second.split? s
  append_eq {s _ _} h := by
    cases hs : first.split? s with
    | none => exact second.append_eq (by simpa [hs] using h)
    | some parts => exact first.append_eq (by simpa [hs] using h)

def someOf (p : Char → Bool) : Pattern :=
  (one p).followedBy (run p)

end Pattern

end Text
end SiteOptimizer
