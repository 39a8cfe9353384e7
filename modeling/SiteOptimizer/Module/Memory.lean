import SiteOptimizer.Path

/-!
# Remembered imports

Modules are changed while pages still need to know what they import. So what a module imports is
looked up once and remembered. What is remembered first stays: a later answer for the same module is
ignored, and whoever brings it gets the first one.
-/

namespace SiteOptimizer
namespace Module

/-- The imports of the modules that have been looked up. -/
structure Memory where
  entries : List (Path × List Path)
  deriving DecidableEq, Repr

namespace Memory

def empty : Memory := ⟨[]⟩

def size (m : Memory) : Nat :=
  m.entries.length

def find? (m : Memory) (path : Path) : Option (List Path) :=
  m.entries.lookup path

def contains (m : Memory) (path : Path) : Bool :=
  (m.find? path).isSome

/-- Remembers the imports of a module unless it is remembered already, and
gives what is remembered. -/
def insertIfNew (m : Memory) (path : Path) (imports : List Path) : List Path × Memory :=
  match m.find? path with
  | some known => (known, m)
  | none => (imports, ⟨(path, imports) :: m.entries⟩)

theorem find?_insertIfNew_of_some {m : Memory} {path other : Path} {imports known : List Path}
    (h : m.find? other = some known) : (m.insertIfNew path imports).2.find? other = some known := by
  unfold insertIfNew
  split
  · exact h
  · next hnone =>
    have hne : other ≠ path := fun he => by simp [he, hnone] at h
    have : (other == path) = false := by simp [hne]
    simpa [find?, List.lookup_cons, this] using h

theorem find?_insertIfNew_self (m : Memory) (path : Path) (imports : List Path) :
    (m.insertIfNew path imports).2.find? path = some (m.insertIfNew path imports).1 := by
  unfold insertIfNew
  split
  · next h => exact h
  · simp [find?]

end Memory

end Module
end SiteOptimizer
