import SiteOptimizer.Fault

/-!
# What a page depends on

A page names scripts and stylesheets. Its modules are those scripts and everything they import, so
every script that the page names is one of its modules, which is part of the type. Sets of files
are listed in ascending order.
-/

namespace SiteOptimizer
namespace Page

structure Dependencies where
  /-- The scripts that the page names. -/
  entry : List Path
  css : List Path
  /-- The modules of the page. -/
  js : List Path
  entry_subset : ∀ path ∈ entry, path ∈ js
  deriving DecidableEq, Repr

/-- The dependencies that these lists describe as sets. -/
def Dependencies.ofLists (entry css js : List Path) : Except Fault Dependencies :=
  if h : ∀ path ∈ entry, path ∈ js then
    .ok
      { entry := Text.sortUnique entry, css := Text.sortUnique css, js := Text.sortUnique js
        entry_subset := fun path hp => Text.mem_sortUnique.2 (h path (Text.mem_sortUnique.1 hp)) }
  else .error .entryNotListed

def Dependencies.empty : Dependencies := ⟨[], [], [], by simp⟩

/-- Pages with what they depend on, in the order in which they were scanned. -/
abbrev Manifest := List (Path × Dependencies)

def Manifest.find? (manifest : Manifest) (page : Path) : Option Dependencies :=
  manifest.lookup page

/-- The manifest with what a page depends on; a page that is there already keeps its place. -/
def Manifest.insert (manifest : Manifest) (page : Path) (found : Dependencies) : Manifest :=
  match manifest with
  | [] => [(page, found)]
  | other :: rest =>
    if other.1 = page then (page, found) :: rest else other :: Manifest.insert rest page found

theorem Manifest.find?_insert_self (manifest : Manifest) (page : Path) (found : Dependencies) :
    (manifest.insert page found).find? page = some found := by
  induction manifest with
  | nil => simp [Manifest.insert, Manifest.find?]
  | cons other rest ih =>
    obtain ⟨here, dependencies⟩ := other
    unfold Manifest.insert
    split
    · simp [Manifest.find?]
    · next h =>
      have hne : (page == here) = false := by
        rw [beq_eq_false_iff_ne]
        exact Ne.symm h
      simpa [Manifest.find?, List.lookup_cons, hne] using ih

/-- The manifest of some pages; what a page that is repeated depends on is
what it is last said to. -/
def Manifest.ofPages (pages : List (Path × Dependencies)) : Manifest :=
  pages.foldl (fun manifest page => manifest.insert page.1 page.2) []

def Manifest.sorted (manifest : Manifest) : Manifest :=
  manifest.mergeSort fun a b => Text.le a.1 b.1

end Page
end SiteOptimizer
