import SiteOptimizer.Module.Closure
import SiteOptimizer.Module.Extraction
import SiteOptimizer.Session

/-!
# Sources of imports

Imports come from the scripts themselves, or from a graph that stands in for them. Looking up
a module makes a record of the call. With a memory, a module whose imports have been found is
not looked up again; a look-up that fails is not remembered.
-/

namespace SiteOptimizer
namespace Module

/-- Where imports come from: the scripts themselves, or something that stands in for them. -/
structure Source where
  imports : FileSystem → Path → Except Fault Extraction
  /-- No more modules than this can be reached from others. -/
  limit : FileSystem → Nat

/-- The scripts of a project. Only scripts that can be opened import anything, and each statement
that imports takes some characters of its script. -/
def Source.scripts (root : Path) : Source where
  imports files path := extract files path root
  limit files := FileSystem.maxPaths * (2 * files.size)

/-- A graph that is given as a list: what each of these modules imports, or the fault that looking
it up meets. All other modules import nothing. -/
abbrev Graph := List (Path × Except Fault (List Path))

def Graph.size (graph : Graph) : Nat :=
  graph.foldr (fun edge size =>
    match edge.2 with
    | .ok imports => imports.length + size
    | .error _ => size) 0

def Source.graph (graph : Graph) : Source where
  imports _ path :=
    match graph.lookup path with
    | some (.ok imports) => .ok ⟨imports, []⟩
    | some (.error fault) => .error fault
    | none => .ok ⟨[], []⟩
  limit _ := graph.size

def Source.consult (source : Source) (path : Path) : Work (List Path) := do
  -- The call counts even if it fails.
  modify fun s => { s with calls := s.calls ++ [path] }
  let found ← Work.ofExcept (source.imports (← Work.files) path)
  found.notes.forM Work.note
  return found.imports

/-- The imports of a module as they are remembered; those that are not are
looked up and remembered. -/
def Source.recall (source : Source) (path : Path) : Work (List Path) := do
  match (← get).memory.find? path with
  | some imports => return imports
  | none =>
    let imports ← source.consult path
    -- Somebody else may have remembered the module meanwhile, and then that is the answer.
    modifyGet fun s =>
      let (known, memory) := s.memory.insertIfNew path imports
      (known, { s with memory })

/-- The modules that the entries are or reach, where imports are looked up anew. -/
def Source.modules (source : Source) (entries : List Path) : Work (List Path) := do
  closure source.consult (source.limit (← Work.files)) entries

/-- The modules that the entries are or reach, where imports are remembered. -/
def Source.recallModules (source : Source) (entries : List Path) : Work (List Path) := do
  closure source.recall (source.limit (← Work.files)) entries

end Module
end SiteOptimizer
