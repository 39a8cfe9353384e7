import SiteOptimizer.Fault

/-!
# Modules reachable through imports

A search starts at some modules and looks up what each module that it meets imports, until nothing
new turns up. Modules that have been met are kept apart from those that have been looked up, so that
circular imports come to an end. The search is told how many modules it may look up; with a limit no
smaller than the number of reachable modules it never runs into it.

The look-up may keep a state of its own, and it may fail, which ends the search.
-/

namespace SiteOptimizer
namespace Module

/-- Looks up what a module imports. -/
abbrev Lookup (σ : Type) := Path → EStateM Fault σ (List Path)

structure Search where
  met : List Path
  done : List Path
  /-- The modules to look up, the next one first. -/
  pending : List Path
  deriving DecidableEq, Repr

namespace Search

/-- The start of a search: the last of the modules in ascending order comes first. -/
def start (entries : List Path) : Search :=
  let entries := Text.sortUnique entries
  ⟨entries, [], entries.reverse⟩

/-- Takes note of an imported module; one that is new comes next. -/
def meet (s : Search) (path : Path) : Search :=
  if s.met.contains path then s else { s with met := path :: s.met, pending := path :: s.pending }

/-- Goes on until nothing is pending, and lists what has been met. -/
def run {σ : Type} (lookup : Lookup σ) : Nat → Search → EStateM Fault σ (List Path)
  | limit, s =>
    match s.pending, limit with
    | [], _ => pure (Text.sort s.met)
    | _ :: _, 0 => throw .moduleLimit
    | path :: pending, limit + 1 =>
      -- Not met from `start`, where every module is pending only once.
      if s.done.contains path then run lookup limit { s with pending }
      else do
        let imports ← lookup path
        run lookup limit (imports.foldl meet { s with done := path :: s.done, pending })

end Search

/-- The set of modules that the entries are or reach through imports. -/
def closure {σ : Type} (lookup : Lookup σ) (limit : Nat) (entries : List Path) :
    EStateM Fault σ (List Path) :=
  -- The limit counts imports, and entries need not be imported.
  (Search.start entries).run lookup (limit + entries.length)

end Module
end SiteOptimizer
