import SiteOptimizer.FileSystem
import SiteOptimizer.Note
import SiteOptimizer.Module.Memory

/-!
# Sessions

Work changes files, remembers imports and takes notes; a session is the state of all that. Work may
fail, and a failure keeps what has been done before it.
-/

namespace SiteOptimizer

structure Session where
  files : FileSystem
  memory : Module.Memory
  /-- The modules whose imports have been looked up, in order. -/
  calls : List Path
  notes : List Note
  deriving DecidableEq, Repr

def Session.start (files : FileSystem) : Session :=
  ⟨files, .empty, [], []⟩

abbrev Work := EStateM Fault Session

namespace Work

/-- Gives what has been computed, or fails with its fault. -/
def ofExcept {α : Type} : Except Fault α → Work α
  | .ok a => pure a
  | .error fault => throw fault

def note (n : Note) : Work Unit :=
  modify fun s => { s with notes := s.notes ++ [n] }

def files : Work FileSystem := do
  return (← get).files

def setFiles (files : FileSystem) : Work Unit :=
  modify fun s => { s with files }

/-- Does some work and gives its fault if it fails. -/
def attempt {α : Type} (work : Work α) : Work (Except Fault α) := fun s =>
  match work s with
  | .ok a s => .ok (.ok a) s
  -- What was done before the fault is not undone.
  | .error fault s => .ok (.error fault) s

theorem attempt_ne_error {α : Type} (work : Work α) (fault : Fault) (s s' : Session) :
    attempt work s ≠ .error fault s' := by
  unfold attempt
  split <;> simp

def mapFault {α : Type} (f : Fault → Fault) (work : Work α) : Work α := fun s =>
  match work s with
  | .ok a s => .ok a s
  | .error fault s => .error (f fault) s

def write (path : Path) (text : Text) : Work Unit := do
  setFiles (← ofExcept ((← files).write path text))

/-- Makes a directory and those above it that are missing. -/
def makeDirectories (path : Path) : Work Unit := do
  let (result, after) := (← files).makeAll path
  -- What has been made before a fault stays.
  setFiles after
  ofExcept result

end Work

end SiteOptimizer
