import SiteOptimizer.Build.Run
import SiteOptimizer.CommandLine.Request

/-!
# Selected settings

The settings of a request are those of its file of options or the default settings, with the changes
that its flags make. A flag may leave a setting void. A void URL of the combined stylesheet is
refused at once and a void target is no target; a void glob is a fault as soon as globs are looked
at, and so is a void metadata directory when the document of the manifest is to be written.
-/

namespace SiteOptimizer
namespace CommandLine

/-- The settings that a request comes to, and which of them it leaves void. -/
structure Selection where
  /-- The settings. A void target is none here, and a void metadata directory is
  empty; void globs are left out. -/
  settings : Settings
  /-- The globs, those of the file of options first. -/
  exclude : List (Given Text)
  voidTarget : Bool
  voidMetaDir : Bool
  deriving DecidableEq, Repr

def Request.base (request : Request) (files : FileSystem) : Except Fault Settings :=
  match request.config with
  | some (.value path) => if path = [] then .ok .default else Settings.load files path
  | _ => .ok .default

def Request.combinedCssChange (request : Request) : Except Fault (List Settings.Change) :=
  match request.combinedCssName with
  | none => .ok []
  | some .void => .error (.voidSetting .front)
  | some (.value url) => .ok [.combinedCssName url]

def Request.selection (request : Request) (files : FileSystem) : Except Fault Selection := do
  let base ← request.base files
  let combinedCss ← request.combinedCssChange
  let target := request.target.toList.map fun given => Settings.Change.target given.value?
  let metaDir := request.metaDir.toList.map fun given =>
    Settings.Change.metaDir (given.value?.getD [])
  let globs := base.exclude ++ request.exclude.filterMap Given.value?
  return {
    settings :=
      base.replace (request.changes ++ combinedCss ++ target ++ metaDir ++ [.exclude globs])
    exclude := base.exclude.map .value ++ request.exclude
    voidTarget := request.target = some .void
    voidMetaDir := request.metaDir = some .void }

/-- What is done at the end of a run without a metadata directory: the document has no place. -/
def finishNowhere (settings : Settings) (root : Path)
    (report : Build.Report) : Work Build.Report := do
  -- A fault of the document goes before the missing place.
  let _ ← Work.ofExcept (Build.documentOf root settings report)
  throw (.voidSetting .trim)

def Selection.run (selection : Selection) (directory : Path) (files : FileSystem) : Build.Outcome :=
  let plan : Build.Plan :=
    { directory, settings := selection.settings, supply := .standard, source := .scripts }
  if selection.exclude.contains .void then
    -- Globs are looked at when the directory has been found.
    let fault :=
      match Build.directoryPlace files (Path.absolute directory) with
      | .error fault => fault
      | .ok _ => .voidSetting .trimFront
    ⟨.error fault, Session.start files, []⟩
  else if selection.voidMetaDir then Build.runWith (finishNowhere selection.settings) plan files
  else Build.optimize plan files

end CommandLine
end SiteOptimizer
