import SiteOptimizer.Build.Listing
import SiteOptimizer.Build.ManifestDocument
import SiteOptimizer.Build.Stylesheet
import SiteOptimizer.Build.Task

/-!
# Runs

A run optimizes a build directory in place. It lists the files and starts a minifier; it scans every
page before it changes anything, because the tasks on pages need the whole manifest; it optimizes
file after file, where a task that fails is written down and the others go on; then it writes the
combined stylesheet and the document of the manifest. The minifier is closed however the run ends.
-/

namespace SiteOptimizer
namespace Build

structure Plan where
  directory : Path
  settings : Settings
  supply : Minify.Supply
  /-- Where imports come from in a build directory. -/
  source : Path → Module.Source

structure Failure where
  path : Path
  cause : Fault
  deriving DecidableEq, Repr

def Failure.message (failure : Failure) : Text :=
  failure.path ++ ": ".toList ++ failure.cause.message

structure Report where
  manifest : Page.Manifest
  /-- The files that the run worked on. -/
  files : List Path
  generated : List Path
  failures : List Failure
  deriving DecidableEq, Repr

/-- How a run ends: its report or fault, what it leaves behind, and the minifiers that it had. -/
structure Outcome where
  result : Except Fault Report
  session : Session
  minifiers : List Minify.Minifier

structure Inventory where
  root : Path
  pages : List Path
  tasks : List Path
  deriving DecidableEq, Repr

def isPage (path : Path) : Bool :=
  Text.endsWith ".html".toList (Text.lower path)

/-- Lists the files of a run. Proxies of stylesheets are left alone when
stylesheets are combined. -/
def takeInventory (directory : Path) (settings : Settings) : Work Inventory := do
  let root := Path.absolute directory
  let files ← Work.ofExcept (listFiles (← Work.files) root settings.exclude settings.metaDir)
  let pages := files.filter isPage
  let tasks := files.filter fun path => !(settings.preloadCss && Script.isStyleProxy path)
  Work.note (.runStarted tasks.length pages.length root)
  return ⟨root, pages, tasks⟩

def attemptTask (job : Job) (modules : List Path → Work (List Path)) (path : Path) :
    Work (Option Failure) := do
  match ← Work.attempt (job.run modules path) with
  | .ok _ => return none
  | .error cause =>
    Work.note (.fileFailed (← Work.ofExcept (Page.urlOf job.root path)) cause)
    return some ⟨path, cause⟩

/-- Writes the combined stylesheet unless it is empty, and gives the paths
of the files that it wrote. -/
def generate (root : Path) (settings : Settings) (minify : Minify.Backend)
    (manifest : Page.Manifest) :
    Work (List Path) := do
  if !settings.preloadCss then return []
  let code ← buildStylesheet manifest (if settings.minifyCss then some minify.css else none)
  if code = [] then return []
  let output := Path.join root (settings.combinedCssName.dropWhile (· = '/'))
  Work.makeDirectories (Path.parent output)
  Work.write output code
  return [output]

/-- What is done while the minifier runs: scanning, optimizing and combining. -/
def optimizeAll (settings : Settings) (minify : Minify.Backend) (source : Module.Source)
    (inventory : Inventory) : Work Report := do
  let root := inventory.root
  let modules := source.recallModules
  let manifest ← Page.scanAll modules inventory.pages root
  Work.note (.scanFinished manifest.length (← get).memory.size)
  -- Scripts keep the imports of stylesheets that are not there.
  let combined := (combinedSources manifest).filter (← Work.files).isFile
  let job : Job := { root, settings, minify, manifest, combined := some combined }
  let failures ← inventory.tasks.filterMapM (attemptTask job modules)
  let generated ← generate root settings minify manifest
  return ⟨manifest, inventory.tasks, generated, failures⟩

def documentPath (root metaDir : Path) : Path :=
  Path.join (Path.join root (Text.trim (· = '/') metaDir)) manifestName

def documentOf (root : Path) (settings : Settings) (report : Report) :
    Except Fault ManifestDocument :=
  ManifestDocument.ofManifest report.manifest root report.generated settings.preloadCss
    (if report.generated = [] then none else some settings.combinedCssName)

/-- What is done at the end: the document of the manifest is written. -/
def finish (settings : Settings) (root : Path) (report : Report) : Work Report := do
  let document ← Work.ofExcept (documentOf root settings report)
  writeDocument (documentPath root settings.metaDir) document.toJson
  Work.note
    (if report.failures = [] then .runFinished report.files.length
     else .runFailed report.failures.length report.files.length)
  return report

/-- The outcome of the last part of a run, where these minifiers have been closed. -/
def Outcome.ofResult (minifiers : List Minify.Minifier) :
    EStateM.Result Fault Session Report → Outcome
  | .ok report session => ⟨.ok report, session, minifiers⟩
  | .error fault session => ⟨.error fault, session, minifiers⟩

/-- A run that does something of its own at the end, with the root and the report. -/
def runWith (ending : Path → Report → Work Report) (plan : Plan) (files : FileSystem) : Outcome :=
  match takeInventory plan.directory plan.settings (Session.start files) with
  | .error fault session => ⟨.error fault, session, []⟩
  | .ok inventory session =>
    let minifier := Minify.Minifier.ofTarget plan.settings.target
    match plan.supply.start minifier with
    -- A minifier that has not started is not closed.
    | .error fault => ⟨.error fault, session, [minifier]⟩
    | .ok minifier =>
      let work := do
        Work.note (.minifierStarted minifier.targets)
        optimizeAll plan.settings (minifier.guard plan.supply.backend) (plan.source inventory.root)
          inventory
      match work session with
      | .error fault session => ⟨.error fault, session, [minifier.close]⟩
      | .ok report session => .ofResult [minifier.close] (ending inventory.root report session)

def optimize (plan : Plan) (files : FileSystem) : Outcome :=
  runWith (finish plan.settings) plan files

end Build
end SiteOptimizer
