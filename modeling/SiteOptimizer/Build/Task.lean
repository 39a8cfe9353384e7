import SiteOptimizer.Minify.Minifier
import SiteOptimizer.Page.Preload
import SiteOptimizer.Settings

/-!
# Optimizing one file

A task reads its file once, optimizes the text, and writes it once if it has changed, so that a task
that fails leaves its file as it was. What happens to the text depends on the sort of the file:
stylesheets are minified, scripts lose the imports of stylesheets that pages link, and pages get the
link and the preloading of their modules.
-/

namespace SiteOptimizer
namespace Build

inductive FileKind where
  | css
  | js
  | html
  deriving DecidableEq, Repr

def FileKind.ofPath? (path : Path) : Option FileKind :=
  let suffix := Text.lower (Path.suffix path)
  if suffix = ".css".toList then some .css
  else if suffix = ".js".toList || suffix = ".mjs".toList then some .js
  else if suffix = ".html".toList then some .html
  else none

/-- What the tasks of a run share. -/
structure Job where
  root : Path
  settings : Settings
  minify : Minify.Backend
  manifest : Page.Manifest
  /-- The stylesheets that are combined; without a list, all of them. -/
  combined : Option (List Path)

namespace Job

def concerns (job : Job) : FileKind → Bool
  | .css => job.settings.minifyCss
  | .js => job.settings.preloadCss || job.settings.minifyJs
  | .html => job.settings.preloadCss || job.settings.preloadModules || job.settings.minifyHtml

/-- The stylesheets whose proxies a script at a path need not import. -/
def linked (job : Job) (path : Path) : Script.Linked :=
  match job.combined with
  | some sources => .listed sources path job.root
  | none => .all

def styleLink (job : Job) : Text :=
  "<link rel=\"stylesheet\" href=\"".toList ++ job.settings.combinedCssName ++ "\" />".toList

/-- Whether a page has a module that is a plain proxy. -/
def importsStyles (job : Job) (page : Path) : Bool :=
  (job.manifest.find? page).any fun found => found.js.any fun path =>
    (Script.styleSource? path).isSome

def optimizeScript (job : Job) (path : Path) (code : Text) : Except Fault Text :=
  let code := if job.settings.preloadCss then Script.dropStyleImports
    (job.linked path) code else code
  if job.settings.minifyJs then job.minify.js code else .ok code

def linkStyles (job : Job) (page : Path) (code : Text) : Text :=
  if job.settings.preloadCss && job.importsStyles page then Markup.inject code job.styleLink []
  else code

/-- The new text of a page; `modules` finds what its scripts import. -/
def optimizePage {σ : Type} (job : Job) (modules : List Path → EStateM Fault σ (List Path))
    (page : Path) (code : Text) : EStateM Fault σ Text := do
  let code := job.linkStyles page code
  -- Preloading works on the page with the link in it, and minifying comes last.
  let code ←
    if job.settings.preloadModules then
      Page.preload modules code job.root page job.settings.preloadCss
    else pure code
  if job.settings.minifyHtml then
    match job.minify.html code with
    | .ok code => return code
    | .error fault => throw fault
  else return code

def optimize {σ : Type} (job : Job) (modules : List Path → EStateM Fault σ (List Path))
    (kind : FileKind) (path : Path) (code : Text) : EStateM Fault σ Text :=
  let give : Except Fault Text → EStateM Fault σ Text
    | .ok code => pure code
    | .error fault => throw fault
  match kind with
  | .css => give (job.minify.css code)
  | .js => give (job.optimizeScript path code)
  | .html => job.optimizePage modules path code

/-- Optimizes a file and tells whether its text has changed. -/
def run (job : Job) (modules : List Path → Work (List Path)) (path : Path) : Work Bool := do
  match (FileKind.ofPath? path).filter job.concerns with
  | none => return false
  | some kind =>
    let before ← Work.ofExcept ((← Work.files).readText path)
    let code ← job.optimize modules kind path before
    -- A file that would stay the same is not written.
    if code = before then return false
    Work.write path code
    Work.note (.fileOptimized (← Work.ofExcept (Page.urlOf job.root path)))
    return true

end Job

end Build
end SiteOptimizer
