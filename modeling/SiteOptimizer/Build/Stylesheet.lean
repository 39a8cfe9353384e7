import SiteOptimizer.Page.Dependencies
import SiteOptimizer.Script.StyleProxy
import SiteOptimizer.Session

/-!
# The combined stylesheet

The stylesheets that the modules of pages import through plain proxies are put into one
stylesheet, in the order of the pages and of their modules, and none of them twice. Stylesheets
that are not there are passed over.
-/

namespace SiteOptimizer
namespace Build

/-- The stylesheets behind the plain proxies that pages reach, each where it comes first. -/
def combinedSources (manifest : Page.Manifest) : List Path :=
  (manifest.sorted.flatMap fun page => (Text.sort page.2.js).filterMap
    Script.styleSource?).eraseDups

/-- The text of a stylesheet, or nothing but a note if it is not there. -/
def stylesheetPart (source : Path) : Work (Option Text) := do
  let files ← Work.files
  if files.isFile source then
    return some (← Work.ofExcept (files.readText source))
  Work.note (.stylesheetMissing source)
  return none

def stylesheetParts (manifest : Page.Manifest) : Work (List Text) :=
  (combinedSources manifest).filterMapM stylesheetPart

/-- The combined stylesheet. A text that is not empty is minified if a way to do it is given. -/
def buildStylesheet (manifest : Page.Manifest) (minify? : Option (Text → Except Fault Text)) :
    Work Text := do
  let code := Text.join ['\n'] (← stylesheetParts manifest)
  match minify? with
  | some minify => if code = [] then return code else Work.ofExcept (minify code)
  | none => return code

end Build
end SiteOptimizer
