import SiteOptimizer.Json.Printer
import SiteOptimizer.Page.Preload
import SiteOptimizer.Session

/-!
# The document of a manifest

After a run, a document in the metadata directory says by URLs what each page depends on and what
the run generated. When stylesheets are combined, the plain proxies are left out of a page's
scripts, and the combined stylesheet stands among its stylesheets instead.
-/

namespace SiteOptimizer
namespace Build

def manifestName : Text := "optimize-manifest.json".toList

structure PageUrls where
  css : List Text
  js : List Text
  deriving DecidableEq, Repr

/-- A manifest by URLs, with the files that a run generated. -/
structure ManifestDocument where
  pages : List (Text × PageUrls)
  generated : List Text
  deriving DecidableEq, Repr

/-- Whether a module is left out of the scripts of its page. -/
def isCombined (preloadCss : Bool) (path : Path) : Bool :=
  preloadCss && (Script.styleSource? path).isSome

def PageUrls.ofDependencies (root : Path) (preloadCss : Bool) (combinedUrl : Option Text)
    (found : Page.Dependencies) : Except Fault PageUrls := do
  let css ← found.css.mapM (Page.urlOf root)
  let js ← (found.js.filter fun path => !isCombined preloadCss path).mapM (Page.urlOf root)
  -- The combined stylesheet stands in for the proxies that have been left out.
  let combined :=
    if found.js.any (isCombined preloadCss) then combinedUrl.toList.filter (· ≠ []) else []
  return ⟨Text.sortUnique (css ++ combined), Text.sortUnique js⟩

def ManifestDocument.ofManifest (manifest : Page.Manifest) (root : Path) (generated : List Path)
    (preloadCss : Bool) (combinedUrl : Option Text) : Except Fault ManifestDocument := do
  let pages ← manifest.sorted.mapM fun page => do
    let urls ← PageUrls.ofDependencies root preloadCss combinedUrl page.2
    return (← Page.urlOf root page.1, urls)
  return ⟨pages, Text.sort (← generated.mapM (Page.urlOf root))⟩

def textArray (texts : List Text) : Json :=
  .array (texts.map .string)

def PageUrls.toJson (urls : PageUrls) : Json :=
  .object [("css".toList, textArray urls.css), ("js".toList, textArray urls.js)]

/-- The document as JSON; of two pages with one URL the latter counts. -/
def ManifestDocument.toJson (document : ManifestDocument) : Json :=
  .object
    [("imports".toList, .ofFields (document.pages.map fun page => (page.1, page.2.toJson))),
     ("generated".toList, textArray document.generated)]

def writeDocument (path : Path) (document : Json) : Work Unit := do
  Work.makeDirectories (Path.parent path)
  Work.write path document.render

end Build
end SiteOptimizer
