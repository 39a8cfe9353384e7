import SiteOptimizer.Markup.Insertion
import SiteOptimizer.Page.Scan
import SiteOptimizer.Script.StyleProxy

/-!
# Preloading modules

A browser finds the imports of a module only when it has loaded the module, one level after
the other. So every module that a page reaches but does not name gets a hint in the head of
the page, and a script tag at the end of its body for browsers that do not know the hint. The
page then names all its modules.
-/

namespace SiteOptimizer
namespace Page

def hintComment : Text :=
  ("<!-- [turbooptimize] Add modulepreload to improve unbundled load performance " ++
    "(More info: https://developers.google.com/web/updates/2017/12/modulepreload) -->").toList

def fallbackComment : Text :=
  "<!-- [turbooptimize] modulepreload fallback for browsers that do not support it yet -->".toList

def hintTag (url : Text) : Text :=
  "<link rel=\"modulepreload\" href=\"".toList ++ url ++ "\" />".toList

def fallbackTag (url : Text) : Text :=
  "<script type=\"module\" src=\"".toList ++ url ++ "\"></script>".toList

/-- The lines for the end of the head. -/
def renderHints (urls : List Text) : Text :=
  Text.join ['\n'] (hintComment :: urls.map hintTag)

/-- The lines for the end of the body. -/
def renderFallbacks (urls : List Text) : Text :=
  Text.join ['\n'] (fallbackComment :: urls.map fallbackTag)

def urlOf (root path : Path) : Except Fault Text :=
  match Reference.projectUrl? path root with
  | some url => .ok url
  | none => .error .emptyPath

/-- The modules to preload: those that are reached but not named. Stylesheet proxies are left out
when their stylesheets are linked. -/
def preloadModules (entries modules : List Path) (linkStyles : Bool) : List Path :=
  modules.filter fun path =>
    !entries.contains path && !(linkStyles && Script.isStyleProxy path)

/-- The page with what preloads its modules; `modules` finds what its scripts import. -/
def preload {σ : Type} (modules : List Path → EStateM Fault σ (List Path)) (code : Text)
    (root page : Path) (linkStyles : Bool) : EStateM Fault σ Text := do
  let entries := moduleEntries code page root
  let missing := preloadModules entries (← modules entries) linkStyles
  -- A page that names all its modules stays as it is.
  if missing = [] then return code
  match missing.mapM (urlOf root) with
  | .error fault => throw fault
  | .ok urls =>
    let urls := Text.sort urls
    return Markup.inject code (renderHints urls) (renderFallbacks urls)

end Page
end SiteOptimizer
