import SiteOptimizer.Markup.Lexer
import SiteOptimizer.Markup.Attribute
import SiteOptimizer.Module.Source
import SiteOptimizer.Page.Dependencies

/-!
# Scanning pages

A page names stylesheets in the `href` of its links and scripts in the `src` of its script tags.
Scanning a page finds those and everything that the scripts import. A page that cannot be scanned
fails the whole scan, since a part of a manifest would be of no use.
-/

namespace SiteOptimizer
namespace Page

open Markup (Attributes)

def linkTag : Text := "link".toList

def scriptTag : Text := "script".toList

def hrefAttribute : Text := "href".toList

def srcAttribute : Text := "src".toList

def typeAttribute : Text := "type".toList

def moduleType : Text := "module".toList

/-- The file that an attribute of a tag names; an empty value names none. -/
def reference? (attributes : Attributes) (name : Text) (page root : Path) : Option Path :=
  (attributes.value? name).bind fun reference =>
    if reference = [] then none else Reference.resolve? reference page root

def referenceTags (code : Text) : List (Text × Attributes) :=
  Markup.tagsNamed (fun name => name = linkTag || name = scriptTag) (Markup.tokenize code)

def stylesheets (code : Text) (page root : Path) : List Path :=
  (referenceTags code).filterMap fun (tag, attributes) =>
    if tag = linkTag then reference? attributes hrefAttribute page root else none

def scripts (code : Text) (page root : Path) : List Path :=
  (referenceTags code).filterMap fun (tag, attributes) =>
    if tag = scriptTag then reference? attributes srcAttribute page root else none

def isModule (attributes : Attributes) : Bool :=
  ((attributes.value? typeAttribute).map Text.lower) = some moduleType

/-- The set of scripts that a page loads as modules. -/
def moduleEntries (code : Text) (page root : Path) : List Path :=
  let tags := Markup.tagsNamed (· = scriptTag) (Markup.tokenize code)
  Text.sortUnique (tags.filterMap fun (_, attributes) =>
    if isModule attributes then reference? attributes srcAttribute page root else none)

/-- What the page at a path depends on; `modules` finds what its scripts import. -/
def scan (modules : List Path → Work (List Path)) (page root : Path) : Work Dependencies := do
  let code ← Work.ofExcept ((← Work.files).readDocument page)
  let entry := scripts code page root
  let js ← modules entry
  Work.ofExcept (Dependencies.ofLists entry (stylesheets code page root) js)

/-- Scans a page and takes a note; a fault of the page names the page. -/
def scanNoting (modules : List Path → Work (List Path)) (root page : Path) :
    Work (Path × Dependencies) := do
  let found ← Work.mapFault (fun fault => if fault.concernsPage then .scan page fault else fault)
    (scan modules page root)
  Work.note (.pageScanned page found.css.length found.js.length found.entry.length)
  return (page, found)

def scanAll (modules : List Path → Work (List Path)) (pages : List Path)
    (root : Path) : Work Manifest := do
  return .ofPages (← (Text.sort pages).mapM (scanNoting modules root))

end Page
end SiteOptimizer
