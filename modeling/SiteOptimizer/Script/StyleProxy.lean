import SiteOptimizer.Reference
import SiteOptimizer.Script.Import

/-!
# Stylesheets behind modules

A build turns a stylesheet that a module imports into a proxy: a module that puts the stylesheet
into the page when it runs. An import of a proxy for its effect alone can be dropped when the page
links the stylesheet itself. The proxy of a CSS module also exports names, so it has no stylesheet
that could be linked in its place.
-/

namespace SiteOptimizer
namespace Script

def proxySuffix : Text := ".proxy.js".toList

def styleProxySuffix : Text := ".css".toList ++ proxySuffix

def classProxySuffix : Text := ".module".toList ++ styleProxySuffix

/-- Whether a path names the proxy of a stylesheet or of a CSS module. -/
def isStyleProxy (path : Path) : Bool :=
  Text.endsWith styleProxySuffix path

/-- The stylesheet behind a plain proxy. -/
def styleSource? (path : Path) : Option Path :=
  if isStyleProxy path && !Text.endsWith classProxySuffix path then Text.before? proxySuffix path
  else none

/-! ## Side-effect imports -/

/-- What may follow a side-effect import on its line: blanks, a semicolon, and the line's end. -/
def lineRest (s : Text) : Text :=
  let s := s.dropWhile Text.isIndent
  let s := (Text.after? [';'] s).getD s
  let s := s.dropWhile Text.isIndent
  -- One line end at most goes with the import.
  match s with
  | '\n' :: s => s
  | '\r' :: '\n' :: s => s
  | s => s

/-- A side-effect import at the start of a line: its specifier and what follows it. -/
def sideEffectImport? (line : Text) : Option (Text × Text) :=
  (Text.after? "import".toList (line.dropWhile Text.isIndent)).bind fun s =>
    (specifier? (s.dropWhile Text.isBlank)).map fun (specifier, rest) => (specifier, lineRest rest)

inductive Linked where
  /-- Every stylesheet behind a plain proxy. -/
  | all
  /-- The ones of a list, but nothing is known of the script, so that no import can be resolved. -/
  | unknown
  /-- The ones of a list; imports are resolved from the script at `path`. -/
  | listed (sources : List Path) (path root : Path)
  deriving Repr

/-- Whether an import can be dropped: its specifier names a plain proxy of a linked stylesheet. -/
def Linked.drops (linked : Linked) (specifier : Text) : Bool :=
  (styleSource? specifier).isSome &&
    match linked with
    | .all => true
    | .unknown => false
    | .listed sources path root =>
      ((Reference.resolve? specifier path root).bind styleSource?).any fun source =>
        sources.contains source

/-- The script without the imports that can be dropped. The next `skip` characters
belong to an import, which is kept if `keep` holds; `lineStart` tells whether the text
stands at the start of a line. -/
def dropFrom (linked : Linked) (skip : Nat) (keep lineStart : Bool) : Text → Text
  | [] => []
  | c :: s =>
    let goOn (skip : Nat) (keep : Bool) := dropFrom linked skip keep (c = '\n') s
    if 0 < skip then if keep then c :: goOn (skip - 1) keep else goOn (skip - 1) keep
    else
      match if lineStart then sideEffectImport? (c :: s) else none with
      | some (specifier, rest) =>
        let skip := s.length - rest.length
        -- Kept or dropped, the import is not searched again.
        if linked.drops specifier then goOn skip false else c :: goOn skip true
      | none => c :: goOn 0 true

/-- The script without the side-effect imports of plain proxies whose stylesheets are linked. -/
def dropStyleImports (linked : Linked) (code : Text) : Text :=
  dropFrom linked 0 true true code

end Script
end SiteOptimizer
