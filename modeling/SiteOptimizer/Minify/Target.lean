import SiteOptimizer.Text.Lowercase
import SiteOptimizer.Text.Numeral
import SiteOptimizer.Fault

/-!
# Targets

A target names what scripts should run on: an edition of the language, or a browser with a version.
Several of them stand in a list with commas. The minifiers never change syntax, so targets are only
checked.
-/

namespace SiteOptimizer
namespace Minify

def environments : List Text :=
  ["chrome", "edge", "firefox", "ios", "node", "opera", "safari"].map String.toList

def isNumber (s : Text) : Bool :=
  s ≠ [] && s.all Text.isDecimalDigit

/-- Whether a text is a version: numbers with points between them. -/
def isVersion (s : Text) : Bool :=
  (Text.splitOn '.' s).all isNumber

/-- Whether a text names an edition by its number or its year. -/
def isEdition (s : Text) : Bool :=
  s = "next".toList || s = ['5'] || s = ['6'] ||
    match s with
    | ['2', '0', a, b] => Text.isDecimalDigit a && Text.isDecimalDigit b
    | _ => false

def isTarget (s : Text) : Bool :=
  (Text.after? "es".toList s).any isEdition ||
    environments.any fun name => (Text.after? name s).any isVersion

def targetList (s : Text) : List Text :=
  ((Text.splitOn ',' s).map Text.strip).filterMap fun target =>
    if target = [] then none else some (Text.lower target)

/-- The targets in a list; the first text that is none is a fault. -/
def targets (list : Option Text) : Except Fault (List Text) :=
  let found := targetList (list.getD [])
  match found.find? fun target => !isTarget target with
  | some target => .error (.setup (.unknownTarget target))
  | none => .ok found

end Minify
end SiteOptimizer
