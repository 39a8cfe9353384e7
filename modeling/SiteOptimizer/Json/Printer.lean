import SiteOptimizer.Json.Value

/-!
# Writing JSON

A document is written in ASCII with one item or field a line, two blanks deeper than the
bracket around it. Characters beyond ASCII are written by their 16-bit units, and an empty
array or object stays on its line.
-/

namespace SiteOptimizer
namespace Json

/-- The words for what is no finite number. -/
def documentWords : Decimal.Words := ⟨"NaN".toList, "Infinity".toList⟩

/-- An escape by code of one 16-bit unit. -/
def unitEscape (n : Nat) : Text :=
  '\\' :: 'u' :: Text.hex 4 n

def escaped (c : Char) : Text :=
  if c = '"' || c = '\\' then ['\\', c]
  else if c = '\n' then ['\\', 'n']
  else if c = '\r' then ['\\', 'r']
  else if c = '\t' then ['\\', 't']
  else if c = Char.ofNat 12 then ['\\', 'f']
  else if c = Char.ofNat 8 then ['\\', 'b']
  else if ' ' ≤ c && c ≤ '~' then [c]
  else if c.toNat < 0x10000 then unitEscape c.toNat
  else
    -- Two units beyond the first plane.
    let n := c.toNat - 0x10000
    unitEscape (0xD800 + n / 0x400) ++ unitEscape (0xDC00 + n % 0x400)

def renderString (s : Text) : Text :=
  '"' :: s.flatMap escaped ++ ['"']

def lineAt (depth : Nat) : Text :=
  '\n' :: List.replicate (2 * depth) ' '

/-- Lines between two brackets, each at one level deeper than the brackets. -/
def bracketed (opening closing : Char) (depth : Nat) (lines : List Text) : Text :=
  if lines.isEmpty then [opening, closing]
  else
    opening :: lineAt (depth + 1) ++ Text.join (',' :: lineAt (depth + 1)) lines ++
      lineAt depth ++ [closing]

mutual

/-- A value whose first character stands at a depth. -/
def renderAt (depth : Nat) : Json → Text
  | .null => "null".toList
  | .bool true => "true".toList
  | .bool false => "false".toList
  | .int n => Text.ofInt n
  | .float x => Decimal.render documentWords x
  | .string s => renderString s
  | .array items => bracketed '[' ']' depth (renderItems (depth + 1) items)
  | .object fields => bracketed '\x7b' '\x7d' depth (renderFields (depth + 1) fields)

def renderItems (depth : Nat) : List Json → List Text
  | [] => []
  | item :: items => renderAt depth item :: renderItems depth items

def renderFields (depth : Nat) : List (Text × Json) → List Text
  | [] => []
  | (name, value) :: fields =>
    (renderString name ++ ':' :: ' ' :: renderAt depth value) :: renderFields depth fields

end

def render (value : Json) : Text :=
  renderAt 0 value ++ ['\n']

end Json
end SiteOptimizer
