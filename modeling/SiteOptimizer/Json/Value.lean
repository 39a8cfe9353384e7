import SiteOptimizer.Text.Quoted
import SiteOptimizer.Decimal.Notation

/-!
# JSON values

A number without a fraction and an exponent is an integer of any size, every other number a
floating-point number. An object keeps its fields in the order in which their names first appear.
-/

namespace SiteOptimizer

inductive Json where
  | null
  | bool (value : Bool)
  | int (value : Int)
  | float (value : Float)
  | string (value : Text)
  | array (items : List Json)
  | object (fields : List (Text × Json))
  deriving Inhabited

namespace Json

/-- The fields with one more: a field of the same name gets the new value and keeps its place. -/
def putField (fields : List (Text × Json)) (name : Text) (value : Json) : List (Text × Json) :=
  match fields with
  | [] => [(name, value)]
  | field :: fields =>
    if field.1 = name then (name, value) :: fields else field :: putField fields name value

/-- The object of these fields, where the last value of a name counts. -/
def ofFields (fields : List (Text × Json)) : Json :=
  .object (fields.foldl (fun found field => putField found field.1 field.2) [])

def field? : Json → Text → Option Json
  | .object fields, name => fields.lookup name
  | _, _ => none

/-! ## Values in messages -/

/-- The words of messages for what is no finite number. -/
def messageWords : Decimal.Words := ⟨"nan".toList, "inf".toList⟩

def commaSeparated (items : List Text) : Text :=
  Text.join ", ".toList items

mutual

def display : Json → Text
  | .null => "None".toList
  | .bool true => "True".toList
  | .bool false => "False".toList
  | .int n => Text.ofInt n
  | .float x => Decimal.render messageWords x
  | .string s => Text.quoted s
  | .array items => '[' :: commaSeparated (displayItems items) ++ [']']
  | .object fields => '\x7b' :: commaSeparated (displayFields fields) ++ ['\x7d']

def displayItems : List Json → List Text
  | [] => []
  | item :: items => display item :: displayItems items

def displayFields : List (Text × Json) → List Text
  | [] => []
  | (name, value) :: fields =>
    (Text.quoted name ++ ':' :: ' ' :: display value) :: displayFields fields

end

end Json
end SiteOptimizer
