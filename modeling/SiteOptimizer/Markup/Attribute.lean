import SiteOptimizer.Markup.Token

/-!
# Attributes of a tag

Behind the token that opens a tag stand the tokens of its attributes. `Attributes.read` takes
them up to the token that ends the tag and not beyond. An attribute without a value has none, and
of an attribute that is repeated the first occurrence counts, as it does in HTML.
-/

namespace SiteOptimizer
namespace Markup

/-- The text without the double quotes around it, if it has both. -/
def unquote : Text → Text
  | '"' :: s => (Text.before? ['"'] s).getD ('"' :: s)
  | s => s

theorem unquote_quoted (s : Text) : unquote ('"' :: s ++ ['"']) = s := by
  have : Text.endsWith ['"'] (s ++ ['"']) = true := by
    simp [Text.endsWith]
  simp [unquote, Text.before?, this]

/-- The attributes of a tag in the order of their first occurrence. -/
abbrev Attributes := List (Text × Option Text)

namespace Attributes

/-- The value of an attribute, if the tag has the attribute and the attribute has a value. -/
def value? (attributes : Attributes) (name : Text) : Option Text :=
  (attributes.lookup name).join

def has (attributes : Attributes) (name : Text) : Bool :=
  (attributes.lookup name).isSome

def setValue (attributes : Attributes) (name value : Text) : Attributes :=
  attributes.map fun a => if a.1 = name then (a.1, some value) else a

/-- Takes the tokens of a tag. `pending` is the attribute that a value would belong to. -/
def readFrom (attributes : Attributes) (pending : Option Text) :
    List Token → Attributes × List Token
  | [] => (attributes, [])
  | t :: tokens =>
    if t.kind.endsTag then (attributes, tokens)
    else if t.kind = .attrName then
      -- The first occurrence counts, and a value behind this one belongs to nothing.
      if attributes.has t.value then readFrom attributes none tokens
      else readFrom (attributes ++ [(t.value, none)]) (some t.value) tokens
    else if t.kind = .attrValue then
      match pending with
      | some name => readFrom (attributes.setValue name (unquote t.value)) none tokens
      | none => readFrom attributes none tokens
    -- White space and an equals sign leave the attribute waiting for its value.
    else readFrom attributes pending tokens

/-- The attributes of the tag whose tokens come next, and the tokens behind the tag. -/
def read (tokens : List Token) : Attributes × List Token :=
  readFrom [] none tokens

theorem length_readFrom_le (tokens : List Token) (attributes : Attributes) (pending : Option Text) :
    (readFrom attributes pending tokens).2.length ≤ tokens.length := by
  induction tokens generalizing attributes pending with
  | nil => simp [readFrom]
  | cons t tokens ih =>
    simp only [readFrom, List.length_cons]
    split
    · exact Nat.le_succ _
    · split
      · split <;> exact Nat.le_succ_of_le (ih ..)
      · split
        · split <;> exact Nat.le_succ_of_le (ih ..)
        · exact Nat.le_succ_of_le (ih ..)

end Attributes

/-- Each tag of a document that one of these names opens, with its attributes; the tokens of such a
tag are not looked at again. -/
def tagsNamed (names : Text → Bool) : List Token → List (Text × Attributes)
  | [] => []
  | t :: tokens =>
    if t.kind = .tagOpen && names t.value then
      (t.value, (Attributes.read tokens).1) :: tagsNamed names (Attributes.read tokens).2
    else tagsNamed names tokens
termination_by tokens => tokens.length
decreasing_by
  · exact Nat.lt_succ_of_le (Attributes.length_readFrom_le ..)
  · simp

end Markup
end SiteOptimizer
