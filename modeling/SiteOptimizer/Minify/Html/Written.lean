import SiteOptimizer.Minify.Html.Tag

/-!
# Tags as they are written

Attributes have as few quotes as they need. An attribute that would run together with the end of the
tag changes places with a better one, and where there is none a blank stands behind it. An attribute
that repeats the language around the element is not written.
-/

namespace SiteOptimizer
namespace Minify
namespace Html

def isSpace (c : Char) : Bool :=
  c = ' ' || c = '\t' || c = '\n' || c = '\r' || c = Char.ofNat 12

/-- How an attribute ends, which decides what can follow it. -/
inductive Finish where
  | quote
  | name
  | slash
  | value
  deriving DecidableEq, Repr

structure Written where
  text : Text
  finish : Finish
  deriving DecidableEq, Repr

def needsQuotes (value : Text) : Bool :=
  value.any fun c => isSpace c || "\"'=<>".toList.contains c || c = Char.ofNat 0x60

def replaceChar (c : Char) (replacement s : Text) : Text :=
  s.flatMap fun d => if d = c then replacement else [d]

/-- An attribute with a value that is not empty, with as few quotes as it needs. A quote of the sort
around a value is written by its code. -/
def writeValue (name value : Text) : Written :=
  let front := name ++ ['=']
  if !needsQuotes value then ⟨front ++ value, if value.getLast? = some '/' then .slash else .value⟩
  else if value.count '\'' < value.count '"' then
    ⟨front ++ '\'' :: replaceChar '\'' "&#39;".toList value ++ ['\''], .quote⟩
  else ⟨front ++ '"' :: replaceChar '"' "&#34;".toList value ++ ['"'], .quote⟩

def writeAttribute (name : Text) (value : Option Text) : Written :=
  match value with
  | none | some [] => ⟨escapeName name, .name⟩
  | some value => writeValue (escapeName name) (guardAmpersands value)

def Finish.needsBlank (closes : Bool) (finish : Finish) : Bool :=
  match finish with
  | .quote => false
  | .slash => true
  | .name | .value => closes

/-- Whether an attribute is one of those that come last by choice. -/
def Finish.endsWell : Finish → Bool
  | .quote | .name => true
  | .slash | .value => false

/-- The attributes with the last one that has a property behind all others. -/
def moveLast (p : Written → Bool) (attributes : List Written) : Option (List Written) :=
  match attributes.reverse.span fun a => !p a with
  | (behind, a :: before) => some (before.reverse ++ behind.reverse ++ [a])
  | (_, []) => none

def needBlank (closes : Bool) (attributes : List Written) : Bool :=
  attributes.getLast?.any (·.finish.needsBlank closes)

/-- The attributes of a tag in an order that ends well, and whether a blank is needed at the end.
An attribute with quotes or without a value is best at the end; one that does not end with a slash
is next best. -/
def arrange (closes : Bool) (attributes : List Written) : List Written × Bool :=
  if !needBlank closes attributes then (attributes, false)
  else
    let moved := (moveLast (·.finish.endsWell) attributes).orElse fun _ =>
      moveLast (·.finish = .value) attributes
    match moved with
    | some moved => if needBlank closes moved then (attributes, true) else (moved, false)
    | none => (attributes, true)

def langAttribute : Text := "lang".toList

/-- The attributes of a tag but for those that repeat the language around it. -/
def neededAttributes (lang : Option Text) (tag : Tag) : List (Text × Option Text) :=
  tag.attributes.filter fun a => a.1 ≠ langAttribute || a.2 ≠ lang

/-- A tag within a language as it is written; `closes` tells whether it says that its element closes
itself. -/
def writeTag (lang : Option Text) (tag : Tag) (closes : Bool) : Text :=
  let written := (neededAttributes lang tag).map fun a => writeAttribute a.1 a.2
  let (attributes, blank) := arrange closes written
  '<' :: escapeName tag.name ++ attributes.flatMap (' ' :: ·.text) ++
    (if blank then [' '] else []) ++ if closes then "/>".toList else ['>']

end Html
end Minify
end SiteOptimizer
