import SiteOptimizer.Text.Blank
import SiteOptimizer.Text.Lowercase
import SiteOptimizer.Minify.Html.Reference

/-!
# Opening tags of pages

An opening tag as a tolerant reader of pages sees it: a name, attributes in order with repeats,
and the mark of an element that closes itself. Attributes need no more between them than a slash
or the quote of a value. A tag that ends too early or goes on with something odd is no tag.
References in values stand for their texts.
-/

namespace SiteOptimizer
namespace Minify
namespace Html

structure Tag where
  name : Text
  attributes : List (Text × Option Text)
  selfClosing : Bool
  deriving DecidableEq, Repr

def isTagName (c : Char) : Bool :=
  !(c = '\t' || c = '\n' || c = '\r' || c = Char.ofNat 12 || c = ' ' || c = '/' || c =
    '>' || c = Char.ofNat 0)

def isBareValue (c : Char) : Bool :=
  !(Text.isBlank c || c = '>')

/-- The text behind white space and slashes that do not end the tag. -/
def skipBetween : Text → Text
  | [] => []
  | c :: s =>
    if Text.isBlank c || (c = '/' && s.head? ≠ some '>') then skipBetween s else c :: s

def startsBetween : Text → Bool
  | [] => false
  | c :: s => Text.isBlank c || (c = '/' && s.head? ≠ some '>')

def isQuote (c : Char) : Bool :=
  c = '"' || c = '\''

/-- An attribute's value: none, one between quotes, or one without. -/
inductive Value where
  | none
  | quoted (text : Text)
  | bare (text : Text)
  deriving DecidableEq, Repr

def Value.text? : Value → Option Text
  | .none => Option.none
  | .quoted text | .bare text => some text

/-- The value behind an attribute's name, and what follows it. A quote that
is never closed is no value. -/
def readValue (s : Text) : Value × Text :=
  match (s.dropWhile Text.isBlank).span (· = '=') with
  | ([], _) => (.none, s)
  | (marks, behind) =>
    match behind.dropWhile Text.isBlank with
    | [] => (.bare [], [])
    | c :: rest =>
      if isQuote c then
        match rest.span (· ≠ c) with
        | (value, _ :: rest) => (.quoted value, rest)
        | (_, []) =>
          -- The quote is never closed. With white space in front of it the value is empty, and the
          -- quote starts what comes next.
          if behind.head? ≠ some c then (.bare [], ' ' :: c :: rest)
          else if marks.length < 2 then (.none, s)
          -- Of several equals signs the last belongs to the value, which then has no quotes.
          else (.bare ('=' :: behind.takeWhile isBareValue), behind.dropWhile isBareValue)
      else (.bare ((c :: rest).takeWhile isBareValue), (c :: rest).dropWhile isBareValue)

def isAttributeName (c : Char) : Bool :=
  !(Text.isBlank c || c = '/' || c = '=' || c = '>')

/-- The attributes at the start of a text and what follows them. The first one needs something in
front that sets it `apart`. -/
def readAttributes : Nat → Bool → Text → List (Text × Option Text) × Text
  | 0, _, s => ([], s)
  | _ + 1, _, [] => ([], [])
  | fuel + 1, apart, c :: s =>
    if !apart || c = '/' || c = '>' || Text.isBlank c then ([], c :: s)
    else
      let name := c :: s.takeWhile isAttributeName
      let (value, behind) := readValue (s.dropWhile isAttributeName)
      let closed :=
        match value with
        | .none => name.getLast?.any isQuote
        | .quoted _ => true
        | .bare _ => false
      let (attributes, rest) :=
        readAttributes fuel (closed || startsBetween behind) (skipBetween behind)
      ((Text.lower name, value.text?.map resolve) :: attributes, rest)

/-- What a text that starts like an opening tag turns out to be. -/
inductive Opening where
  | tag (tag : Tag) (rest : Text)
  /-- Text that is no tag, up to what does not belong in a tag. -/
  | odd (text rest : Text)
  | unfinished

/-- Reads an opening tag of at most so many attributes; the text starts at its name. -/
def readTag (limit : Nat) (s : Text) : Opening :=
  let name := s.takeWhile isTagName
  let behind := s.dropWhile isTagName
  let apart := startsBetween behind || name.getLast?.any isQuote
  let (attributes, rest) := readAttributes limit apart (skipBetween behind)
  let tag (selfClosing : Bool) : Tag := ⟨Text.lower name, attributes, selfClosing⟩
  match rest with
  | [] => .unfinished
  | '>' :: rest => .tag (tag false) rest
  | '/' :: '>' :: rest => .tag (tag true) rest
  | c :: _ =>
    if c.isAlpha || c = '=' || c = '/' then .unfinished
    else .odd ('<' :: s.take (s.length - rest.length)) rest

end Html
end Minify
end SiteOptimizer
