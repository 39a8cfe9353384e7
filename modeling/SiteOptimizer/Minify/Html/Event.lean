import SiteOptimizer.Fault
import SiteOptimizer.Minify.Html.Tag

/-!
# Pages as events

A tolerant reader takes a page apart into texts, tags, comments and declarations. What stands
between markup is one text, references included. What starts like markup and never ends is text. The
contents of scripts and styles are one text up to their closing tag; without one they are lost, and
so is all that follows. The reader rejects nothing but a marked section without a known name.
-/

namespace SiteOptimizer
namespace Minify
namespace Html

inductive Event where
  | text (s : Text)
  | opening (tag : Tag)
  | closing (name : Text)
  | comment (s : Text)
  | declaration (s : Text)
  | other (s : Text)
  deriving DecidableEq, Repr

/-! ## Ends of markup -/

/-- What follows a comment's end, which may have white space in it. -/
def behindCommentEnd? (s : Text) : Option Text :=
  (Text.after? ['-', '-'] s).bind fun s => Text.after? ['>'] (s.dropWhile Text.isBlank)

def isClosingName (c : Char) : Bool :=
  c.isAlphanum || c = '-' || c = '.' || c = ':' || c = '_'

/-- The name of a closing tag that has nothing but its name, and what follows the tag; the
text starts behind the slash. -/
def closingTag? (s : Text) : Option (Text × Text) :=
  match (s.dropWhile Text.isBlank).span isClosingName with
  | (c :: name, rest) =>
    if c.isAlpha then (Text.after? ['>'] (rest.dropWhile Text.isBlank)).map fun rest =>
      (c :: name, rest)
    else none
  | _ => none

/-- What follows the closing tag of an element that stands at the start of a text. -/
def behindElement? (element s : Text) : Option Text :=
  match (Text.after? ['<', '/'] s).bind closingTag? with
  | some (name, rest) => if name.map Char.toLower = element then some rest else none
  | none => none

/-! ## Reading -/

/-- The elements whose contents are taken literally. -/
def literalElements : List Text :=
  ["script", "style"].map String.toList

/-- What a text that starts with markup turns out to be. -/
inductive Markup where
  | event (event : Event) (rest : Text)
  | nothing (rest : Text)
  | unfinished
  | rejected (trouble : SectionTrouble)

/-- Markup that is cut at some place, or unfinished. -/
def Markup.ofCut (event : Text → Event) : Option (Text × Text) → Markup
  | some (s, rest) => .event (event s) rest
  | none => .unfinished

/-- Reads a closing tag; the text starts behind the slash. -/
def readClosing (s : Text) : Markup :=
  if !s.contains '>' then .unfinished
  else
    match closingTag? s, s with
    | some (name, rest), _ => .event (.closing (Text.lower name)) rest
    | none, '>' :: rest => .nothing rest
    | none, c :: _ =>
      if c.isAlpha then
        let rest := (s.dropWhile isTagName).dropWhile (· ≠ '>')
        .event (.closing (Text.lower (s.takeWhile isTagName))) (rest.drop 1)
      else .ofCut .comment (Text.cutAt? ['>'] s)
    | none, [] => .unfinished

inductive SectionEnd where
  | oneBracket
  | twoBrackets
  deriving DecidableEq, Repr

def SectionEnd.ofName? (name : Text) : Option SectionEnd :=
  if ["temp", "cdata", "ignore", "include", "rcdata"].contains
    (String.ofList name) then some .twoBrackets
  else if ["if", "else", "endif"].contains (String.ofList name) then some .oneBracket
  else none

/-- What follows the end of a marked section, which may have white space in it. -/
def SectionEnd.behind? (ending : SectionEnd) (s : Text) : Option Text :=
  let bracket (s : Text) := (Text.after? [']'] s).map (·.dropWhile Text.isBlank)
  let brackets :=
    match ending with
    | .oneBracket => bracket s
    | .twoBrackets => (bracket s).bind bracket
  brackets.bind (Text.after? ['>'])

def isSectionName (c : Char) : Bool :=
  c.isAlphanum || c = '-' || c = '_' || c = '.'

/-- The most characters that a message shows of a marked section without a name. -/
def shownStart : Nat := 20

/-- Reads a marked section; the text starts behind its first bracket. -/
def readSection (s : Text) : Markup :=
  match s with
  | [] => .unfinished
  | c :: _ =>
    if !c.isAlpha then .rejected (.unnamed (("<![".toList ++ s).take shownStart))
    else
      let name := s.takeWhile isSectionName
      let behind := s.dropWhile isSectionName
      -- The name might go on.
      if behind.all Text.isBlank then .unfinished
      else
        match SectionEnd.ofName? (name.map Char.toLower) with
        | none => .rejected (.unknownName (name ++ behind.takeWhile Text.isBlank))
        | some ending =>
          .ofCut (fun s => .other ("<![".toList ++ s ++ "]>".toList))
            (Text.search? ending.behind? s)

/-- Reads a declaration; the text starts behind the exclamation mark. -/
def readDeclaration (s : Text) : Markup :=
  if Text.startsWith "doctype".toList ((s.take 7).map Char.toLower) then
    match Text.cutAt? ['>'] (s.drop 7) with
    | some (behind, rest) => .event (.declaration (s.take 7 ++ behind)) rest
    | none => .unfinished
  else
    match Text.after? ['-', '-'] s, s with
    | some s, _ => .ofCut .comment (Text.search? behindCommentEnd? s)
    | none, '[' :: s => readSection s
    | none, s => .ofCut .comment (Text.cutAt? ['>'] s)

/-- Reads markup of at most so many attributes; the text starts behind the angle bracket. -/
def readMarkup (limit : Nat) (s : Text) : Markup :=
  match s with
  | '/' :: s => readClosing s
  | '!' :: s => readDeclaration s
  | '?' :: s => .ofCut (fun s => .other ("<?".toList ++ s ++ ['>'])) (Text.cutAt? ['>'] s)
  | [] => .unfinished
  | c :: _ =>
    if c.isAlpha then
      match readTag limit s with
      | .tag tag rest => .event (.opening tag) rest
      | .odd s rest => .event (.text s) rest
      | .unfinished => .unfinished
    -- No name can start here, so the angle bracket is text.
    else .event (.text ['<']) s

/-- Markup that never ends, as text: up to the next closing angle bracket
or the next opening one. -/
def unfinishedText (s : Text) : Text × Text :=
  match Text.cutAt? ['>'] s with
  | some (before, rest) => ('<' :: before ++ ['>'], rest)
  | none =>
    match s.span (· ≠ '<') with
    | (before, c :: rest) => ('<' :: before, c :: rest)
    | (_, []) => (['<'], s)

/-- Adds a text behind events, the last of which stands first, unless it is empty. -/
def addText (s : Text) (found : List Event) : List Event :=
  if s = [] then found else .text s :: found

/-- Reads a page from between markup on, up to so many pieces of markup. The events found so far,
and all events in the end, have the last one first. -/
def readFrom : Nat → List Event → Text → Except SectionTrouble (List Event)
  | 0, found, _ => .ok found
  | fuel + 1, found, s =>
    let (before, s) := s.span (· ≠ '<')
    let found := addText before found
    match s with
    | [] => .ok found
    | _ :: s =>
      match readMarkup fuel s with
      | .nothing rest => readFrom fuel found rest
      | .event (.opening tag) rest =>
        if literalElements.contains tag.name && !tag.selfClosing then
          match Text.search? (behindElement? tag.name) rest with
          | some (content, rest) =>
            readFrom fuel (.closing tag.name :: addText content (.opening tag :: found)) rest
          -- The literal contents never end, and all of the rest is lost.
          | none => .ok (.opening tag :: found)
        else readFrom fuel (.opening tag :: found) rest
      | .event event rest => readFrom fuel (event :: found) rest
      | .unfinished =>
        let (text, rest) := unfinishedText s
        readFrom fuel (.text text :: found) rest
      | .rejected trouble => .error trouble

def events (page : Text) : Except SectionTrouble (List Event) :=
  (readFrom (page.length + 1) [] page).map List.reverse

end Html
end Minify
end SiteOptimizer
