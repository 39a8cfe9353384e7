import SiteOptimizer.Minify.Html.Event
import SiteOptimizer.Minify.Html.Written

/-!
# Minifying pages

Comments go, but for those that say that they stay. White space in text shrinks to one blank, and to
none behind another blank. A text of nothing but white space goes if it holds a line end, if it
stands in the head, or if it follows the document type. The title has no white space at its ends.
Attributes lose quotes that they do not need, and an empty value goes altogether, as does a language
that holds anyway. In elements whose text is kept as it is only tags and comments are changed.
-/

namespace SiteOptimizer
namespace Minify
namespace Html

/-- The elements whose text is kept as it is. -/
def keptElements : List Text :=
  ["pre", "textarea", "script", "style"].map String.toList

/-- The attribute that has the text of any element kept as it is. -/
def keepAttribute : Text := "pre".toList

def voidElements : List Text :=
  ["area", "base", "br", "col", "command", "embed", "hr", "img", "input", "keygen", "link", "meta",
    "param", "source", "track", "wbr"].map String.toList

/-! ## Texts -/

/-- The text with one blank for every run of white space. -/
def shrink : Text → Text
  | [] => []
  | c :: s =>
    if isSpace c then if s.head?.any isSpace then shrink s else ' ' :: shrink s
    else c :: shrink s

structure Title where
  fresh : Bool
  /-- White space at the end of the last text of the title has been left out. -/
  owesBlank : Bool
  deriving DecidableEq, Repr

structure Element where
  name : Text
  keepsText : Bool
  lang : Option Text
  deriving DecidableEq, Repr

structure Writer where
  /-- The pieces that have been written, last one first. -/
  pieces : List Text
  /-- The elements that are open, the innermost first. -/
  elements : List Element
  inHead : Bool
  inTitle : Bool
  title : Title
  /-- Behind the document type, where no tag has been opened yet. -/
  afterType : Bool
  deriving DecidableEq, Repr

def Writer.start : Writer := ⟨[], [], false, false, ⟨false, false⟩, false⟩

def Writer.lang (w : Writer) : Option Text :=
  w.elements.head?.bind (·.lang)

def Writer.add (w : Writer) (piece : Text) : Writer :=
  { w with pieces := piece :: w.pieces }

def Writer.keepsText (w : Writer) : Bool :=
  w.elements.any (·.keepsText)

def Writer.endsWithBlank (w : Writer) : Bool :=
  w.pieces.head?.any fun piece => piece.getLast? = some ' '

/-- Writes a blank that a title owes. -/
def Writer.payBlank (w : Writer) : Writer :=
  if w.title.owesBlank then w.add [' '] else w

/-- Writes a text in which white space has been shrunk. -/
def Writer.addShrunk (w : Writer) (s : Text) : Writer :=
  let s := if s.head? = some ' ' && w.endsWithBlank then s.drop 1 else s
  if s = [] then w else w.add s

def Writer.addTitle (w : Writer) (s : Text) : Writer :=
  let paid := w.payBlank
  let kept := Text.dropEndWhile isSpace (if w.title.fresh then s.dropWhile isSpace else s)
  -- Whether the blank is needed shows only when more of the title comes.
  let owesBlank := s.getLast?.any isSpace
  { paid with title := ⟨false, owesBlank⟩ }.addShrunk (shrink kept)

def Writer.addText (w : Writer) (s : Text) : Writer :=
  if w.keepsText then w.add s
  else if s.all isSpace && (w.inHead || w.afterType || s.contains '\n' || s.contains '\r') then w
  else if w.inTitle then w.addTitle s
  else w.addShrunk (shrink s)

/-! ## Elements -/

def outsideParagraphs : List Text :=
  ["address", "article", "aside", "blockquote", "center", "details", "dialog", "dir", "div", "dl",
    "fieldset", "figcaption", "figure", "footer", "form", "h1", "h2", "h3", "h4", "h5", "h6",
    "header", "hgroup", "hr",
   "main", "menu", "nav", "ol", "p", "pre", "section", "table", "ul"].map String.toList

/-- The elements that end an open element of a name where they start. -/
def enders (name : Text) : List Text :=
  match String.ofList name with
  | "li" => ["li".toList]
  | "dd" | "dt" => ["dd", "dt"].map String.toList
  | "rp" | "rt" => ["rp", "rt"].map String.toList
  | "p" => outsideParagraphs
  | "optgroup" => ["optgroup".toList]
  | "option" => ["option", "optgroup"].map String.toList
  | "thead" | "tbody" => ["tbody", "tfoot"].map String.toList
  | "tfoot" => ["tbody".toList]
  | "tr" => ["tr".toList]
  | "td" | "th" => ["td", "th"].map String.toList
  | _ => []

/-- Closes elements up to one of a name; all of them if there is none. -/
def closeUpTo (name : Text) : List Element → List Element
  | [] => []
  | element :: elements => if element.name = name then elements else closeUpTo name elements

/-- The elements that stay open where an element of a name starts: those around the
innermost one that it ends. -/
def stayOpen (name : Text) (elements : List Element) : List Element :=
  match elements.find? fun element => (enders element.name).contains name with
  | some element => closeUpTo element.name elements
  | none => elements

def langWithin (lang : Option Text) (tag : Tag) : Option Text :=
  tag.attributes.foldl (fun inner a => if a.1 = langAttribute && a.2 ≠
    lang then a.2 else inner) lang

def Writer.openTag (w : Writer) (tag : Tag) : Writer :=
  let w := { w with elements := stayOpen tag.name w.elements }
  let keepsText := w.keepsText || keptElements.contains tag.name ||
    tag.attributes.any (·.1 = keepAttribute)
  let inHead := w.inHead || tag.name = "head".toList
  let opensTitle := w.inHead && tag.name = "title".toList
  { w with
    elements := ⟨tag.name, keepsText, langWithin w.lang tag⟩ :: w.elements
    inHead
    inTitle := w.inTitle || opensTitle
    title := if opensTitle then { w.title with fresh := true } else w.title
    afterType := false }.add (writeTag w.lang tag false)

/-- The elements that stay open behind the end of a link. A link with an open paragraph within it is
closed by itself; without a paragraph, nothing is. -/
def closeLink (elements : List Element) : List Element :=
  match elements.span fun element => element.name ≠ ['a'] with
  | (inner, outer) =>
    if !inner.any (·.name = ['p']) then elements
    else if outer = [] then inner.dropLast
    else inner ++ outer.drop 1

/-- Closes an element. An element without content has no closing tag. -/
def Writer.closeTag (w : Writer) (name : Text) : Writer :=
  let closed :=
    if name = ['a'] then { w with elements := closeLink w.elements }
    else
      let endsTitle := name = "title".toList
      { w with
        elements := closeUpTo name w.elements
        inHead := w.inHead && name ≠ "head".toList
        inTitle := w.inTitle && !endsTitle
        title := if endsTitle then { w.title with fresh := false } else w.title }
  if voidElements.contains name then closed
  else closed.add ("</".toList ++ escapeName name ++ ['>'])

/-- Writes the document type. White space that has been written before it goes. -/
def Writer.addDeclaration (w : Writer) (s : Text) : Writer :=
  let pieces :=
    match w.pieces with
    | [piece] => if piece.head?.any isSpace then [] else [piece]
    | pieces => pieces
  { w with pieces, afterType := true }.add ("<!".toList ++ s ++ ['>'])

/-- Writes a comment that stays: one with an exclamation mark in front, which goes, or one with a
condition. -/
def Writer.addComment (w : Writer) (s : Text) : Writer :=
  let comment (s : Text) := w.add ("<!--".toList ++ s ++ "-->".toList)
  match s, Text.after? "[if".toList s with
  | '!' :: s, _ => comment s
  | s, some rest => if rest.head?.any Text.isBlank then comment s else w
  | _, none => w

def Writer.event (w : Writer) : Event → Writer
  | .text s => w.addText s
  | .opening tag =>
    if tag.selfClosing then
      { w with afterType := false }.add (writeTag w.lang tag !(voidElements.contains tag.name))
    else w.openTag tag
  | .closing name => w.closeTag name
  | .comment s => w.addComment s
  | .declaration s => w.addDeclaration s
  | .other s => w.add s

def minify (page : Text) : Except Fault Text :=
  match events page with
  | .ok found => .ok (found.foldl Writer.event .start).pieces.reverse.flatten
  | .error trouble => .error (.badSection trouble)

end Html
end Minify
end SiteOptimizer
