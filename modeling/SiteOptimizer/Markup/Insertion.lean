import SiteOptimizer.Text.Lines
import SiteOptimizer.Markup.Lexer

/-!
# Inserting lines before closing tags

Lines of markup go in front of the closing tags of a document's head and body. The places are found
in one pass over the tokens of the document as it was. Each insertion moves what stands behind it,
so the offset of a later one is corrected by the length of all that has been inserted before it.

The inserted lines are indented one level deeper than the closing tag, and they end as the
first line of the document does.
-/

namespace SiteOptimizer
namespace Markup

/-- The text with `inserted` at an offset. An offset below zero counts from the end, and one
beyond an end means that end. -/
def insertAt (text inserted : Text) (offset : Int) : Text :=
  let place := (if offset < 0 then text.length + offset else offset).toNat
  text.take place ++ inserted ++ text.drop place

/-- Lines that go in front of a closing tag. -/
structure Insertion where
  offset : Int
  fragment : Text
  /-- The last indent that stands before the closing tag. -/
  indent : Text
  /-- Whether that indent starts the closing tag's own line and stands right before the tag. -/
  hanging : Bool
  deriving DecidableEq, Repr

/-- What one more level adds to an indent: two blanks, or a tab if the indent
does not start with a blank. -/
def deeper (indent : Text) : Text :=
  if indent.head? = some ' ' then [' ', ' '] else ['\t']

def Insertion.block (i : Insertion) (newline : Text) : Text :=
  let lines := (Text.splitLines i.fragment).flatMap fun line =>
    i.indent ++ deeper i.indent ++ line ++ newline
  -- The first line takes over the closing tag's own indent, and the tag gets a new one.
  if i.hanging then lines.drop i.indent.length ++ i.indent else lines

/-- What a pass over the tokens has seen so far. -/
structure Survey where
  indent : Text
  newline : Option Text
  previous : Option Token
  plan : List Insertion
  deriving DecidableEq, Repr

/-- Whether a token is an indent at the start of a line of the document. -/
def startsLine (document : Text) (t : Token) : Bool :=
  t.kind = .indent &&
    (t.offset = 0 ||
      match document[(t.offset - 1).toNat]? with
      | some c => c = '\r' || c = '\n'
      | none => false)

/-- Takes one more token into account; `fragmentFor` gives what goes in front of a closing tag. -/
def Survey.step (document : Text) (fragmentFor : Text → Option Text) (s : Survey)
    (t : Token) : Survey :=
  let s' := { s with previous := some t }
  match t.kind with
  | .indent => { s' with indent := t.value }
  -- The first line end of the document is the one that counts.
  | .newline => { s' with newline := s.newline.or (some t.text) }
  | .tagClose =>
    match fragmentFor t.value with
    | some fragment =>
      let hanging := s.previous.any (startsLine document)
      { s' with plan := s.plan ++ [⟨t.offset, fragment, s.indent, hanging⟩] }
    | none => s'
  | _ => s'

def survey (document : Text) (fragmentFor : Text → Option Text) : Survey :=
  (tokenize document).foldl (Survey.step document fragmentFor) ⟨[], none, none, []⟩

/-- Puts blocks of text at offsets of the document as it was; `shift` is the length of all
that has been inserted before. -/
def insertAll (text : Text) (shift : Int) : List (Int × Text) → Text
  | [] => text
  | (offset, block) :: blocks =>
    insertAll (insertAt text block (offset + shift)) (shift + block.length) blocks

def headClose : Text := "</head>".toList

def bodyClose : Text := "</body>".toList

/-- What goes in front of a closing tag: the one fragment in front of the end of the head, the other
in front of the end of the body, and an empty fragment nowhere. -/
def fragmentFor (headEnd bodyEnd : Text) (tag : Text) : Option Text :=
  if tag = headClose && headEnd ≠ [] then some headEnd
  else if tag = bodyClose && bodyEnd ≠ [] then some bodyEnd
  else none

/-- The document with one fragment in front of every `</head>` and another
in front of every `</body>`. -/
def inject (document headEnd bodyEnd : Text) : Text :=
  let found := survey document (fragmentFor headEnd bodyEnd)
  let newline := found.newline.getD ['\n']
  insertAll document 0 (found.plan.map fun i => (i.offset, i.block newline))

end Markup
end SiteOptimizer
