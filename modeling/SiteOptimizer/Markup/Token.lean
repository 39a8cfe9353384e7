import SiteOptimizer.Text.Lowercase
import SiteOptimizer.Text.Blank
import SiteOptimizer.Text.Quoted

/-!
# Markup tokens

A token is a piece of a document together with its kind, its offset and a value: the same piece in a
form that does not depend on spelling. Names are lower-cased, white space goes where markup allows
it, and an attribute value always stands in double quotes.
-/

namespace SiteOptimizer
namespace Markup

inductive Kind where
  | tagOpen
  | tagClose
  | tagSelfClose
  | tagEnd
  | docType
  | commentStart
  | commentEnd
  | commentBody
  | attrName
  | attrAssignment
  | attrValue
  | attrEnd
  | indent
  | newline
  | text
  /-- A kind that the lexer does not find, by its name. -/
  | custom (name : Text)
  deriving DecidableEq, Repr

/-- Every kind that the lexer finds, once. -/
def Kind.standard : List Kind :=
  [.tagOpen, .tagClose, .tagSelfClose, .tagEnd, .docType, .commentStart, .commentEnd, .commentBody,
   .attrName, .attrAssignment, .attrValue, .attrEnd, .indent, .newline, .text]

def Kind.name : Kind → Text
  | .tagOpen => "tag_open".toList
  | .tagClose => "tag_close".toList
  | .tagSelfClose => "tag_self_close".toList
  | .tagEnd => "tag_end".toList
  | .docType => "doc_type".toList
  | .commentStart => "comment_start".toList
  | .commentEnd => "comment_end".toList
  | .commentBody => "comment_body".toList
  | .attrName => "attr_name".toList
  | .attrAssignment => "attr_assignment".toList
  | .attrValue => "attr_value".toList
  | .attrEnd => "attr_end".toList
  | .indent => "indent".toList
  | .newline => "newline".toList
  | .text => "text".toList
  | .custom name => name

def Kind.ofName (name : Text) : Kind :=
  (Kind.standard.find? (·.name = name)).getD (.custom name)

theorem Kind.name_ofName (name : Text) : (Kind.ofName name).name = name := by
  unfold Kind.ofName
  cases h : Kind.standard.find? (·.name = name) with
  | none => rfl
  | some kind => simpa using List.find?_some h

/-- Whether a token of this kind ends the tag that the last opening token began. -/
def Kind.endsTag (kind : Kind) : Bool :=
  kind = .tagEnd || kind = .tagSelfClose

structure Token where
  kind : Kind
  text : Text
  /-- The piece in canonical form. -/
  value : Text
  /-- How many characters stand before the piece. -/
  offset : Int
  /-- Whether the piece holds a carriage return or a line feed. -/
  lineBreaks : Bool
  deriving DecidableEq, Repr

/-- The text without the quotes around it, if the same quote stands at both ends. -/
def withoutQuotes : Text → Text
  | [] => []
  | c :: s => if c = '"' || c = '\'' then (Text.before? [c] s).getD (c :: s) else c :: s

def Kind.normalize : Kind → Text → Text
  -- The angle bracket goes.
  | .tagOpen, s => Text.lower (Text.withoutBlanks (s.drop 1))
  | .tagClose, s => Text.lower (Text.withoutBlanks s)
  | .attrName, s => Text.lower s
  | .attrAssignment, s => Text.strip s
  -- Whatever the quotes were, and also without any.
  | .attrValue, s => '"' :: withoutQuotes (Text.strip s) ++ ['"']
  | _, s => s

namespace Token

def ofPiece (kind : Kind) (text : Text) (offset : Int) : Token where
  kind := kind
  text := text
  value := kind.normalize text
  offset := offset
  lineBreaks := text.contains '\n' || text.contains '\r'

def endOffset (t : Token) : Int :=
  t.offset + t.text.length

/-- Whether two tokens are the same piece of a document in the same place. -/
def agrees (a b : Token) : Bool :=
  a.kind = b.kind && a.text = b.text && a.value = b.value && a.offset = b.offset

/-- The token as messages show it; the value appears only where it differs from the text. -/
def render (t : Token) : Text :=
  let head := '<' :: t.kind.name ++ '@' :: Text.ofInt t.offset ++ ' ' :: Text.quoted t.text
  if t.value = t.text then head ++ ['>']
  else head ++ " -> ".toList ++ Text.quoted t.value ++ ['>']

end Token

end Markup
end SiteOptimizer
