import SiteOptimizer.Text.Pattern
import SiteOptimizer.Text.Word
import SiteOptimizer.Markup.Token

/-!
# Lexing markup

The lexer cuts a document into tokens. It knows where tags, attributes and comments
start and end and nothing more, so malformed markup is never an error: an unterminated
tag or comment runs to the end.

In each mode a list of rules is tried in order. The first rule whose pattern matches gives the token
and the mode behind it. Inside an attribute the rules of the tag come last, so that what is not part
of the attribute is read as part of the tag. Every rule takes at least one character (`Lexer.next`
leaves less behind), and what it takes and what it leaves make up the document.
-/

namespace SiteOptimizer
namespace Markup

open Text (Pattern)

inductive Mode where
  | text
  /-- In a tag, between attributes. -/
  | tag
  /-- In a tag, behind an attribute's name; `expectsValue` tells whether an
  equals sign has followed it. -/
  | attribute (expectsValue : Bool)
  | comment
  deriving DecidableEq, Repr

/-- A kind of token, the pattern of its pieces and the mode behind it. -/
structure Rule where
  kind : Kind
  pattern : Pattern
  next : Mode

/-! ## Classes of characters -/

def isTagName (c : Char) : Bool :=
  Text.isLetter c || Text.isDigit c || c = ':' || c = '-'

def isAttributeName (c : Char) : Bool :=
  !(Text.isBlank c || c = '"' || c = '\'' || c = '<' || c = '>' || c = '/' || c = '=')

def isBareValue (c : Char) : Bool :=
  !(Text.isBlank c || c = '"' || c = '\'' || c = '<' || c = '>' || c = '=' || c = Char.ofNat 0x60)

def isProse (c : Char) : Bool :=
  !(c = '<' || c = '\r' || c = '\n')

/-! ## Patterns -/

/-- The end of a comment together with the white space in front of it. -/
def commentEnd : Pattern :=
  Pattern.inOrder [.run Text.isBlank, .word ['-', '-', '>']]

/-- What stands before the place where a comment ends, and what stands from there on. -/
def splitAtCommentEnd : Text → Text × Text
  | [] => ([], [])
  | c :: s =>
    if (commentEnd.split? (c :: s)).isSome then ([], c :: s)
    else (c :: (splitAtCommentEnd s).1, (splitAtCommentEnd s).2)

theorem splitAtCommentEnd_append (s : Text) :
    (splitAtCommentEnd s).1 ++ (splitAtCommentEnd s).2 = s := by
  induction s with
  | nil => rfl
  | cons c s ih =>
    simp only [splitAtCommentEnd]
    split
    · rfl
    · simp [ih]

/-- The body of a comment: one character, and all that follows up to the
place where the comment ends. -/
def commentBody : Pattern where
  split?
    | [] => none
    | c :: s => some (c :: (splitAtCommentEnd s).1, (splitAtCommentEnd s).2)
  append_eq {s _ _} h := by
    cases s with
    | nil => simp at h
    | cons c s =>
      simp only [Option.some.injEq, Prod.mk.injEq] at h
      rw [← h.1, ← h.2, List.cons_append, splitAtCommentEnd_append]

def quotedValue (quote : Char) : Pattern :=
  Pattern.inOrder [.word [quote], .run (· ≠ quote), .word [quote]]

def attributeValue : Pattern :=
  (quotedValue '"').orElse ((quotedValue '\'').orElse (.someOf isBareValue))

def tagName : List Pattern :=
  [.run Text.isBlank, .one Text.isLetter, .run isTagName]

/-! ## Rules -/

def textRules : List Rule :=
  [⟨.commentStart, .word ['<', '!', '-', '-'], .comment⟩,
   -- A comment starts like a document type, so this rule has to come second.
   ⟨.docType, .inOrder [.word ['<', '!'], .someOf (· ≠ '>'), .word ['>']], .text⟩,
   ⟨.tagClose, .inOrder (.word ['<', '/'] :: tagName ++ [.run Text.isBlank, .word ['>']]), .text⟩,
   ⟨.tagOpen, .inOrder (.word ['<'] :: tagName), .tag⟩,
   ⟨.newline, Pattern.orElse (.word ['\r', '\n']) (.one fun c => c = '\r' || c = '\n'), .text⟩,
   ⟨.indent, .someOf Text.isIndent, .text⟩,
   -- An angle bracket that opens nothing is a text of its own.
   ⟨.text, Pattern.orElse (.word ['<']) (.someOf isProse), .text⟩]

def tagRules : List Rule :=
  [⟨.tagSelfClose, .word ['/', '>'], .text⟩,
   ⟨.tagEnd, .word ['>'], .text⟩,
   ⟨.attrName, .someOf isAttributeName, .attribute false⟩,
   -- What belongs to no attribute: white space in one piece, everything else by the character.
   ⟨.text, Pattern.orElse (.someOf Text.isBlank) (.one fun _ => true), .tag⟩]

def Mode.rules : Mode → List Rule
  | .text => textRules
  | .tag => tagRules
  | .attribute true => ⟨.attrValue, attributeValue, .tag⟩ :: tagRules
  | .attribute false =>
    ⟨.attrAssignment, .inOrder [.run Text.isBlank, .word ['='], .run Text.isBlank],
      .attribute true⟩ ::
      -- White space with no equals sign behind it: the attribute has no value.
      ⟨.attrEnd, .someOf Text.isBlank, .tag⟩ :: tagRules
  | .comment => [⟨.commentEnd, commentEnd, .text⟩, ⟨.commentBody, commentBody, .comment⟩]

/-- The piece that a rule takes, and what it leaves; a rule that would take
nothing does not apply. -/
def Rule.take? (rule : Rule) (s : Text) : Option (Rule × Text × Text) :=
  match rule.pattern.split? s with
  | some (c :: found, rest) => some (rule, c :: found, rest)
  | _ => none

def firstMatch? (rules : List Rule) (s : Text) : Option (Rule × Text × Text) :=
  rules.findSome? (·.take? s)

theorem Rule.append_of_take? {rule r : Rule} {s found rest : Text}
    (h : rule.take? s = some (r, found, rest)) : found ≠ [] ∧ found ++ rest = s := by
  unfold Rule.take? at h
  split at h
  · next heq =>
    simp only [Option.some.injEq, Prod.mk.injEq] at h
    obtain ⟨-, rfl, rfl⟩ := h
    exact ⟨by simp, rule.pattern.append_eq heq⟩
  · simp at h

theorem append_of_firstMatch? {rules : List Rule} {r : Rule} {s found rest : Text}
    (h : firstMatch? rules s = some (r, found, rest)) : found ≠ [] ∧ found ++ rest = s := by
  obtain ⟨rule, -, hr⟩ := List.exists_of_findSome?_eq_some h
  exact Rule.append_of_take? hr

/-! ## The lexer -/

/-- A document from some place on. -/
structure Lexer where
  rest : Text
  offset : Nat
  mode : Mode
  deriving DecidableEq, Repr

namespace Lexer

def ofText (document : Text) : Lexer :=
  ⟨document, 0, .text⟩

def next (l : Lexer) : Option (Token × Lexer) :=
  match firstMatch? l.mode.rules l.rest with
  | none => none
  | some (rule, found, rest) =>
    some (Token.ofPiece rule.kind found l.offset, ⟨rest, l.offset + found.length, rule.next⟩)

theorem append_of_next {l l' : Lexer} {t : Token} (h : l.next = some (t, l')) :
    t.text ≠ [] ∧ t.text ++ l'.rest = l.rest := by
  unfold next at h
  split at h
  · simp at h
  · next heq =>
    simp only [Option.some.injEq, Prod.mk.injEq] at h
    obtain ⟨rfl, rfl⟩ := h
    exact append_of_firstMatch? heq

theorem length_lt_of_next {l l' : Lexer} {t : Token} (h : l.next = some (t, l')) :
    l'.rest.length < l.rest.length := by
  obtain ⟨hne, happ⟩ := append_of_next h
  rw [← happ, List.length_append]
  have := List.length_pos_iff.2 hne
  omega

def tokens (l : Lexer) : List Token :=
  match _h : l.next with
  | none => []
  | some (t, l') => t :: l'.tokens
termination_by l.rest.length
decreasing_by exact length_lt_of_next _h

def advance : Nat → Lexer → Lexer
  | 0, l => l
  | n + 1, l =>
    match l.next with
    | none => l
    | some (_, l') => advance n l'

end Lexer

def tokenize (document : Text) : List Token :=
  (Lexer.ofText document).tokens

end Markup
end SiteOptimizer
