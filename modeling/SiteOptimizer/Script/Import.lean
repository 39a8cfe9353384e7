import SiteOptimizer.Text.Blank
import SiteOptimizer.Text.Word
import SiteOptimizer.Script.Comment

/-!
# Static imports of a module

A static import is an `import` or an `export … from` statement with a quoted specifier. Dynamic
imports and `import.meta` have no such specifier and are not found. Statements are looked for in
the script without its comments, and one that starts inside a literal does not count, though what
it covers is not searched again.
-/

namespace SiteOptimizer
namespace Script

def isNameChar (c : Char) : Bool :=
  Text.isWord c || c = '$'

/-- The characters between the word `import` and the specifier: names,
braces, stars, commas and blanks. -/
def isClauseChar (c : Char) : Bool :=
  isNameChar c || c = '*' || c = '\x7b' || c = '\x7d' || c = ',' || Text.isBlank c

/-- Whether a statement cannot start behind this character, since it would
be part of a longer name. -/
def isJoined (before : Option Char) : Bool :=
  before.any fun c => isNameChar c || c = '.'

def isSpecifierChar (c : Char) : Bool :=
  c ≠ '"' && c ≠ '\'' && c ≠ '\n'

/-- The specifier between quotes at the start of a text, and what follows it. -/
def specifier? : Text → Option (Text × Text)
  | [] => none
  | quote :: s =>
    if quote = '"' || quote = '\'' then
      match s.span isSpecifierChar with
      -- At least one character, and behind it the quote that stands in front.
      | (c :: found, close :: rest) => if close = quote then some (c :: found, rest) else none
      | _ => none
    else none

def fromWord : Text := "from".toList

/-- Whether a text is more than the word `from` at its end. -/
def endsWithFrom (s : Text) : Bool :=
  (Text.before? fromWord s).any (· ≠ [])

/-- What stands from the word `from` on: that word, and a specifier. -/
def fromClause? (s : Text) : Option (Text × Text) :=
  (Text.after? fromWord (s.dropWhile Text.isBlank)).bind fun s =>
    specifier? (s.dropWhile Text.isBlank)

/-- An `import` statement at the start of a text: its specifier and what follows it. Between the
word and the specifier stands nothing, or a clause that ends with the word `from`. -/
def importStatement? (s : Text) : Option (Text × Text) :=
  (Text.after? "import".toList s).bind fun s =>
    let clause := s.takeWhile isClauseChar
    if clause.all Text.isBlank || endsWithFrom (Text.dropEndWhile Text.isBlank clause) then
      specifier? (s.dropWhile isClauseChar)
    else none

/-- What follows the name that a star is exported under; the text starts behind the
star. A name whose last letters are the word `from` may also be read as a shorter
name with that word behind it. -/
def exportedStar? (s : Text) : Option (Text × Text) :=
  match Text.after? "as".toList (s.dropWhile Text.isBlank) with
  | none => fromClause? s
  | some behind =>
    let (space, s) := behind.span Text.isBlank
    let (name, rest) := s.span isNameChar
    if space = [] || name = [] then none
    else
      match fromClause? rest with
      | some found => some found
      | none => if endsWithFrom name then specifier? (rest.dropWhile Text.isBlank) else none

/-- An `export … from` statement at the start of a text: its specifier and what follows it. -/
def exportStatement? (s : Text) : Option (Text × Text) :=
  (Text.after? "export".toList s).bind fun s =>
    match s.dropWhile Text.isBlank with
    | '*' :: s => exportedStar? s
    | '\x7b' :: s =>
      -- Whatever stands between the braces.
      match s.dropWhile (· ≠ '\x7d') with
      | _ :: s => fromClause? s
      | [] => none
    | _ => none

/-- A specifier and the offset at which its statement starts. -/
structure Found where
  offset : Nat
  specifier : Text
  deriving DecidableEq, Repr

/-- The statements of one sort from left to right. `skip` characters still belong to
the last statement; `before` is the character in front of the text, and `offset` counts
the characters in front of it. -/
def occurrences (statement? : Text → Option (Text × Text)) (skip : Nat) (before : Option Char)
    (offset : Nat) : Text → List Found
  | [] => []
  | c :: s =>
    let searchOn (skip : Nat) := occurrences statement? skip (some c) (offset + 1) s
    if 0 < skip then searchOn (skip - 1)
    else if isJoined before then searchOn 0
    else
      match statement? (c :: s) with
      | some (specifier, rest) => ⟨offset, specifier⟩ :: searchOn (s.length - rest.length)
      | none => searchOn 0

def statements (statement? : Text → Option (Text × Text)) (text : Text) : List Found :=
  occurrences statement? 0 none 0 text

/-- The specifiers of the static imports of a script, in the order of the statements. -/
def specifiers (code : Text) : List Text :=
  let stripped := strip code
  let found := statements importStatement? stripped.text ++
    statements exportStatement? stripped.text
  let outside := found.filter fun f => !stripped.inLiteral f.offset
  -- The two sorts of statements have been looked for apart.
  (outside.mergeSort fun a b => a.offset ≤ b.offset).map (·.specifier)

end Script
end SiteOptimizer
