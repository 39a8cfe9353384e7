import SiteOptimizer.Text.Blank
import SiteOptimizer.Script.Comment

/-!
# Minifying scripts

Comments go, and white space goes where nothing would run together without it. A blank stays between
two characters of names, between two plus signs and between two minus signs. A line end stays where
a statement may end in front of it and another one may start behind it. Literals stay as they are,
and so do regular expressions, which are told from divisions by what stands in front of them.
-/

namespace SiteOptimizer
namespace Minify
namespace Js

open Script (templateQuote)

/-! ## Characters -/

def isSpace (c : Char) : Bool :=
  c ≤ ' ' && c ≠ '\n' && c ≠ '\r'

def isLineEnd (c : Char) : Bool :=
  c = '\n' || c = '\r'

/-- The characters of names; beyond ASCII that is every character. -/
def isNameChar (c : Char) : Bool :=
  c.isAlphanum || c = '_' || c = '$' || 0x7F ≤ c.toNat

/-- The characters that are neither white space nor the start of a comment, a literal or a regular
expression. -/
def isDull (c : Char) : Bool :=
  ' ' < c && c ≠ '"' && c ≠ '\'' && c ≠ templateQuote && c ≠ '/'

/-- Whether a statement may end with this character. -/
def mayEnd (c : Char) : Bool :=
  isNameChar c || "\x7d])\"'+-".toList.contains c || c = templateQuote

/-- Whether a statement may start with this character. -/
def mayStart (c : Char) : Bool :=
  isNameChar c || "\x7b[(!+-".toList.contains c

/-- Whether a slash behind this character starts a regular expression. -/
def precedesPattern (c : Char) : Bool :=
  "(,=:[!&|?\x7b\x7d;\r\n+*-".toList.contains c

/-- Whether a line that starts with this character does not go on with the
regular expression in front. -/
def breaksPattern (c : Char) : Bool :=
  ' ' < c && !"\x7d])?:|,;.&=+-".toList.contains c

/-! ## Literals and regular expressions -/

def literalTail (quote : Char) : Text → Option (Text × Text)
  | [] => none
  | c :: s =>
    if c = quote then some ([c], s)
    else if c = '\\' then
      match s with
      -- A line end of two characters goes along as one.
      | '\r' :: '\n' :: s =>
        (literalTail quote s).map fun (t, rest) => (c :: '\r' :: '\n' :: t, rest)
      | d :: s => (literalTail quote s).map fun (t, rest) => (c :: d :: t, rest)
      | [] => none
    else if isLineEnd c && quote ≠ templateQuote then none
    else (literalTail quote s).map fun (t, rest) => (c :: t, rest)

def literal? : Text → Option (Text × Text)
  | c :: s =>
    if c = '"' || c = '\'' || c = templateQuote then
      (literalTail c s).map fun (found, rest) => (c :: found, rest)
    else none
  | [] => none

def classTail : Text → Option (Text × Text)
  | [] => none
  | c :: s =>
    if isLineEnd c then none
    else if c = ']' then some ([c], s)
    else if c = '\\' then
      match s with
      | [] => none
      | d :: s =>
        if isLineEnd d then none else (classTail s).map fun (t, rest) => (c :: d :: t, rest)
    else (classTail s).map fun (t, rest) => (c :: t, rest)

/-- What stands between the slashes of a regular expression, and the closing slash with the
letters behind it. A slash in brackets does not close; `skip` characters still belong to
the last brackets or escape. -/
def patternTail (skip : Nat) : Text → Option (Text × Text)
  | [] => none
  | c :: s =>
    let go (skip : Nat) := (patternTail skip s).map fun (found, rest) => (c :: found, rest)
    if 0 < skip then go (skip - 1)
    else if isLineEnd c then none
    else if c = '/' then
      let (letters, rest) := s.span Char.isLower
      some (c :: letters, rest)
    else if c = '\\' then if s.head?.all isLineEnd then none else go 1
    else if c = '[' then (classTail s).bind fun (found, _) => go found.length
    else go 0

def pattern? : Text → Option (Text × Text)
  | '/' :: c :: s =>
    if c = '/' || c = '*' then none
    else (patternTail 0 (c :: s)).map fun (found, rest) => ('/' :: found, rest)
  | _ => none

/-! ## White space -/

inductive Piece where
  | blank (c : Char)
  | lineEnd (c : Char)
  | comment (s : Text)
  deriving DecidableEq, Repr

def Piece.text : Piece → Text
  | .blank c | .lineEnd c => [c]
  | .comment s => s

def Piece.isComment : Piece → Bool
  | .comment _ => true
  | _ => false

def Piece.isLineEnd : Piece → Bool
  | .lineEnd _ => true
  | _ => false

structure Gap where
  pieces : List Piece
  rest : Text
  deriving DecidableEq, Repr

def Gap.text (gap : Gap) : Text :=
  gap.pieces.flatMap (·.text)

def Gap.ended (gap : Gap) : Bool :=
  gap.pieces.any (·.isLineEnd)

def Gap.add (gap : Gap) (piece : Piece) : Gap :=
  { gap with pieces := piece :: gap.pieces }

/-- The gap up to its last comment, which then follows it. -/
def Gap.beforeComment? (gap : Gap) : Option Gap :=
  match gap.pieces.reverse.span fun piece => !piece.isComment with
  | (_, []) => none
  | (behind, comment :: front) =>
    some ⟨front.reverse, comment.text ++ behind.reverse.flatMap (·.text) ++ gap.rest⟩

/-- How many characters a line comment has, if a line ends behind it. -/
def lineComment? (s : Text) : Option Nat :=
  (Text.after? ['/', '/'] s).bind fun s =>
    let (body, rest) := s.span fun c => !isLineEnd c
    if rest = [] then none else some (body.length + 2)

/-- The blanks and comments at the start of a text, and with `lines` also the ends of lines; `skip`
characters still belong to the last comment. -/
def gapOf (lines : Bool) (skip : Nat) : Text → Gap
  | [] => ⟨[], []⟩
  | c :: s =>
    if 0 < skip then gapOf lines (skip - 1) s
    else if isSpace c then (gapOf lines 0 s).add (.blank c)
    else if lines && isLineEnd c then (gapOf lines 0 s).add (.lineEnd c)
    else
      match Script.blockComment.split? (c :: s), if lines then lineComment? (c :: s) else none with
      | some (found, _), _ => (gapOf lines (found.length - 1) s).add (.comment found)
      | none, some count => (gapOf lines (count - 1) s).add (.comment (c :: s.take (count - 1)))
      | none, none => ⟨[], c :: s⟩

/-! ## Writing -/

structure Step where
  written : Text
  read : Text
  rest : Text

def lineEndIf (there : Bool) : Text :=
  if there then ['\n'] else []

/-- Whether a text that is given last character first ends with the word `return`. -/
def endsWithReturn (before : Text) : Bool :=
  (Text.after? "return".toList.reverse before).any fun rest => rest.head?.any fun c => !isNameChar c

def Gap.breaksPattern (gap : Gap) : Bool :=
  gap.ended && gap.rest.head?.any Js.breaksPattern

/-- The gap behind a regular expression that a line end is written for. A comment behind a line end
does not go on with the regular expression. -/
def breakBehind? (s : Text) : Option Gap :=
  let gap := gapOf true 0 s
  if gap.breaksPattern then some gap else gap.beforeComment?.filter (·.ended)

/-- A regular expression behind white space, with a line end behind it if one is needed there. -/
def patternBehindGap? (keepsLineEnd : Bool) (s : Text) : Option Step :=
  let gap := gapOf true 0 s
  (pattern? gap.rest).map fun (found, rest) =>
    let written := lineEndIf (keepsLineEnd && gap.ended) ++ found
    match breakBehind? rest with
    | some behind => ⟨written ++ ['\n'], gap.text ++ found ++ behind.text, behind.rest⟩
    | none => ⟨written, gap.text ++ found, rest⟩

/-- A regular expression behind a closing bracket, where only a call of one of its
methods tells that it is one. -/
def calledPattern? (s : Text) : Option Step :=
  let gap := gapOf true 0 s
  (pattern? gap.rest).bind fun (found, rest) =>
    match (gapOf true 0 rest).rest with
    | '.' :: next =>
      if (gapOf true 0 next).rest.head?.any Char.isLower then some ⟨found, gap.text ++ found, rest⟩
      else none
    | _ => none

/-- The regular expression that comes next, behind `before`, whose last character comes first. -/
def nextPattern? (before s : Text) : Option Step :=
  match before with
  | [] => none
  | c :: _ =>
    (if c = ')' then calledPattern? s else none).orElse fun _ =>
      (if precedesPattern c then patternBehindGap? false s else none).orElse fun _ =>
        if endsWithReturn before then patternBehindGap? true s else none

def needsBlank (before next : Option Char) : Bool :=
  (before.any isNameChar && next.any isNameChar) || (before = some '+' && next = some '+') ||
    (before = some '-' && next = some '-')

/-- What is left of the white space that comes next, if there is any. -/
def nextGap? (before : Option Char) (s : Text) : Option Step :=
  let gap := gapOf true 0 s
  let blanks := gapOf false 0 s
  if gap.ended && before.any mayEnd && gap.rest.head?.any mayStart then some
    ⟨['\n'], gap.text, gap.rest⟩
  else if blanks.text ≠ [] then
    some ⟨if needsBlank before blanks.rest.head? then [' '] else [], blanks.text, blanks.rest⟩
  else if gap.text ≠ [] then some ⟨[], gap.text, gap.rest⟩
  else none

/-- Writes what comes next behind `before`, whose last character comes first. -/
def step (before : Text) (c : Char) (s : Text) : Step :=
  let plain : Step := ⟨[c], [c], s⟩
  if isDull c then plain
  else
    match literal? (c :: s) with
    | some (found, rest) => ⟨found, found, rest⟩
    | none =>
      match nextPattern? before (c :: s) with
      | some step => step
      | none => (nextGap? before.head? (c :: s)).getD plain

def writeFrom : Nat → Text → Text → Text
  | 0, _, _ => []
  | _ + 1, _, [] => []
  | fuel + 1, before, c :: s =>
    let next := step before c s
    next.written ++ writeFrom fuel (next.read.reverse ++ before) next.rest

def minify (code : Text) : Text :=
  -- The line ends around the script make its start and its end like those of any line.
  Text.strip (writeFrom (code.length + 2) [] ('\n' :: code ++ ['\n']))

end Js
end Minify
end SiteOptimizer
