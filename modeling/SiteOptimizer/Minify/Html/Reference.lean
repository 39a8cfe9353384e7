import SiteOptimizer.Minify.Html.NamedCharacter

/-!
# Character references

A reference stands for a text: by a name or by a code, decimal or to base sixteen. The
semicolon at its end may be missing, but for names that need it. Where values are written back,
an ampersand is written as a reference only where what follows it up to the next one, or up to
the end, could be read as one.
-/

namespace SiteOptimizer
namespace Minify
namespace Html

/-! ## Codes -/

/-- The characters that the codes from 128 to 159 stand for: those that these codes have in the
Latin code page for windows. -/
def windowsLatin : List Nat :=
  [0x20AC, 0x81, 0x201A, 0x192, 0x201E, 0x2026, 0x2020, 0x2021, 0x2C6, 0x2030, 0x160, 0x2039,
    0x152, 0x8D, 0x17D, 0x8F, 0x90, 0x2018, 0x2019, 0x201C, 0x201D, 0x2022, 0x2013, 0x2014, 0x2DC,
    0x2122, 0x161, 0x203A,
   0x153, 0x9D, 0x17E, 0x178]

def isNoCharacter (code : Nat) : Bool :=
  code = 0 || (0xD800 ≤ code && code ≤ 0xDFFF) || 0x10FFFF < code

/-- Whether a code is one of a control character or of none that is ever assigned. -/
def isNoText (code : Nat) : Bool :=
  (1 ≤ code && code ≤ 8) || code = 0xB || (0xE ≤ code && code ≤ 0x1F) || code = 0x7F ||
    (0xFDD0 ≤ code && code ≤ 0xFDEF) || 0xFFFE ≤ code % 0x10000

/-- The text of a code. A code of no character stands for U+FFFD, one of a
control character for nothing. -/
def codeText (code : Nat) : Text :=
  if isNoCharacter code then [Char.ofNat 0xFFFD]
  else if 0x80 ≤ code && code ≤ 0x9F then (windowsLatin[code - 0x80]?).toList.map Char.ofNat
  else if isNoText code then []
  else [Char.ofNat code]

def isHexDigit (c : Char) : Bool :=
  c.isDigit || ('a' ≤ c.toLower && c.toLower ≤ 'f')

def valueOf (base : Nat) (digits : Text) : Nat :=
  digits.foldl (fun n c =>
    base * n + (if c.isDigit then c.toNat - '0'.toNat else c.toLower.toNat - 'a'.toNat + 10)) 0

def skipSemicolon : Text → Text
  | ';' :: s => s
  | s => s

/-- The text that digits to a base stand for, and what follows them. -/
def digits? (base : Nat) (isDigit : Char → Bool) (s : Text) : Option (Text × Text) :=
  match s.span isDigit with
  | ([], _) => none
  | (digits, rest) => some (codeText (valueOf base digits), skipSemicolon rest)

/-! ## Names -/

/-- The longest name at the start of a text that needs no semicolon, and what follows it. In the
list a name stands before its extensions. -/
def openName? (s : Text) : Option (Text × Text) :=
  (openNameList.filterMap fun name => (Text.after? name s).map (name, ·)).getLast?

def name? (s : Text) : Option (Text × Text) :=
  let closed :=
    match s.span Char.isAlphanum with
    | (name, ';' :: rest) => (named? name).map (·, rest)
    | _ => none
  -- A name with its semicolon goes before a shorter one that needs none.
  closed.orElse fun _ => (openName? s).bind fun (name, rest) => (named? name).map (·, rest)

/-! ## Values -/

/-- The text that a reference stands for, and what follows it; the text
starts behind the ampersand. -/
def reference? : Text → Option (Text × Text)
  | '#' :: 'x' :: s | '#' :: 'X' :: s => digits? 16 isHexDigit s
  | '#' :: s => digits? 10 Char.isDigit s
  | s => name? s

def resolveSome : Nat → Text → Text
  | 0, s => s
  | count + 1, s =>
    match s.span (· ≠ '&') with
    | (plain, []) => plain
    | (plain, mark :: s) =>
      plain ++
        match reference? s with
        | some (text, rest) => text ++ resolveSome count rest
        | none => mark :: resolveSome count s

/-- The text with the texts of references in their places. What comes out is not read again. -/
def resolve (s : Text) : Text :=
  resolveSome (s.count '&') s

/-- Whether a text behind an ampersand is all of a reference but for the semicolon. -/
def isOpenReference : Text → Bool
  | '#' :: 'x' :: s | '#' :: 'X' :: s => s.all isHexDigit
  | '#' :: s => s.all Char.isDigit
  | s => s.all Char.isAlphanum

/-- Pieces of a value with an ampersand in front of each. The ampersand becomes a reference where
the piece might be read as one; of an empty piece that holds only at the end. -/
def guardPieces : List Text → Text
  | [] => []
  | piece :: pieces =>
    let guarded := isOpenReference piece && (piece ≠ [] || pieces = [])
    (if guarded then "&amp;".toList else ['&']) ++ piece ++ guardPieces pieces

/-- A value as it is written: ampersands that might start a reference become references. -/
def guardAmpersands (value : Text) : Text :=
  match Text.splitOn '&' value with
  | [] => []
  | first :: pieces => first ++ guardPieces pieces

def escapeName (name : Text) : Text :=
  name.flatMap fun
    | '&' => "&amp;".toList
    | '<' => "&lt;".toList
    | '>' => "&gt;".toList
    | '"' => "&quot;".toList
    | '\'' => "&#x27;".toList
    | c => [c]

/-! ## Laws -/

theorem resolve_of_not_mem {s : Text} (h : '&' ∉ s) : resolve s = s := by
  simp [resolve, List.count_eq_zero.2 h, resolveSome]

theorem guardAmpersands_of_not_mem {value : Text} (h : '&' ∉ value) :
    guardAmpersands value = value := by
  simp [guardAmpersands, Text.splitOn_of_not_mem h, guardPieces]

end Html
end Minify
end SiteOptimizer
