import SiteOptimizer.Text.Word
import SiteOptimizer.Text.Numeral
import SiteOptimizer.Json.Value

/-!
# Reading JSON

The reader takes one value with white space around it. It is strict but for three words: `NaN`,
`Infinity` and `-Infinity` are numbers. Containers may stand one in another only so deep. What is
wrong with a text is told together with its place. Escapes that name half of a surrogate pair
without the other half stand for U+FFFD.
-/

namespace SiteOptimizer
namespace Json

inductive Container where
  | array
  | object
  deriving DecidableEq, Repr

def Container.word : Container → Text
  | .array => "array".toList
  | .object => "object".toList

inductive Problem where
  | byteOrderMark
  | value
  | fieldName
  | colon
  | comma
  | extra
  | unterminated
  | controlCharacter
  | escape
  | unicodeEscape
  /-- An integer with more digits than are read. -/
  | digits (count : Nat)
  /-- A container within more containers than are read. -/
  | depth (container : Container)
  deriving DecidableEq, Repr

structure Flaw where
  problem : Problem
  position : Nat
  line : Nat
  column : Nat
  deriving DecidableEq, Repr

def Problem.message : Problem → Text
  | .byteOrderMark => "Unexpected UTF-8 BOM (decode using utf-8-sig)".toList
  | .value => "Expecting value".toList
  | .fieldName => "Expecting property name enclosed in double quotes".toList
  | .colon => "Expecting ':' delimiter".toList
  | .comma => "Expecting ',' delimiter".toList
  | .extra => "Extra data".toList
  | .unterminated => "Unterminated string starting at".toList
  | .controlCharacter => "Invalid control character at".toList
  | .escape => "Invalid \\escape".toList
  | .unicodeEscape => "Invalid \\uXXXX escape".toList
  | .digits count =>
    "Exceeds the limit (".toList ++ Text.ofNat Text.maxDigits ++
      " digits) for integer string conversion: value has ".toList ++ Text.ofNat count ++
      " digits; use sys.set_int_max_str_digits() to increase the limit".toList
  | .depth container =>
    "maximum recursion depth exceeded while decoding a JSON ".toList ++ container.word ++
      " from a unicode string".toList

/-- The wording of a flaw; one of size is told without a place. -/
def Flaw.message (f : Flaw) : Text :=
  match f.problem with
  | .digits _ | .depth _ => f.problem.message
  | _ =>
    f.problem.message ++ ": line ".toList ++ Text.ofNat f.line ++ " column ".toList ++
      Text.ofNat f.column ++ " (char ".toList ++ Text.ofNat f.position ++ [')']

/-- A problem with an offset, together with the line and the column of the offset. -/
def Flaw.ofPosition (document : Text) (problem : Problem) (position : Nat) : Flaw :=
  let before := document.take position
  { problem, position
    line := before.count '\n' + 1
    column := (before.reverse.takeWhile (· ≠ '\n')).length + 1 }

/-- What is read at the start of a text and what is left, or a problem and
the text from where it is on. -/
abbrev Reading (α : Type) := Except (Problem × Text) (α × Text)

def isSpace (c : Char) : Bool :=
  c = ' ' || c = '\t' || c = '\n' || c = '\r'

def skipSpace (s : Text) : Text :=
  s.dropWhile isSpace

/-! ## Strings -/

def hexDigit? (c : Char) : Option Nat :=
  if '0' ≤ c && c ≤ '9' then some (c.toNat - '0'.toNat)
  else if 'a' ≤ c && c ≤ 'f' then some (c.toNat - 'a'.toNat + 10)
  else if 'A' ≤ c && c ≤ 'F' then some (c.toNat - 'A'.toNat + 10)
  else none

/-- The unit that four digits to base sixteen name, if something follows them. -/
def unit? : Text → Option (Nat × Text)
  | a :: b :: c :: d :: e :: s =>
    match hexDigit? a, hexDigit? b, hexDigit? c, hexDigit? d with
    | some a, some b, some c, some d => some (((a * 16 + b) * 16 + c) * 16 + d, e :: s)
    | _, _, _, _ => none
  | _ => none

def shortEscape? : Char → Option Char
  | '"' => some '"'
  | '\\' => some '\\'
  | '/' => some '/'
  | 'b' => some (Char.ofNat 8)
  | 'f' => some (Char.ofNat 12)
  | 'n' => some '\n'
  | 'r' => some '\r'
  | 't' => some '\t'
  | _ => none

/-- What stands for half of a surrogate pair. -/
def replacement : Char := Char.ofNat 0xFFFD

/-- The character of an escape by code; the text starts behind the letter `u`. -/
def unicodeEscape (s : Text) : Reading Char :=
  match unit? s with
  | none => .error (.unicodeEscape, 'u' :: s)
  | some (high, rest) =>
    if 0xD800 ≤ high && high ≤ 0xDBFF then
      match rest with
      | '\\' :: 'u' :: s' =>
        match unit? s' with
        | none => .error (.unicodeEscape, 'u' :: s')
        | some (low, rest') =>
          if 0xDC00 ≤ low && low ≤ 0xDFFF then
            .ok (Char.ofNat (0x10000 + (high - 0xD800) * 0x400 + (low - 0xDC00)), rest')
          else .ok (replacement, rest)
      -- The other half is missing.
      | _ => .ok (replacement, rest)
    else if 0xDC00 ≤ high && high ≤ 0xDFFF then .ok (replacement, rest)
    else .ok (Char.ofNat high, rest)

/-- The rest of a string that started at `opening`; `read` holds its
characters so far, last one first. -/
def stringFrom (opening : Text) : Nat → Text → Text → Reading Text
  | 0, _, _ => .error (.unterminated, opening)
  | fuel + 1, read, s =>
    match s with
    | [] => .error (.unterminated, opening)
    | '"' :: s => .ok (read.reverse, s)
    | '\\' :: s =>
      match s with
      | [] => .error (.unterminated, opening)
      | 'u' :: s =>
        match unicodeEscape s with
        | .error flaw => .error flaw
        | .ok (c, s) => stringFrom opening fuel (c :: read) s
      | c :: s' =>
        match shortEscape? c with
        | some c => stringFrom opening fuel (c :: read) s'
        | none => .error (.escape, '\\' :: s)
    | c :: s =>
      if c.toNat < 0x20 then .error (.controlCharacter, c :: s)
      else stringFrom opening fuel (c :: read) s

def readString (s : Text) : Reading Text :=
  stringFrom ('"' :: s) (s.length + 1) [] s

/-! ## Numbers -/

def digitsOf (s : Text) : List Nat :=
  s.map fun c => c.toNat - '0'.toNat

/-- The digits of a whole number: a zero alone, or digits of which the first is not zero. -/
def wholeDigits? : Text → Option (Text × Text)
  | '0' :: s => some (['0'], s)
  | c :: s => if Text.isDigit c then some ((c :: s).span Text.isDigit) else none
  | [] => none

/-- The digits behind a point; none of it is taken when no digit follows the point. -/
def fractionDigits : Text → Text × Text
  | '.' :: c :: s => if Text.isDigit c then (c :: s).span Text.isDigit else ([], '.' :: c :: s)
  | s => ([], s)

/-- The exponent behind the letter `e`; none of it is taken when it has no digits. -/
def exponent? : Text → Option (Int × Text)
  | e :: s =>
    if e = 'e' || e = 'E' then
      let (negative, s) :=
        match s with
        | '-' :: s => (true, s)
        | '+' :: s => (false, s)
        | s => (false, s)
      match s.span Text.isDigit with
      | ([], _) => none
      | (digits, rest) =>
        let n : Int := Text.ofDigits (digitsOf digits)
        some (if negative then -n else n, rest)
    else none
  | [] => none

/-- A number behind its sign; `start` is the text from the sign on. -/
def readNumber (start : Text) (negative : Bool) (s : Text) : Reading Json :=
  match wholeDigits? s with
  | none => .error (.value, start)
  | some (whole, s) =>
    let (fraction, s) := fractionDigits s
    match fraction, exponent? s with
    -- Neither a fraction nor an exponent: the number is whole.
    | [], none =>
      if whole.length ≤ Text.maxDigits then
        let n : Int := Text.ofDigits (digitsOf whole)
        .ok (.int (if negative then -n else n), s)
      else .error (.digits whole.length, start)
    | fraction, exponent =>
      let (shift, rest) := exponent.getD (0, s)
      let x := Decimal.nearest (Text.ofDigits (digitsOf (whole ++ fraction)))
        (shift - fraction.length)
      .ok (.float (if negative then -x else x), rest)

/-! ## Values -/

def literals : List (Text × Json) :=
  [("null".toList, .null), ("true".toList, .bool true), ("false".toList, .bool false),
   ("NaN".toList, .float (0.0 / 0.0)), ("Infinity".toList, .float (1.0 / 0.0)),
   ("-Infinity".toList, .float (-1.0 / 0.0))]

def literal? (s : Text) : Option (Json × Text) :=
  literals.findSome? fun (word, value) => (Text.after? word s).map (value, ·)

/-- A value that is neither an array nor an object. -/
def readScalar (s : Text) : Reading Json :=
  match literal? s with
  | some found => .ok found
  | none =>
    match s with
    | '"' :: rest => (readString rest).map fun (text, rest) => (.string text, rest)
    | '-' :: rest => readNumber s true rest
    | _ => readNumber s false s

def maxDepth : Nat := 988

mutual

/-- A value within which `room` containers may stand one in another. -/
def readValue (room : Nat) : Nat → Text → Reading Json
  | 0, s => .error (.value, s)
  | fuel + 1, s =>
    match s with
    | '[' :: rest =>
      if room = 0 then .error (.depth .array, s)
      else
        match skipSpace rest with
        | ']' :: rest => .ok (.array [], rest)
        | rest => (readItems (room - 1) fuel rest).map fun (found, rest) => (.array found, rest)
    | '\x7b' :: rest =>
      if room = 0 then .error (.depth .object, s)
      else
        match skipSpace rest with
        | '\x7d' :: rest => .ok (.object [], rest)
        | rest => (readFields (room - 1) fuel rest).map fun (found, rest) => (ofFields found, rest)
    | s => readScalar s

def readItems (room : Nat) : Nat → Text → Reading (List Json)
  | 0, s => .error (.value, s)
  | fuel + 1, s =>
    match readValue room fuel s with
    | .error flaw => .error flaw
    | .ok (item, rest) =>
      match skipSpace rest with
      | ']' :: rest => .ok ([item], rest)
      | ',' :: rest =>
        (readItems room fuel (skipSpace rest)).map fun (found, rest) => (item :: found, rest)
      | rest => .error (.comma, rest)

def readFields (room : Nat) : Nat → Text → Reading (List (Text × Json))
  | 0, s => .error (.value, s)
  | fuel + 1, s =>
    match s with
    | '"' :: rest =>
      match readString rest with
      | .error flaw => .error flaw
      | .ok (name, rest) =>
        match skipSpace rest with
        | ':' :: rest =>
          match readValue room fuel (skipSpace rest) with
          | .error flaw => .error flaw
          | .ok (found, rest) =>
            match skipSpace rest with
            | '\x7d' :: rest => .ok ([(name, found)], rest)
            | ',' :: rest =>
              (readFields room fuel (skipSpace rest)).map fun (others, rest) =>
                ((name, found) :: others, rest)
            | rest => .error (.comma, rest)
        | rest => .error (.colon, rest)
    | s => .error (.fieldName, s)

end

def parse (document : Text) : Except Flaw Json :=
  let fail (problem : Problem) (rest : Text) : Except Flaw Json :=
    .error (Flaw.ofPosition document problem (document.length - rest.length))
  if document.head? = some (Char.ofNat 0xFEFF) then fail .byteOrderMark document
  else
    match readValue maxDepth (2 * document.length + 2) (skipSpace document) with
    | .error (problem, rest) => fail problem rest
    | .ok (found, rest) =>
      match skipSpace rest with
      | [] => .ok found
      | rest => fail .extra rest

end Json
end SiteOptimizer
