import SiteOptimizer.Text.Blank

/-!
# Decimal numerals

Every script with decimal digits has ten of them in a row, zero first, so the table of zeros is
enough to read a digit of any script. `integer?` reads a numeral the way a person may type it: with
white space around it, a sign in front and single underscores between digits.
-/

namespace SiteOptimizer
namespace Text

/-- The code points of the digits zero of all scripts of Unicode 14. -/
def zeroDigits : List Nat :=
  [0x30, 0x660, 0x6F0, 0x7C0, 0x966, 0x9E6, 0xA66, 0xAE6, 0xB66, 0xBE6, 0xC66, 0xCE6, 0xD66,
   0xDE6, 0xE50, 0xED0, 0xF20, 0x1040, 0x1090, 0x17E0, 0x1810, 0x1946, 0x19D0, 0x1A80, 0x1A90,
   0x1B50, 0x1BB0, 0x1C40, 0x1C50, 0xA620, 0xA8D0, 0xA900, 0xA9D0, 0xA9F0, 0xAA50, 0xABF0, 0xFF10,
   0x104A0, 0x10D30, 0x11066, 0x110F0, 0x11136, 0x111D0, 0x112F0, 0x11450, 0x114D0, 0x11650,
   0x116C0, 0x11730, 0x118E0, 0x11950, 0x11C50, 0x11D50, 0x11DA0, 0x16A60, 0x16AC0, 0x16B50,
   0x1D7CE, 0x1D7D8, 0x1D7E2, 0x1D7EC, 0x1D7F6, 0x1E140, 0x1E2F0, 0x1E950, 0x1FBF0]

def digitValue? (c : Char) : Option Nat :=
  (zeroDigits.find? fun least => least ≤ c.toNat && c.toNat ≤ least + 9).map (c.toNat - ·)

def isDecimalDigit (c : Char) : Bool :=
  (digitValue? c).isSome

/-- The values of a run of digits in which single underscores may separate neighbours. -/
def digitValues? : Text → Option (List Nat)
  | [] => none
  | [c] => (digitValue? c).map ([·])
  -- Behind an underscore the reading goes on at the digit, so a second underscore fails there.
  | c :: '_' :: d :: s =>
    match digitValue? c, digitValues? (d :: s) with
    | some value, some values => some (value :: values)
    | _, _ => none
  | c :: d :: s =>
    match digitValue? c, digitValues? (d :: s) with
    | some value, some values => some (value :: values)
    | _, _ => none

/-- The number that these decimal digits write, most significant first. -/
def ofDigits (values : List Nat) : Nat :=
  values.foldl (fun n d => 10 * n + d) 0

def maxDigits : Nat := 4300

/-- Whether a character may stand around a numeral: white space, but no information separator. -/
def isNumeralMargin (c : Char) : Bool :=
  isBlank c && !(0x1C ≤ c.toNat && c.toNat ≤ 0x1F)

/-- The integer that a numeral writes; none when it is malformed or has
more than `maxDigits` digits. -/
def integer? (s : Text) : Option Int :=
  match trim isNumeralMargin s with
  | '-' :: s => magnitude? s |>.map fun n => -(n : Int)
  | '+' :: s => magnitude? s |>.map Int.ofNat
  | s => magnitude? s |>.map Int.ofNat
where
  magnitude? (s : Text) : Option Nat :=
    (digitValues? s).bind fun values =>
      if values.length ≤ maxDigits then some (ofDigits values) else none

end Text
end SiteOptimizer
