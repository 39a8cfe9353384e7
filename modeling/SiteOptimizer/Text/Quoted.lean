import SiteOptimizer.Text.Basic
import SiteOptimizer.Text.Printable

/-!
# Quoted texts

A message shows a text between quotes. The quotes are single, unless the text holds a single
quote and no double quote. A backslash goes before the quote in use and before a backslash;
line feed, carriage return and tab have letters, and every other character that is not
printable is written by its code point.
-/

namespace SiteOptimizer
namespace Text

/-- The digits of a number to base sixteen, with zeros in front up to `width` digits. -/
def hex (width n : Nat) : Text :=
  let digits := Nat.toDigits 16 n
  List.replicate (width - digits.length) '0' ++ digits

def quoteFor (s : Text) : Char :=
  if s.contains '\'' && !s.contains '"' then '"' else '\''

/-- One character of a text that stands between these quotes. -/
def quotedChar (quote c : Char) : Text :=
  if c = quote || c = '\\' then ['\\', c]
  else if c = '\n' then ['\\', 'n']
  else if c = '\r' then ['\\', 'r']
  else if c = '\t' then ['\\', 't']
  else if isPrintable c then [c]
  -- The shortest of the three forms that can hold the code point.
  else if c.toNat < 0x100 then '\\' :: 'x' :: hex 2 c.toNat
  else if c.toNat < 0x10000 then '\\' :: 'u' :: hex 4 c.toNat
  else '\\' :: 'U' :: hex 8 c.toNat

def quoted (s : Text) : Text :=
  let quote := quoteFor s
  quote :: s.flatMap (quotedChar quote) ++ [quote]

end Text
end SiteOptimizer
