import SiteOptimizer.Text.Basic
import SiteOptimizer.Decimal.Shortest

/-!
# Writing decimals

A number is written with the fewest digits that identify it: positionally from `10 ^ -4` up to
`10 ^ 16`, with at least one digit on either side of the point, and otherwise with one digit
before the point and a signed exponent of at least two digits. Only the words for what is no
finite number differ between formats.
-/

namespace SiteOptimizer
namespace Decimal

/-- The words for what is no finite number. -/
structure Words where
  nan : Text
  infinity : Text

/-- A decimal with its point: the digits without zeros at the end, behind
them the place of the point. -/
def layout (digits : Text) (point : Int) : Text :=
  if -4 < point ∧ point ≤ 0 then "0.".toList ++ List.replicate (-point).toNat '0' ++ digits
  else if 0 < point ∧ point ≤ 16 then
    let whole := digits.take point.toNat
    let fraction := digits.drop point.toNat
    whole ++ List.replicate (point.toNat - whole.length) '0' ++ '.' ::
      (if fraction = [] then ['0'] else fraction)
  else
    let exponent := point - 1
    let size := Text.ofNat exponent.natAbs
    let mark := if exponent < 0 then '-' else '+'
    digits.take 1 ++ (if digits.length = 1 then [] else '.' :: digits.drop 1) ++
      'e' :: mark :: (List.replicate (2 - size.length) '0' ++ size)

def Scaled.render (d : Scaled) : Text :=
  let digits := Text.ofNat d.digits
  layout digits (digits.length + d.exponent)

def signed (negative : Bool) (s : Text) : Text :=
  if negative then '-' :: s else s

def Real64.render (words : Words) : Real64 → Text
  | .nan => words.nan
  | .infinite negative => signed negative words.infinity
  | .zero negative => signed negative "0.0".toList
  | .finite negative magnitude => signed negative magnitude.shortest.render

def render (words : Words) (x : Float) : Text :=
  (Real64.ofBits x.toBits.toNat).render words

/-- The floating-point number nearest to `digits · 10 ^ exponent`. -/
def nearest (digits : Nat) (exponent : Int) : Float :=
  let magnitude : Int := (Text.ofNat digits).length + exponent
  if digits = 0 || magnitude < -400 then 0.0
  else if magnitude > 400 then 1.0 / 0.0
  else Float.ofScientific digits (exponent < 0) exponent.natAbs

end Decimal
end SiteOptimizer
