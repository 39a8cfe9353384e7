/-!
# The shortest decimal of a binary number

A binary number stands for all reals that round to it. `Dyadic.shortest` selects, in exact
arithmetic, the decimal with the fewest digits among those reals, and of two such decimals
the nearer one. The reals that round to `m · 2 ^ q` reach halfway to the neighbours on
either side, ends included exactly when `m` is even, and the gap below a power of two is
only half as wide as the one above.
-/

namespace SiteOptimizer
namespace Decimal

/-- The positive number `mantissa · 2 ^ exponent`. -/
structure Dyadic where
  mantissa : Nat
  exponent : Int
  /-- Whether the gap to the next number below is half as wide as the gap above. -/
  narrowBelow : Bool
  deriving DecidableEq, Repr

/-- What the bits of a floating-point number stand for. -/
inductive Real64 where
  | nan
  | infinite (negative : Bool)
  | zero (negative : Bool)
  | finite (negative : Bool) (magnitude : Dyadic)
  deriving DecidableEq, Repr

/-- Reads the sign, the exponent and the fraction of 64 bits. -/
def Real64.ofBits (bits : Nat) : Real64 :=
  let negative := decide (1 <<< 63 ≤ bits)
  let exponent : Nat := (bits >>> 52) % (1 <<< 11)
  let fraction : Nat := bits % (1 <<< 52)
  if exponent = 2047 then if fraction = 0 then .infinite negative else .nan
  else if exponent = 0 then
    -- Without the leading bit: these are as far apart as the numbers right above them.
    if fraction = 0 then .zero negative else .finite negative ⟨fraction, -1074, false⟩
  else .finite negative ⟨(1 <<< 52) + fraction, (exponent : Int) - 1075,
    fraction = 0 && exponent ≠ 1⟩

structure Scaled where
  digits : Nat
  exponent : Int
  deriving DecidableEq, Repr

/-- Compares `a · 2 ^ p` with `b · 10 ^ k`, all as whole numbers. -/
def compareScaled (a : Nat) (p : Int) (b : Nat) (k : Int) : Ordering :=
  compare ((a <<< p.toNat) * Nat.pow 10 (-k).toNat) ((b <<< (-p).toNat) * Nat.pow 10 k.toNat)

/-- Whether a decimal is one of the reals that round to the number. -/
def Dyadic.readsBack (x : Dyadic) (d : Scaled) : Bool :=
  let below := compareScaled (4 * x.mantissa - if x.narrowBelow then 1 else 2)
    (x.exponent - 2) d.digits d.exponent
  let above := compareScaled (4 * x.mantissa + 2) (x.exponent - 2) d.digits d.exponent
  let inclusive := x.mantissa % 2 = 0
  (below = .lt || (below = .eq && inclusive)) && (above = .gt || (above = .eq && inclusive))

/-- The least `k` with `x < 10 ^ k` among `k` and the next `tries` integers. -/
def Dyadic.pointFrom (x : Dyadic) : Nat → Int → Int
  | 0, k => k
  | tries + 1, k =>
    if compareScaled x.mantissa x.exponent 1 k = .lt then k else x.pointFrom tries (k + 1)

/-- The place of the decimal point: the number lies below `10 ^ k` and not below `10 ^ (k - 1)`. -/
def Dyadic.point (x : Dyadic) : Int :=
  x.pointFrom 640 (-324)

def Dyadic.quotient (x : Dyadic) (k : Int) : Nat :=
  (x.mantissa <<< x.exponent.toNat) * Nat.pow 10 (-k).toNat /
    (Nat.pow 10 k.toNat <<< (-x.exponent).toNat)

/-- Of the two neighbours of the number on the grid of multiples of `10 ^ k`, the nearest that reads
back. On a tie the even one is taken. -/
def Dyadic.onGrid? (x : Dyadic) (k : Int) : Option Scaled :=
  let low := x.quotient k
  let a : Scaled := ⟨low, k⟩
  let b : Scaled := ⟨low + 1, k⟩
  match x.readsBack a, x.readsBack b with
  | false, false => none
  | true, false => some a
  | false, true => some b
  | true, true =>
    match compareScaled (2 * x.mantissa) x.exponent (2 * low + 1) k with
    | .lt => some a
    | .gt => some b
    | .eq => some (if low % 2 = 0 then a else b)

def Scaled.stripZeros : Nat → Scaled → Scaled
  | 0, d => d
  | fuel + 1, d =>
    if d.digits ≠ 0 && d.digits % 10 = 0 then stripZeros fuel ⟨d.digits / 10, d.exponent + 1⟩ else d

/-- The decimal with the fewest digits that reads back as the number. -/
def Dyadic.shortest (x : Dyadic) : Scaled :=
  let point := x.point
  -- Seventeen digits always read back.
  let found := (List.range 17).findSome? fun n => x.onGrid? (point - (n + 1 : Nat))
  Scaled.stripZeros 18 (found.getD ⟨x.quotient (point - 17), point - 17⟩)

end Decimal
end SiteOptimizer
