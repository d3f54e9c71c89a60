import BoundSql.Binary64
/-!
# Decimal — the fewest digits that read back, and how they are written

The reals that round to a floating point number form an interval, and the number is written as the decimal of that
interval with the fewest digits.  The search goes through the grids of multiples of a power of ten, coarsest first, and
takes the first that has a point in the interval; of several points it takes the one nearest to the number.  All
arithmetic is exact.

A decimal is written positionally or with an exponent; a `Layout` says which, and whether a whole number keeps a
fraction.  `ofInt` writes an integer.
-/
namespace BoundSql

/-- A decimal number, `significand · 10 ^ exponent`. -/
structure Decimal where
  significand : Nat
  exponent : Int
deriving DecidableEq

namespace Decimal

/-! ## The shortest decimal -/

def digitCount (n : Nat) : Nat := (Nat.toDigits 10 n).length

/-- The exponent of the coarsest grid that can have a point among the reals that round to `m · 2 ^ q`: that of the least
power of ten not below `m · 2 ^ q`, or the one after it. -/
def scale (m : Nat) (q : Int) : Int :=
  let whole := (m <<< q.toNat) >>> (-q).toNat
  if whole = 0 then 1 - digitCount ((1 <<< (-q).toNat) / m) else digitCount whole

/-- The point nearest to `m · 2 ^ q` among the multiples of `10 ^ t` that read back as that number, as the multiplier of
`10 ^ t`.  The interval reaches halfway to the two neighbours and has its ends exactly when `m` is even; it is measured
in quarters of the last place.  Only the two neighbours on the grid need a look. -/
def onGrid (tie : Tie) (m : Nat) (q : Int) (narrowBelow : Bool) (t : Int) : Option Nat :=
  let num := Nat.pow 10 (-t).toNat <<< (q - 2).toNat
  let den := Nat.pow 10 t.toNat <<< (2 - q).toNat
  let value := 4 * m * num
  let low := (4 * m - if narrowBelow then 1 else 2) * num
  let high := (4 * m + 2) * num
  let readsBack (c : Nat) : Bool :=
    if m % 2 = 0 then low ≤ c * den && c * den ≤ high else low < c * den && c * den < high
  [roundDiv tie value den, value / den, value / den + 1].find? readsBack

/-- `m · 2 ^ q` with all its digits. -/
def exact (m : Nat) (q : Int) : Decimal :=
  ⟨(m * Nat.pow 5 (-q).toNat) <<< q.toNat, -(-q).toNat⟩

/-- The decimal with the fewest digits that reads back as `m · 2 ^ q`, and the nearest to it of those.  Seventeen digits
always do; were they not enough, all digits are given. -/
def shortest (tie : Tie) (m : Nat) (q : Int) (narrowBelow : Bool) : Decimal :=
  if m = 0 then ⟨0, 0⟩
  else
    let grids := (List.range 18).map fun (n : Nat) => scale m q - n
    (grids.findSome? fun t => (onGrid tie m q narrowBelow t).map (⟨·, t⟩)).getD (exact m q)

/-! ## Layouts -/

structure Layout where
  /-- The least and the greatest exponent of the leading digit that is written positionally; without bounds all are. -/
  positional : Option (Int × Int)
  /-- Whether a whole number in positional form gets the fraction `.0`. -/
  pointZero : Bool

def digits (d : Decimal) : List Char := Nat.toDigits 10 d.significand

def leadingExponent (d : Decimal) : Int := d.exponent + d.digits.length - 1

/-- An integer in decimal digits, with a minus sign if it is negative. -/
def ofInt : Int → List Char
  | .ofNat n => Nat.toDigits 10 n
  | .negSucc n => '-' :: Nat.toDigits 10 (n + 1)

def minusSign (negative : Bool) : List Char := if negative then ['-'] else []

/-- The decimal without an exponent: zeros fill the places between its digits and the point. -/
def plain (pointZero : Bool) (d : Decimal) : List Char :=
  if 0 ≤ d.exponent then
    d.digits ++ List.replicate d.exponent.toNat '0' ++ if pointZero then ['.', '0'] else []
  else
    let places := d.exponent.natAbs
    let padded := List.replicate (places + 1 - d.digits.length) '0' ++ d.digits
    padded.take (padded.length - places) ++ '.' :: padded.drop (padded.length - places)

/-- The decimal with one digit before the point and a signed exponent. -/
def scientific (d : Decimal) : List Char :=
  let mantissa := match d.digits with
    | c :: e :: rest => c :: '.' :: e :: rest
    | short => short
  let sign := if 0 ≤ d.leadingExponent then '+' else '-'
  mantissa ++ 'e' :: sign :: Nat.toDigits 10 d.leadingExponent.natAbs

def Layout.isPositional (l : Layout) (d : Decimal) : Bool :=
  match l.positional with
  | none => true
  | some (least, greatest) => least ≤ d.leadingExponent && d.leadingExponent ≤ greatest

def Layout.write (l : Layout) (d : Decimal) : List Char :=
  if l.isPositional d then plain l.pointZero d else scientific d

end Decimal
end BoundSql
