/-!
# Binary64 — floating point numbers by their bits

A number is its 64 bits: a sign, eleven bits of exponent, fifty-two of fraction.  `unpack` reads them as a NaN, an
infinity or `± significand · 2 ^ exponent`; `ofScaled` goes the other way, to the nearest number, and gives the exact
widening of a 32-bit number and the rounding of a 64-bit integer.  `=` tells bits apart, `==` compares as numbers: no
NaN equals anything, and the two zeros are equal.
-/
namespace BoundSql

/-! ## Rounding -/

/-- Where a value halfway between two neighbours goes. -/
inductive Tie where
  | toEven
  | up
deriving DecidableEq

/-- `num / den` to the nearest natural number. -/
def roundDiv (tie : Tie) (num den : Nat) : Nat :=
  match compare (2 * (num % den)) den, tie with
  | .lt, _ => num / den
  | .gt, _ => num / den + 1
  | .eq, .up => num / den + 1
  | .eq, .toEven => num / den + num / den % 2

/-! ## Numbers -/

/-- A floating point number, held as its 64 bits. -/
structure Binary64 where
  bits : UInt64
deriving DecidableEq, Inhabited

/-- A floating point number of half the width, held as its 32 bits. -/
structure Binary32 where
  bits : UInt32
deriving DecidableEq, Inhabited

namespace Binary64

/-- What the bits stand for.  A finite number is `± significand · 2 ^ exponent`; `narrowBelow` says that its neighbour
toward zero is only half as far away as the one on the other side. -/
inductive Unpacked where
  | nan
  | infinite (negative : Bool)
  | finite (negative : Bool) (significand : Nat) (exponent : Int) (narrowBelow : Bool)
deriving DecidableEq

def negative (x : Binary64) : Bool := x.bits >>> 63 = 1

/-- The eleven bits of exponent. -/
def exponentField (x : Binary64) : Nat := ((x.bits >>> 52) &&& 0x7FF).toNat

/-- The fifty-two bits of fraction. -/
def fraction (x : Binary64) : Nat := (x.bits &&& 0xFFFFFFFFFFFFF).toNat

/-- The number that the bits stand for.  The least exponent field holds the subnormal numbers, which have no leading
one; the greatest holds the infinities and the NaNs. -/
def unpack (x : Binary64) : Unpacked :=
  if x.exponentField = 2047 then
    if x.fraction = 0 then .infinite x.negative else .nan
  else if x.exponentField = 0 then .finite x.negative x.fraction (-1074) false
  else .finite x.negative ((1 <<< 52) + x.fraction) (x.exponentField - 1075)
    (x.fraction = 0 && x.exponentField != 1)

def isNaN (x : Binary64) : Bool := x.exponentField = 2047 && x.fraction != 0

def isZero (x : Binary64) : Bool := x.exponentField = 0 && x.fraction = 0

/-- Equality of numbers, not of bits. -/
instance : BEq Binary64 where
  beq x y := !x.isNaN && !y.isNaN && (x.bits = y.bits || (x.isZero && y.isZero))

def signBit (negative : Bool) : Nat := if negative then 1 <<< 63 else 0

/-- The number nearest to `± m · 2 ^ q`, for `m · 2 ^ q` zero or within the range of the normal numbers.  A carry out of
the fraction moves into the exponent, which is the right number. -/
def ofScaled (negative : Bool) (m : Nat) (q : Int) : Binary64 :=
  let magnitude :=
    if m = 0 then 0
    else
      let top := m.log2
      let significand := if top ≤ 52 then m <<< (52 - top) else roundDiv .toEven m (1 <<< (top - 52))
      ((q + top + 1022).toNat <<< 52) + significand
  ⟨.ofNat (signBit negative + magnitude)⟩

def ofInt64 (i : Int64) : Binary64 := ofScaled (i < 0) i.toInt.natAbs 0

/-- The same number, widened.  A NaN keeps its fraction. -/
def ofBinary32 (x : Binary32) : Binary64 :=
  let negative : Bool := x.bits >>> 31 = 1
  let field : Nat := ((x.bits >>> 23) &&& 0xFF).toNat
  let fraction : Nat := (x.bits &&& 0x7FFFFF).toNat
  if field = 255 then ⟨.ofNat (signBit negative + (2047 <<< 52) + (fraction <<< 29))⟩
  else if field = 0 then ofScaled negative fraction (-149)
  else ofScaled negative ((1 <<< 23) + fraction) ((field : Int) - 150)

end Binary64
end BoundSql
