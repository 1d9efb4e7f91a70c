/-! Sixty-four-bit binary floating point, seen as bits. Every finite value is a whole number of
units of 2 ^ -1074, so comparing two values is comparing two integers. -/

namespace RuleTree

/-- The bits of a double-precision number: sign, eleven exponent bits, fifty-two fraction bits. -/
structure Binary64 where
  bits : UInt64
deriving DecidableEq, Inhabited

namespace Binary64

def negative (x : Binary64) : Bool := 1 <<< 63 ≤ x.bits.toNat

/-- The bits below the sign: they order the magnitudes. -/
def magnitudeBits (x : Binary64) : Nat := x.bits.toNat % (1 <<< 63)

def exponentField (x : Binary64) : Nat := x.magnitudeBits >>> 52

def fractionField (x : Binary64) : Nat := x.magnitudeBits % (1 <<< 52)

def isNaN (x : Binary64) : Bool := 2047 <<< 52 < x.magnitudeBits

def isInfinite (x : Binary64) : Bool := x.magnitudeBits = 2047 <<< 52

def isFinite (x : Binary64) : Bool := x.magnitudeBits < 2047 <<< 52

/-- The significand, with the leading bit of a normal number. -/
def significand (x : Binary64) : Nat :=
  if x.exponentField = 0 then x.fractionField else (1 <<< 52) + x.fractionField

/-- How many places the significand is shifted to count units. -/
def shift (x : Binary64) : Nat := x.exponentField - 1

/-- The magnitude in units of 2 ^ -1074. Infinity counts as the first power of two out of range. -/
def units (x : Binary64) : Nat := x.significand <<< x.shift

def signedUnits (x : Binary64) : Int := if x.negative then -(x.units : Int) else x.units

/-- Numeric order: a NaN is unordered, and the two zeros are equal. -/
def compare (x y : Binary64) : Option Ordering :=
  if x.isNaN || y.isNaN then none else some (Ord.compare x.signedUnits y.signedUnits)

/-- Numeric equality, under which no NaN equals itself. -/
def equal (x y : Binary64) : Bool := x.compare y == some .eq

/-- The value with the given sign and magnitude bits. -/
def ofMagnitude (negative : Bool) (magnitude : Nat) : Binary64 :=
  ⟨UInt64.ofNat ((if negative then 1 <<< 63 else 0) + magnitude % (1 <<< 63))⟩

def infinity (negative : Bool) : Binary64 := ofMagnitude negative (2047 <<< 52)

def zero (negative : Bool) : Binary64 := ofMagnitude negative 0

/-- One of the values that are not a number. -/
def nan : Binary64 := ofMagnitude false ((2047 <<< 52) + (1 <<< 51))

def neg (x : Binary64) : Binary64 := ofMagnitude (!x.negative) x.magnitudeBits

theorem compare_eq_none_iff (x y : Binary64) :
    x.compare y = none ↔ x.isNaN = true ∨ y.isNaN = true := by
  unfold compare
  split <;> simp_all

end Binary64

end RuleTree
