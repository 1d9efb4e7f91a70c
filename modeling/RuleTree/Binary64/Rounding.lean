import RuleTree.Binary64.Basic

/-! Rounding exact quotients to the nearest double, halves to the even neighbour. Products,
quotients and the doubles nearest to integers all go through one function. -/

namespace RuleTree

/-- The integer nearest to `n / d`, a half going to the even neighbour. -/
def roundDiv (n d : Nat) : Nat :=
  let q := n / d
  let r := n % d
  if 2 * r < d then q
  else if d < 2 * r then q + 1
  else if q % 2 = 0 then q else q + 1

namespace Binary64

/-- The double nearest to `n / d` units of 2 ^ -1074. The significand keeps 53 bits; a carry out of
them moves to the next exponent because the encoding is monotone. -/
def ofUnits (negative : Bool) (n d : Nat) : Binary64 :=
  let shift := (n / d).log2 - 52
  let magnitude := (shift <<< 52) + roundDiv n (d <<< shift)
  if magnitude < 2047 <<< 52 then ofMagnitude negative magnitude else infinity negative

/-- The double nearest to the quotient `n / d`. -/
def ofRatio (negative : Bool) (n d : Nat) : Binary64 := ofUnits negative (n <<< 1074) d

/-- The double nearest to an integer. -/
def ofInt (i : Int) : Binary64 := ofRatio (i < 0) i.natAbs 1

def ofNat (n : Nat) : Binary64 := ofRatio false n 1

/-- The product of two finite values, rounded. -/
def mul (x y : Binary64) : Binary64 :=
  ofUnits (x.negative != y.negative) (x.units * y.units) (1 <<< 1074)

/-- The quotient of two finite values, rounded; the divisor is not zero. -/
def div (x y : Binary64) : Binary64 :=
  ofUnits (x.negative != y.negative) (x.units <<< 1074) y.units

/-- The value of a single-precision bit pattern, which a double holds exactly. -/
def ofBinary32 (bits : UInt32) : Binary64 :=
  let b := bits.toNat
  let negative : Bool := 1 <<< 31 ≤ b
  let exponent := (b >>> 23) % (1 <<< 8)
  let fraction := b % (1 <<< 23)
  if exponent = 255 then
    if fraction = 0 then infinity negative
    else ofMagnitude negative ((2047 <<< 52) + (1 <<< 51) + ((fraction % (1 <<< 22)) <<< 29))
  else if exponent = 0 then ofUnits negative (fraction <<< 925) 1
  else ofUnits negative (((1 <<< 23) + fraction) <<< (925 + (exponent - 1))) 1

end Binary64

end RuleTree
