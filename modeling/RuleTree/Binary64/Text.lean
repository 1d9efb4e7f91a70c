import RuleTree.Binary64.Shortest

/-! How a double is written. The digits are always the shortest that read back; a layout says where
positional notation ends and what the special values are called. -/

namespace RuleTree

namespace Decimal

def zeros (n : Nat) : String := String.ofList (List.replicate n '0')

def digitText (n : Nat) : String := String.ofList (Nat.toDigits 10 n)

/-- Where the point stands relative to the start of the digits: 123e-2 has its point after one. -/
def pointPlace (d : Decimal) : Int := (width d.digits : Int) + d.exponent

/-- Positional notation; `whole` is what follows a value without fraction digits. -/
def positional (d : Decimal) (whole : String) : String :=
  let text := digitText d.digits
  if 0 ≤ d.exponent then text ++ zeros d.exponent.toNat ++ whole
  else
    let place := d.pointPlace
    if 0 < place then
      let cs := text.toList
      String.ofList (cs.take place.toNat) ++ "." ++ String.ofList (cs.drop place.toNat)
    else "0." ++ zeros (-place).toNat ++ text

/-- One digit, the rest behind a point, and the exponent with its sign. -/
def scientific (d : Decimal) : String :=
  let exponent := d.pointPlace - 1
  let sign := if exponent < 0 then "-" else "+"
  let mantissa := match (digitText d.digits).toList with
    | [] => ""
    | [c] => String.ofList [c]
    | c :: rest => String.ofList (c :: '.' :: rest)
  mantissa ++ "e" ++ sign ++ digitText exponent.natAbs

end Decimal

namespace Binary64

/-- The decisions of a number format beyond the digits themselves. -/
structure Layout where
  /-- Which of two equally near digit strings is written. -/
  tie : Tie
  /-- What follows a value that has no fraction digits. -/
  whole : String
  /-- Is a value with its point at this place written positionally? -/
  positional : Int → Bool
  nan : String
  positiveInfinity : String
  negativeInfinity : String

def write (layout : Layout) (x : Binary64) : String :=
  if x.isNaN then layout.nan
  else if x.isInfinite then
    if x.negative then layout.negativeInfinity else layout.positiveInfinity
  else
    let d := x.shortest layout.tie
    let magnitude := if layout.positional d.pointPlace then d.positional layout.whole else d.scientific
    if x.negative then "-" ++ magnitude else magnitude

/-- Display text: always positional, and a whole number shows no point. -/
def Layout.display : Layout where
  tie := .up
  whole := ""
  positional := fun _ => true
  nan := "NaN"
  positiveInfinity := "inf"
  negativeInfinity := "-inf"

/-- The text of a JSON number: positional from 0.00001 up to below 1e+16, and a whole number keeps its
`.0`. Values that JSON cannot write are named as in display. -/
def Layout.json : Layout where
  tie := .even
  whole := ".0"
  positional := fun place => -5 < place && place ≤ 16
  nan := "NaN"
  positiveInfinity := "inf"
  negativeInfinity := "-inf"

end Binary64

end RuleTree
