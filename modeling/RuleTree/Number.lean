import RuleTree.Binary64.Rounding
import RuleTree.Binary64.Text

/-! Numbers as fields and rules hold them: a signed or an unsigned integer of 64 bits, or a double. Two
integers compare exactly; with a double in play both sides compare as doubles. -/

namespace RuleTree

inductive Number where
  | signed (n : Int64)
  | unsigned (n : UInt64)
  | real (x : Binary64)
deriving DecidableEq, Inhabited

namespace Number

/-- The double nearest to the number. -/
def toReal : Number → Binary64
  | signed n => .ofInt n.toInt
  | unsigned n => .ofNat n.toNat
  | real x => x

/-- The integer that the number holds, if it is not a double. -/
def toInt? : Number → Option Int
  | signed n => some n.toInt
  | unsigned n => some n.toNat
  | real _ => none

/-- Numeric order; `none` when a NaN is compared. -/
def compare (a b : Number) : Option Ordering :=
  match a.toInt?, b.toInt? with
  | some i, some j => some (Ord.compare i j)
  | _, _ => a.toReal.compare b.toReal

/-- Sameness of kind and value: an unsigned five is not a signed five, and no NaN is the same as
itself. -/
def same : Number → Number → Bool
  | signed a, signed b => a == b
  | unsigned a, unsigned b => a == b
  | real x, real y => x.equal y
  | _, _ => false

/-- The integer in its narrowest kind: signed where that holds it, else unsigned, else the nearest
double. -/
def ofInt (i : Int) : Number :=
  if Int64.minValue.toInt ≤ i ∧ i ≤ Int64.maxValue.toInt then signed (Int64.ofInt i)
  else if 0 ≤ i ∧ i < UInt64.size then unsigned (UInt64.ofNat i.toNat)
  else real (.ofInt i)

def display : Number → String
  | signed n => toString n.toInt
  | unsigned n => toString n.toNat
  | real x => x.write .display

end Number

end RuleTree
