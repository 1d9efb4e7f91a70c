import RuleTree.Number

/-! Points in time as milliseconds since the start of 1970. -/

namespace RuleTree

structure Timestamp where
  millis : Int64
deriving DecidableEq, Inhabited

namespace Timestamp

/-- A point in time given in seconds; the product is taken modulo 2 ^ 64. -/
def ofSeconds (s : Int64) : Timestamp := ⟨s * 1000⟩

/-- Whole seconds, cut towards zero. -/
def seconds (t : Timestamp) : Int64 := t.millis / 1000

def compare (a b : Timestamp) : Ordering := Ord.compare a.millis.toInt b.millis.toInt

/-- The milliseconds as a signed number. -/
def toNumber (t : Timestamp) : Number := .signed t.millis

end Timestamp

end RuleTree
