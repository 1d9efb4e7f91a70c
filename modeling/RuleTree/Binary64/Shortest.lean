import RuleTree.Binary64.Basic

/-! The shortest decimal that reads back as a given double. A decimal reads back when it lies in the
interval of reals that round to the double; for one digit, two digits and so on the two neighbours of
the value on that decimal grid are tried, and the first grid with a hit wins. -/

namespace RuleTree

/-- The decimal `digits * 10 ^ exponent`. -/
structure Decimal where
  digits : Nat
  exponent : Int
deriving DecidableEq, Repr, Inhabited

/-- Which of two equally near decimals is taken. -/
inductive Tie
  | up
  | even
deriving DecidableEq

namespace Decimal

/-- How many decimal digits a number has; zero has one. -/
def width (n : Nat) : Nat := (Nat.toDigits 10 n).length

def dropZeros : Nat → Nat → Int → Decimal
  | 0, n, e => ⟨n, e⟩
  | fuel + 1, n, e => if n ≠ 0 ∧ n % 10 = 0 then dropZeros fuel (n / 10) (e + 1) else ⟨n, e⟩

/-- The same value with no zero at the end of its digits. -/
def trim (d : Decimal) : Decimal := dropZeros (width d.digits) d.digits d.exponent

end Decimal

namespace Binary64

/-- Reals from `low / denom` to `high / denom` that round to a double; the ends belong to it when
`closed`. The value itself is `value / denom`. -/
structure Interval where
  low : Nat
  value : Nat
  high : Nat
  denom : Nat
  closed : Bool

/-- The rounding interval of a finite non-zero magnitude, in quarters of the last place. Below a power
of two the neighbour is nearer. -/
def interval (x : Binary64) : Interval :=
  let place := 1 <<< x.shift
  let below := if x.fractionField = 0 ∧ 1 < x.exponentField then place else 2 * place
  { low := 4 * x.units - below
    value := 4 * x.units
    high := 4 * x.units + 2 * place
    denom := 4 <<< 1074
    closed := x.fractionField % 2 = 0 }

namespace Interval

/-- Does `q` steps of the grid `10 ^ e` lie in the interval? -/
def holds (i : Interval) (q : Nat) (e : Int) : Bool :=
  let point := q * Nat.pow 10 e.toNat * i.denom
  let scale := Nat.pow 10 (-e).toNat
  if i.closed then i.low * scale ≤ point && point ≤ i.high * scale
  else i.low * scale < point && point < i.high * scale

/-- The decimal of the grid `10 ^ e` that reads back, the nearer of two. -/
def onGrid? (i : Interval) (tie : Tie) (e : Int) : Option Decimal :=
  let step := Nat.pow 10 e.toNat * i.denom
  let scaled := i.value * Nat.pow 10 (-e).toNat
  let q := scaled / step
  let r := scaled % step
  match i.holds q e, i.holds (q + 1) e with
  | false, false => none
  | true, false => some ⟨q, e⟩
  | false, true => some ⟨q + 1, e⟩
  | true, true =>
    let upper := step < 2 * r || (2 * r = step && (tie = .up || q % 2 = 1))
    some ⟨if upper then q + 1 else q, e⟩

/-- Tries `fuel` grids from `10 ^ e` downwards. -/
def search (i : Interval) (tie : Tie) : Nat → Int → Decimal
  | 0, e => ⟨i.value * Nat.pow 10 (-e).toNat / (Nat.pow 10 e.toNat * i.denom), e⟩
  | fuel + 1, e => (i.onGrid? tie e).getD (search i tie fuel (e - 1))

/-- The exponent of the leading digit of the value, found from the number of digits of both parts of
the fraction and mended by one. -/
def leading (i : Interval) : Int :=
  let guess : Int := Decimal.width i.value - Decimal.width i.denom
  if Nat.pow 10 guess.toNat * i.denom ≤ i.value * Nat.pow 10 (-guess).toNat then guess
  else guess - 1

end Interval

/-- The shortest decimal that reads back as the magnitude of a finite `x`, the nearest one of that
length. -/
def shortest (x : Binary64) (tie : Tie) : Decimal :=
  if x.magnitudeBits = 0 then ⟨0, 0⟩
  else
    let i := x.interval
    (i.search tie 17 (i.leading)).trim

end Binary64

end RuleTree
