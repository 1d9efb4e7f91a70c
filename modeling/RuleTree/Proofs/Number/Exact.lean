import Mathlib.Algebra.Order.Field.Power
import Mathlib.Data.Rat.Cast.Order
import Mathlib.Order.Compare
import Mathlib.Order.WithBot
import Mathlib.Tactic.Positivity
import Mathlib.Tactic.Ring
import RuleTree.Proofs.Number.Order

/-! What numbers are worth. Every number but a NaN has an exact value, a rational or an infinity, and a strict
outcome of a comparison is always the order of the values. Only equal may be said of two values that differ: of an
integer beyond 2 ^ 53 and a double. -/

namespace RuleTree

/-- The rationals between two infinities. -/
abbrev ExtendedRat := WithBot (WithTop ℚ)

namespace ExtendedRat

def ofRat (q : ℚ) : ExtendedRat := ((q : WithTop ℚ) : WithBot (WithTop ℚ))

theorem ofRat_lt_ofRat_iff {p q : ℚ} : ofRat p < ofRat q ↔ p < q :=
  WithBot.coe_lt_coe.trans WithTop.coe_lt_coe

theorem ofRat_lt_top (q : ℚ) : ofRat q < ⊤ := WithBot.coe_lt_coe.2 (WithTop.coe_lt_top q)

theorem bot_lt_ofRat (q : ℚ) : ⊥ < ofRat q := WithBot.bot_lt_coe _

end ExtendedRat

open Binary64 ExtendedRat

namespace Binary64

/-- The magnitude that the exponent and the fraction of a finite double stand for: a fraction behind a leading one, and
for the smallest exponent a fraction alone. -/
def magnitude (x : Binary64) : ℚ :=
  if x.exponentField = 0 then x.fractionField / 2 ^ 52 * 2 ^ (-1022 : ℤ)
  else (1 + x.fractionField / 2 ^ 52) * 2 ^ ((x.exponentField : ℤ) - 1023)

/-- The value that the bits of a double stand for. -/
def value (x : Binary64) : ExtendedRat :=
  if x.isInfinite then if x.negative then ⊥ else ⊤
  else .ofRat (if x.negative then -x.magnitude else x.magnitude)

theorem magnitude_eq (x : Binary64) : x.magnitude = x.units * 2 ^ (-1074 : ℤ) := by
  have hword : (1 <<< 52 : Nat) = 2 ^ 52 := Nat.one_shiftLeft 52
  have hone : (2 : ℚ) ^ 52 ≠ 0 := by positivity
  rw [magnitude, units, significand, shift, Nat.shiftLeft_eq, hword]
  split
  · next hzero =>
    have hplace : (2 : ℚ) ^ (-1022 : ℤ) = 2 ^ 52 * 2 ^ (-1074 : ℤ) := by
      rw [← zpow_natCast, ← zpow_add₀ (by norm_num)]
      norm_num
    rw [hzero, hplace, Nat.zero_sub, Nat.pow_zero, Nat.mul_one, ← mul_assoc, div_mul_cancel₀ _ hone]
  · next hnormal =>
    have hplace : (2 : ℚ) ^ ((x.exponentField : ℤ) - 1023) =
        2 ^ 52 * (2 ^ (x.exponentField - 1) * 2 ^ (-1074 : ℤ)) := by
      rw [← zpow_natCast, ← zpow_natCast, ← zpow_add₀ (by norm_num), ← zpow_add₀ (by norm_num)]
      congr 1
      omega
    have hleading : (1 + (x.fractionField : ℚ) / 2 ^ 52) * 2 ^ 52 = (2 ^ 52 + x.fractionField : ℕ) := by
      rw [add_mul, one_mul, div_mul_cancel₀ _ hone]
      push_cast
      rfl
    rw [hplace, ← mul_assoc, hleading, ← mul_assoc, Nat.cast_mul, Nat.cast_pow, Nat.cast_ofNat]

end Binary64

/-- The value of a number of units. Infinity counts as the first power of two out of range. -/
inductive Denotes : ℤ → ExtendedRat → Prop
  | finite {n : ℤ} (h : n.natAbs < (infinity false).units) : Denotes n (.ofRat (n * 2 ^ (-1074 : ℤ)))
  | above : Denotes (infinity false).units ⊤
  | below : Denotes (-(infinity false).units) ⊥

namespace Denotes

variable {m n : ℤ} {v w : ExtendedRat}

/-- The order of values is the order of their units. -/
theorem lt_iff (hv : Denotes m v) (hw : Denotes n w) : v < w ↔ m < n := by
  have hplace : (0 : ℚ) < 2 ^ (-1074 : ℤ) := by positivity
  have hend : 0 < (infinity false).units := by decide +kernel
  cases hv with
  | finite hm =>
    cases hw with
    | finite hn =>
      rw [ofRat_lt_ofRat_iff, mul_lt_mul_iff_left₀ hplace, Int.cast_lt]
    | above => exact iff_of_true (ofRat_lt_top _) (by omega)
    | below => exact iff_of_false not_lt_bot (by omega)
  | above =>
    cases hw with
    | finite hn => exact iff_of_false not_top_lt (by omega)
    | above => exact iff_of_false not_top_lt (by omega)
    | below => exact iff_of_false not_top_lt (by omega)
  | below =>
    cases hw with
    | finite hn => exact iff_of_true (bot_lt_ofRat _) (by omega)
    | above => exact iff_of_true bot_lt_top (by omega)
    | below => exact iff_of_false not_lt_bot (by omega)

theorem cmp_eq (hv : Denotes m v) (hw : Denotes n w) : cmp v w = Ord.compare m n := by
  rcases h : Ord.compare m n with _ | _ | _
  · rw [Int.compare_eq_lt] at h
    rwa [cmp_eq_lt_iff, lt_iff hv hw]
  · rw [Int.compare_eq_eq] at h
    rw [cmp_eq_eq_iff]
    have hle : ¬ v < w := by rw [lt_iff hv hw, h]; exact Int.lt_irrefl n
    have hge : ¬ w < v := by rw [lt_iff hw hv, h]; exact Int.lt_irrefl n
    exact le_antisymm (not_lt.1 hge) (not_lt.1 hle)
  · rw [Int.compare_eq_gt] at h
    rwa [cmp_eq_gt_iff, lt_iff hw hv]

end Denotes

namespace Binary64

theorem denotes_value {x : Binary64} (h : x.isNaN = false) : Denotes x.signedUnits x.value := by
  unfold signedUnits value
  by_cases hinfinite : x.isInfinite = true
  · rw [if_pos hinfinite, units_of_isInfinite hinfinite]
    split
    · exact .below
    · exact .above
  · rw [if_neg hinfinite, magnitude_eq]
    rw [Bool.not_eq_true] at hinfinite
    have hlt := units_lt_infinity (isFinite_of_not h hinfinite)
    split
    · have hneg : -((x.units : ℚ) * 2 ^ (-1074 : ℤ)) = ((-x.units : ℤ) : ℚ) * 2 ^ (-1074 : ℤ) := by
        rw [Int.cast_neg, Int.cast_natCast, neg_mul]
      rw [hneg]
      exact .finite (by rwa [Int.natAbs_neg, Int.natAbs_natCast])
    · exact .finite (n := x.units) (by rwa [Int.natAbs_natCast])

end Binary64

/-- An integer of 64 bits is far from the end of the range. -/
theorem denotes_int {i : ℤ} (h : i.natAbs < 2 ^ 64) : Denotes (i * (2 ^ 1074 : Nat)) (.ofRat i) := by
  have hscale : (i : ℚ) = ((i * (2 ^ 1074 : Nat) : ℤ) : ℚ) * 2 ^ (-1074 : ℤ) := by
    have hone : (2 : ℚ) ^ 1074 * 2 ^ (-1074 : ℤ) = 1 := by
      rw [← zpow_natCast, ← zpow_add₀ (by norm_num)]
      exact zpow_zero 2
    rw [Int.cast_mul, Int.cast_natCast, Nat.cast_pow, Nat.cast_ofNat, mul_assoc, hone, mul_one]
  have hend : 2 ^ 64 * 2 ^ 1074 < (infinity false).units := by decide +kernel
  rw [hscale]
  apply Denotes.finite
  rw [natAbs_units]
  exact (Nat.mul_lt_mul_of_pos_right h (two_pow_pos 1074)).trans hend

namespace Number

/-- The exact value of a number. -/
def value : Number → ExtendedRat
  | signed n => .ofRat n.toInt
  | unsigned n => .ofRat n.toNat
  | real x => x.value

theorem denotes_value {n : Number} (h : n.isNaN = false) : Denotes n.signedUnits n.value := by
  cases n with
  | signed n => exact denotes_int (by have := n.toInt_lt; have := n.le_toInt; omega)
  | unsigned n => exact denotes_int (by have := n.toNat_lt; omega)
  | real x => exact Binary64.denotes_value h

/-! ### Exact outcomes -/

variable {a b : Number}

/-- A double is weighed as it is. -/
theorem weight_of_double (exact : Bool) (h : a.isInteger = false) (hn : a.isNaN = false) :
    weight exact a = a.signedUnits := by
  cases a with
  | real x =>
    cases exact with
    | true => rfl
    | false =>
      rw [weight]
      exact roundUnits_signedUnits hn
  | signed n => cases h
  | unsigned n => cases h

/-- And so is an integer that a double holds. -/
theorem weight_of_small (exact : Bool) {i : Int} (hi : a.toInt? = some i) (h : i.natAbs ≤ 2 ^ 53) :
    weight exact a = a.signedUnits := by
  cases exact with
  | true => rfl
  | false => rw [weight, signedUnits_of_toInt? hi, roundUnits_exact h]

/-- When both sides of a comparison are weighed as they are. -/
theorem weight_exact (ha : a.isNaN = false) (hb : b.isNaN = false)
    (h : a.isInteger = b.isInteger ∨ ∀ i, a.toInt? = some i ∨ b.toInt? = some i → i.natAbs ≤ 2 ^ 53) :
    weight (a.isInteger && b.isInteger) a = a.signedUnits ∧
      weight (a.isInteger && b.isInteger) b = b.signedUnits := by
  rcases h with hsame | hsmall
  · rw [hsame, Bool.and_self]
    rcases hkind : b.isInteger with _ | _
    · rw [hkind] at hsame
      exact ⟨weight_of_double false hsame ha, weight_of_double false hkind hb⟩
    · exact ⟨rfl, rfl⟩
  · have hweight : ∀ {n : Number}, n.isNaN = false → (∀ i, n.toInt? = some i → i.natAbs ≤ 2 ^ 53) →
        weight (a.isInteger && b.isInteger) n = n.signedUnits := by
      intro n hn hsmall
      rcases hi : n.toInt? with _ | i
      · exact weight_of_double _ (by rw [isInteger, hi]; rfl) hn
      · exact weight_of_small _ hi (hsmall i hi)
    exact ⟨hweight ha fun i hi => hsmall i (.inl hi), hweight hb fun i hi => hsmall i (.inr hi)⟩

/-- Less and greater are never wrong. And the outcome is the order of the values altogether for two integers, for two
doubles, and for an integer up to 2 ^ 53 with a double. -/
theorem compare_value (ha : a.isNaN = false) (hb : b.isNaN = false) :
    (a.compare b = some .lt → a.value < b.value) ∧ (a.compare b = some .gt → b.value < a.value) ∧
      ((a.isInteger = b.isInteger ∨ ∀ i, a.toInt? = some i ∨ b.toInt? = some i → i.natAbs ≤ 2 ^ 53) →
        a.compare b = some (cmp a.value b.value)) := by
  have hvalue := denotes_value ha
  have hvalue' := denotes_value hb
  refine ⟨fun hlt => ?_, fun hgt => ?_, fun hexact => ?_⟩
  · exact (hvalue.lt_iff hvalue').2 (signedUnits_lt_of_compare hlt)
  · have hlt : b.compare a = some .lt := by rw [compare_swap, hgt]; rfl
    exact (hvalue'.lt_iff hvalue).2 (signedUnits_lt_of_compare hlt)
  · obtain ⟨hweight, hweight'⟩ := weight_exact ha hb hexact
    rw [compare_eq ha hb, hweight, hweight', hvalue.cmp_eq hvalue']

/-- The integer 2 ^ 53 is less than the double that follows it, and less than the largest unsigned integer. -/
theorem compare_value_border :
    let a : Number := .signed 9007199254740992
    let b : Number := .real ⟨0x4340000000000001⟩
    let c : Number := .unsigned 18446744073709551615
    a.compare b = some .lt ∧ a.value < b.value ∧ b.compare a = some .gt ∧ b.compare a = some (cmp b.value a.value) ∧
      c.compare a = some .gt ∧ a.value < c.value := by
  intro a b c
  have hlt : a.compare b = some .lt := by decide +kernel
  have hgt : b.compare a = some .gt := by decide +kernel
  have hgt' : c.compare a = some .gt := by decide +kernel
  have hb : b.isNaN = false := by decide
  refine ⟨hlt, (compare_value rfl hb).1 hlt, hgt, (compare_value hb rfl).2.2 (.inr ?_), hgt',
    (compare_value rfl rfl).2.1 hgt'⟩
  rintro i (h | h)
  · cases h
  · cases h
    decide

end Number

end RuleTree
