import Mathlib.Algebra.Order.Field.Power
import Mathlib.Data.Rat.Cast.Order
import Mathlib.Tactic.Linarith
import Mathlib.Tactic.Positivity
import Mathlib.Tactic.Ring
import RuleTree.Binary64.Shortest

/-! The size of the shortest decimal: it stays below the end of its interval, has at most eighteen digits and
an exponent of three. -/

namespace RuleTree

namespace Decimal

def value (d : Decimal) : ℚ := d.digits * 10 ^ d.exponent

/-- Zeros at the end of the digits move into the exponent. -/
theorem dropZeros_spec (fuel n : Nat) (e : Int) :
    (dropZeros fuel n e).value = (⟨n, e⟩ : Decimal).value ∧ (dropZeros fuel n e).digits ≤ n ∧
      (0 < n → 0 < (dropZeros fuel n e).digits) ∧ e ≤ (dropZeros fuel n e).exponent := by
  induction fuel generalizing n e with
  | zero => exact ⟨rfl, Nat.le_refl n, id, Int.le_refl e⟩
  | succ fuel ih =>
    unfold dropZeros
    split
    · next h =>
      obtain ⟨hvalue, hle, hpos, hexp⟩ := ih (n / 10) (e + 1)
      have hn : n = n / 10 * 10 := by omega
      refine ⟨?_, by omega, fun h0 => hpos (by omega), by omega⟩
      rw [hvalue, value, value]
      dsimp only
      conv_rhs => rw [hn]
      rw [zpow_add₀ (by norm_num), zpow_one]
      push_cast
      ring
    · exact ⟨rfl, Nat.le_refl n, id, Int.le_refl e⟩

end Decimal

/-- Whole exponents are compared as they are computed, with the power of ten on the side where it is whole. -/
theorem ten_zpow_mul_le_iff (e : Int) (a b : Nat) :
    (10 : ℚ) ^ e * a ≤ b ↔ Nat.pow 10 e.toNat * a ≤ b * Nat.pow 10 (-e).toNat := by
  have hscale : (0 : ℚ) < 10 ^ (-e).toNat := by positivity
  have hpow : (10 : ℚ) ^ e * 10 ^ (-e).toNat = 10 ^ e.toNat := by
    rw [← zpow_natCast, ← zpow_natCast, ← zpow_add₀ (by norm_num)]
    congr 1
    omega
  have hclear : (10 : ℚ) ^ e * a * 10 ^ (-e).toNat = 10 ^ e.toNat * a := by
    rw [← hpow]
    ring
  rw [← mul_le_mul_iff_left₀ hscale, hclear]
  exact_mod_cast Iff.rfl

theorem le_ten_zpow_mul_iff (e : Int) (a b : Nat) :
    (b : ℚ) ≤ (10 : ℚ) ^ e * a ↔ b * Nat.pow 10 (-e).toNat ≤ Nat.pow 10 e.toNat * a := by
  have hscale : (0 : ℚ) < 10 ^ (-e).toNat := by positivity
  have hpow : (10 : ℚ) ^ e * 10 ^ (-e).toNat = 10 ^ e.toNat := by
    rw [← zpow_natCast, ← zpow_natCast, ← zpow_add₀ (by norm_num)]
    congr 1
    omega
  have hclear : (10 : ℚ) ^ e * a * 10 ^ (-e).toNat = 10 ^ e.toNat * a := by
    rw [← hpow]
    ring
  rw [← mul_le_mul_iff_left₀ hscale, hclear]
  exact_mod_cast Iff.rfl

namespace Binary64.Interval

variable {i : Interval} {tie : Tie} {q : Nat} {e : Int}

/-- A grid point that reads back lies between the ends. -/
theorem le_of_holds (h : i.holds q e = true) :
    i.low ≤ (10 : ℚ) ^ e * (q * i.denom : Nat) ∧ (10 : ℚ) ^ e * (q * i.denom : Nat) ≤ i.high := by
  rw [ten_zpow_mul_le_iff, le_ten_zpow_mul_iff]
  have hassoc : Nat.pow 10 e.toNat * (q * i.denom) = q * Nat.pow 10 e.toNat * i.denom := by ring
  unfold holds at h
  dsimp only at h
  split at h <;> simp only [Bool.and_eq_true, decide_eq_true_eq] at h <;> omega

/-- The grid points on both sides of the value. -/
theorem floor_bounds (hd : 0 < i.denom)
    (hq : q = i.value * Nat.pow 10 (-e).toNat / (Nat.pow 10 e.toNat * i.denom)) :
    (10 : ℚ) ^ e * (q * i.denom : Nat) ≤ i.value ∧
      i.value < (10 : ℚ) ^ e * ((q + 1) * i.denom : Nat) := by
  have hstep : 0 < Nat.pow 10 e.toNat * i.denom := Nat.mul_pos (Nat.pow_pos (by decide)) hd
  have hsplit := Nat.div_add_mod (i.value * Nat.pow 10 (-e).toNat) (Nat.pow 10 e.toNat * i.denom)
  have hmod := Nat.mod_lt (i.value * Nat.pow 10 (-e).toNat) hstep
  rw [← hq] at hsplit
  rw [← not_le, ten_zpow_mul_le_iff, ten_zpow_mul_le_iff, not_le]
  have hlow : Nat.pow 10 e.toNat * (q * i.denom) = Nat.pow 10 e.toNat * i.denom * q := by ring
  have hhigh : Nat.pow 10 e.toNat * ((q + 1) * i.denom) =
      Nat.pow 10 e.toNat * i.denom * q + Nat.pow 10 e.toNat * i.denom := by ring
  omega

/-! ### The leading digit -/

theorem lt_ten_pow_width (n : Nat) : n < 10 ^ Decimal.width n :=
  (Nat.length_toDigits_le_iff (by decide) (List.length_pos_of_ne_nil Nat.toDigits_ne_nil)).1
    (Nat.le_refl _)

theorem ten_pow_width_le {n : Nat} (h : 0 < n) : 10 ^ (Decimal.width n - 1) ≤ n := by
  by_contra hlt
  rcases Nat.eq_zero_or_pos (Decimal.width n - 1) with hzero | hpos
  · rw [hzero] at hlt
    omega
  · have hle := (Nat.length_toDigits_le_iff (by decide) hpos).2 (Nat.lt_of_not_le hlt)
    have hwidth : Decimal.width n ≤ Decimal.width n - 1 := hle
    omega

/-- A number lies between the powers of ten of its first digit and the next. -/
theorem width_bounds {n : Nat} (h : 0 < n) :
    (10 : ℚ) ^ ((Decimal.width n : Int) - 1) ≤ n ∧ (n : ℚ) < (10 : ℚ) ^ (Decimal.width n : Int) := by
  have hwidth : 0 < Decimal.width n := List.length_pos_of_ne_nil Nat.toDigits_ne_nil
  have hcast : (Decimal.width n : Int) - 1 = (Decimal.width n - 1 : Nat) := by omega
  rw [hcast, zpow_natCast, zpow_natCast]
  exact ⟨by exact_mod_cast ten_pow_width_le h, by exact_mod_cast lt_ten_pow_width n⟩

/-- The value lies between the power of ten of its leading digit and the next. -/
theorem leading_bounds (hd : 0 < i.denom) (hv : 0 < i.value) :
    (10 : ℚ) ^ i.leading * i.denom ≤ i.value ∧ i.value < (10 : ℚ) ^ (i.leading + 1) * i.denom := by
  obtain ⟨hvalue, hvalue'⟩ := width_bounds hv
  obtain ⟨hdenom, hdenom'⟩ := width_bounds hd
  generalize hguess : (Decimal.width i.value : Int) - Decimal.width i.denom = guess
  have hupper : (i.value : ℚ) < 10 ^ (guess + 1) * i.denom := by
    refine hvalue'.trans_le ?_
    have hsplit : (10 : ℚ) ^ (Decimal.width i.value : Int) =
        10 ^ (guess + 1) * 10 ^ ((Decimal.width i.denom : Int) - 1) := by
      rw [← zpow_add₀ (by norm_num)]
      congr 1
      omega
    rw [hsplit]
    exact mul_le_mul_of_nonneg_left hdenom (by positivity)
  have hlower : (10 : ℚ) ^ (guess - 1) * i.denom ≤ i.value := by
    refine le_trans ?_ hvalue
    have hsplit : (10 : ℚ) ^ ((Decimal.width i.value : Int) - 1) =
        10 ^ (guess - 1) * 10 ^ (Decimal.width i.denom : Int) := by
      rw [← zpow_add₀ (by norm_num)]
      congr 1
      omega
    rw [hsplit]
    exact mul_le_mul_of_nonneg_left hdenom'.le (by positivity)
  unfold leading
  dsimp only
  rw [hguess]
  split
  · next h => exact ⟨(ten_zpow_mul_le_iff ..).2 h, hupper⟩
  · next h =>
    rw [← ten_zpow_mul_le_iff, not_le] at h
    exact ⟨hlower, by rwa [sub_add_cancel]⟩

/-! ### The search -/

/-- What the search makes of an interval whose ends are positive. -/
structure Finds (i : Interval) (d : Decimal) : Prop where
  pos : 0 < d.digits
  le : d.value * i.denom ≤ i.high
  digits_le : d.digits ≤ 10 ^ 18
  exponent_ge : i.leading - 17 ≤ d.exponent

theorem onGrid?_eq_some {d : Decimal} (h : i.onGrid? tie e = some d) :
    d.exponent = e ∧ i.holds d.digits e = true ∧
      d.digits ≤ i.value * Nat.pow 10 (-e).toNat / (Nat.pow 10 e.toNat * i.denom) + 1 := by
  unfold onGrid? at h
  dsimp only at h
  split at h
  · cases h
  · next hq _ =>
    cases h
    exact ⟨rfl, hq, Nat.le_succ _⟩
  · next _ hq =>
    cases h
    exact ⟨rfl, hq, Nat.le_refl _⟩
  · next hq hq' =>
    cases h
    split
    · exact ⟨rfl, hq', Nat.le_refl _⟩
    · exact ⟨rfl, hq, Nat.le_succ _⟩

/-- Below the leading digit the grid point under the value has so many digits. -/
theorem floor_lt (hd : 0 < i.denom) (hv : 0 < i.value) {k : Nat} (hk : i.leading + 1 - e = k)
    (hq : q = i.value * Nat.pow 10 (-e).toNat / (Nat.pow 10 e.toNat * i.denom)) : q < 10 ^ k := by
  have hlow := (floor_bounds hd hq).1
  have hhigh := (leading_bounds hd hv).2
  have hdenom : (0 : ℚ) < i.denom := by exact_mod_cast hd
  have hsplit : (10 : ℚ) ^ (i.leading + 1) = 10 ^ e * 10 ^ k := by
    rw [← zpow_natCast, ← zpow_add₀ (by norm_num), ← hk]
    congr 1
    omega
  have hlt : (10 : ℚ) ^ e * i.denom * q < 10 ^ e * i.denom * 10 ^ k := by
    push_cast at hlow
    rw [hsplit] at hhigh
    linarith
  exact_mod_cast lt_of_mul_lt_mul_left hlt (by positivity)

theorem value_mul_denom (d : Decimal) :
    d.value * i.denom = (10 : ℚ) ^ d.exponent * (d.digits * i.denom : Nat) := by
  rw [Decimal.value]
  push_cast
  ring

variable (hd : 0 < i.denom) (hlow : 0 < i.low) (hv : 0 < i.value) (hhigh : i.value ≤ i.high)

include hd hlow hv in
theorem finds_onGrid {d : Decimal} {k : Nat} (hk : i.leading + 1 - e = k) (hk18 : k ≤ 18)
    (h : i.onGrid? tie e = some d) : Finds i d := by
  obtain ⟨rfl, hholds, hdigits⟩ := onGrid?_eq_some h
  obtain ⟨hge, hle⟩ := le_of_holds hholds
  have hfloor := floor_lt hd hv hk rfl
  have hpow : 10 ^ k ≤ 10 ^ 18 := Nat.pow_le_pow_right (by decide) hk18
  refine ⟨?_, ?_, by omega, by omega⟩
  · rw [Nat.pos_iff_ne_zero]
    intro hzero
    rw [hzero, Nat.zero_mul, Nat.cast_zero, mul_zero] at hge
    exact absurd hge (not_le.2 (by exact_mod_cast hlow))
  · rw [value_mul_denom]
    exact hle

include hd hlow hv hhigh in
theorem finds_search (fuel : Nat) (hfuel : fuel ≤ 17) (he : e - fuel = i.leading - 17) :
    Finds i (i.search tie fuel e) := by
  induction fuel generalizing e with
  | zero =>
    have hk : i.leading + 1 - e = (18 : Nat) := by omega
    have hbounds := floor_bounds (e := e) hd rfl
    have hfloor := floor_lt hd hv hk rfl
    have hlead := (leading_bounds hd hv).1
    unfold search
    generalize hq : i.value * Nat.pow 10 (-e).toNat / (Nat.pow 10 e.toNat * i.denom) = q at *
    have hexp : i.leading - 17 ≤ e := by omega
    refine ⟨?_, ?_, hfloor.le, hexp⟩
    · rw [Nat.pos_iff_ne_zero]
      rintro rfl
      rw [Nat.zero_add, Nat.one_mul] at hbounds
      have hpow := lt_of_mul_lt_mul_right (hlead.trans_lt hbounds.2) (Nat.cast_nonneg _)
      have hlt := (zpow_lt_zpow_iff_right₀ (by norm_num)).1 hpow
      omega
    · rw [value_mul_denom]
      exact hbounds.1.trans (by exact_mod_cast hhigh)
  | succ fuel ih =>
    have hk : i.leading + 1 - e = (17 - fuel : Nat) := by omega
    unfold search
    cases h : i.onGrid? tie e with
    | none => exact ih (by omega) (by omega)
    | some d => exact finds_onGrid hd hlow hv hk (by omega) h

/-- Dropping zeros keeps what the search found. -/
theorem Finds.trim {d : Decimal} (h : Finds i d) : Finds i d.trim := by
  obtain ⟨hvalue, hle, hpos, hexp⟩ := Decimal.dropZeros_spec (Decimal.width d.digits) d.digits d.exponent
  refine ⟨hpos h.pos, ?_, hle.trans h.digits_le, h.exponent_ge.trans hexp⟩
  rw [Decimal.trim, hvalue]
  exact h.le

end Binary64.Interval

namespace Binary64

/-- How a finite magnitude other than zero is made up. -/
theorem finite_parts {x : Binary64} (hfinite : x.isFinite = true) (hzero : x.magnitudeBits ≠ 0) :
    0 < x.significand ∧ x.significand < 2 ^ 53 ∧ x.shift ≤ 2045 := by
  rw [isFinite, decide_eq_true_eq, Nat.shiftLeft_eq] at hfinite
  have hfield : x.exponentField = x.magnitudeBits / 2 ^ 52 := Nat.shiftRight_eq_div_pow ..
  have hfraction : x.fractionField = x.magnitudeBits % 2 ^ 52 := by
    rw [fractionField, Nat.one_shiftLeft]
  have hsplit := Nat.div_add_mod x.magnitudeBits (2 ^ 52)
  rw [significand, shift, hfield, hfraction, Nat.one_shiftLeft]
  split <;> omega

theorem denom_pos (x : Binary64) : 0 < x.interval.denom := by
  have hpos : 0 < 4 <<< 1074 := by decide +kernel
  exact hpos

theorem finds_shortest {x : Binary64} (hfinite : x.isFinite = true) (hzero : x.magnitudeBits ≠ 0)
    (tie : Tie) : x.interval.Finds (x.shortest tie) := by
  obtain ⟨hsig, -, -⟩ := finite_parts hfinite hzero
  have hplace : 0 < 2 ^ x.shift := Nat.two_pow_pos _
  have hunits : 2 ^ x.shift ≤ x.units := by
    rw [units, Nat.shiftLeft_eq]
    exact Nat.le_mul_of_pos_left _ hsig
  have hdenom := denom_pos x
  have hlow : 0 < x.interval.low := by
    simp only [interval, Nat.one_shiftLeft]
    split <;> omega
  have hvalue : 0 < x.interval.value := by
    simp only [interval]
    omega
  have hhigh : x.interval.value ≤ x.interval.high := by
    simp only [interval]
    omega
  rw [shortest, if_neg hzero]
  exact (Interval.finds_search hdenom hlow hvalue hhigh 17 (Nat.le_refl _) rfl).trim

theorem width_denom : Decimal.width (4 <<< 1074) = 324 := by decide +kernel

theorem high_le {x : Binary64} (hfinite : x.isFinite = true) (hzero : x.magnitudeBits ≠ 0) :
    x.interval.high ≤ (4 * 2 ^ 53 + 2) * 2 ^ x.shift := by
  have hsig := (finite_parts hfinite hzero).2.1
  have hunits : x.units ≤ 2 ^ 53 * 2 ^ x.shift := by
    rw [units, Nat.shiftLeft_eq]
    exact Nat.mul_le_mul_right _ hsig.le
  simp only [interval, Nat.one_shiftLeft]
  rw [Nat.add_mul, Nat.mul_assoc]
  omega

theorem high_lt {x : Binary64} (hfinite : x.isFinite = true) (hzero : x.magnitudeBits ≠ 0) :
    x.interval.high < 10 ^ 309 * x.interval.denom := by
  have hpow {k : Nat} (hk : x.shift ≤ k) : 2 ^ x.shift ≤ 2 ^ k :=
    Nat.pow_le_pow_right (by decide) hk
  have hplace := hpow (finite_parts hfinite hzero).2.2
  have htop : (4 * 2 ^ 53 + 2) * 2 ^ 2045 < 10 ^ 309 * (4 <<< 1074) := by decide +kernel
  exact ((high_le hfinite hzero).trans (Nat.mul_le_mul_left _ hplace)).trans_lt htop

/-- The digits of the shortest decimal fit a word, and its exponent has three digits. -/
theorem shortest_bounds {x : Binary64} (hfinite : x.isFinite = true) (tie : Tie) :
    (x.shortest tie).digits ≤ 10 ^ 18 ∧ -341 ≤ (x.shortest tie).exponent ∧
      (x.shortest tie).exponent ≤ 308 := by
  by_cases hzero : x.magnitudeBits = 0
  · rw [shortest, if_pos hzero]
    decide
  · have hfinds := finds_shortest hfinite hzero tie
    refine ⟨hfinds.digits_le, ?_, ?_⟩
    · have hwidth : Decimal.width x.interval.denom = 324 := width_denom
      have hvalue : 0 < Decimal.width x.interval.value :=
        List.length_pos_of_ne_nil Nat.toDigits_ne_nil
      have hleading : -324 ≤ x.interval.leading := by
        unfold Interval.leading
        dsimp only
        split <;> omega
      have hge := hfinds.exponent_ge
      omega
    · by_contra hlarge
      have hpow : (10 : ℚ) ^ (309 : Int) ≤ 10 ^ (x.shortest tie).exponent :=
        zpow_le_zpow_right₀ (by norm_num) (by omega)
      have hdigits : (1 : ℚ) ≤ (x.shortest tie).digits := by exact_mod_cast hfinds.pos
      have hvalue : (10 : ℚ) ^ (309 : Int) ≤ (x.shortest tie).value :=
        hpow.trans (le_mul_of_one_le_left (by positivity) hdigits)
      have hdenom : (0 : ℚ) < x.interval.denom := by exact_mod_cast denom_pos x
      have hhigh : (x.interval.high : ℚ) < 10 ^ (309 : Int) * x.interval.denom := by
        exact_mod_cast high_lt hfinite hzero
      have hge := mul_le_mul_of_nonneg_right hvalue hdenom.le
      exact absurd (hge.trans hfinds.le) (not_le.2 hhigh)

end Binary64

end RuleTree
