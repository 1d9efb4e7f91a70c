import Mathlib.Order.Monotone.Basic
import RuleTree.Proofs.Json.Scaling

/-! Rounding and order. The bits below the sign order the magnitudes, a rounded quotient grows with the quotient, and
what a double can hold is not moved. So rounding never turns an order around, and at most makes two values equal. -/

namespace RuleTree

theorem roundDiv_mono {n m d : Nat} (hd : 0 < d) (h : n ≤ m) : roundDiv n d ≤ roundDiv m d := by
  have hn := Nat.div_add_mod n d
  have hm := Nat.div_add_mod m d
  have hmod := Nat.mod_lt n hd
  have hmod' := Nat.mod_lt m hd
  have hfloor : n / d ≤ m / d := Nat.div_le_div_right h
  unfold roundDiv
  dsimp only
  rcases Nat.eq_or_lt_of_le hfloor with hsame | hless
  · -- the same floor: the larger remainder is rounded up where the smaller one is
    rw [hsame] at hn ⊢
    have hrest : n % d ≤ m % d := by omega
    split_ifs <;> omega
  · split_ifs <;> omega

/-- What divides is not rounded. -/
theorem roundDiv_mul (q : Nat) {d : Nat} (hd : 0 < d) : roundDiv (q * d) d = q := by
  simp [roundDiv, Nat.mul_div_cancel q hd, hd]

namespace Binary64

/-! ### Magnitudes -/

/-- The units of a magnitude, read off its bits. -/
def magnitudeUnits (m : Nat) : Nat :=
  if m / 2 ^ 52 = 0 then m % 2 ^ 52 else (2 ^ 52 + m % 2 ^ 52) * 2 ^ (m / 2 ^ 52 - 1)

theorem units_eq (x : Binary64) : x.units = magnitudeUnits x.magnitudeBits := by
  rw [units, significand, shift, exponentField, fractionField, Nat.shiftRight_eq_div_pow, Nat.one_shiftLeft,
    Nat.shiftLeft_eq, magnitudeUnits]
  split
  · next h => rw [h, Nat.zero_sub, Nat.pow_zero, Nat.mul_one]
  · rfl

/-- The next magnitude is larger, also where the exponent grows and the fraction begins anew. -/
theorem magnitudeUnits_lt_succ (m : Nat) : magnitudeUnits m < magnitudeUnits (m + 1) := by
  unfold magnitudeUnits
  by_cases hcarry : m % 2 ^ 52 = 2 ^ 52 - 1
  · have hfield : (m + 1) / 2 ^ 52 = m / 2 ^ 52 + 1 := by omega
    have hfraction : (m + 1) % 2 ^ 52 = 0 := by omega
    rw [hfield, hfraction, hcarry, if_neg (Nat.succ_ne_zero _), Nat.add_sub_cancel]
    split
    · next hzero =>
      rw [hzero]
      decide
    · next hfield =>
      obtain ⟨e, he⟩ := Nat.exists_eq_succ_of_ne_zero hfield
      have hplace : 0 < 2 ^ e := Nat.two_pow_pos e
      rw [he, Nat.succ_sub_one, Nat.pow_succ]
      omega
  · have hfield : (m + 1) / 2 ^ 52 = m / 2 ^ 52 := by omega
    have hfraction : (m + 1) % 2 ^ 52 = m % 2 ^ 52 + 1 := by omega
    rw [hfield, hfraction]
    split
    · exact Nat.lt_succ_self _
    · exact Nat.mul_lt_mul_of_pos_right (Nat.lt_succ_self _) (Nat.two_pow_pos _)

theorem magnitudeUnits_strictMono : StrictMono magnitudeUnits :=
  strictMono_nat_of_lt_succ magnitudeUnits_lt_succ

theorem units_le_units_iff {x y : Binary64} : x.units ≤ y.units ↔ x.magnitudeBits ≤ y.magnitudeBits := by
  rw [units_eq, units_eq]
  exact magnitudeUnits_strictMono.le_iff_le

theorem units_lt_units_iff {x y : Binary64} : x.units < y.units ↔ x.magnitudeBits < y.magnitudeBits := by
  rw [units_eq, units_eq]
  exact magnitudeUnits_strictMono.lt_iff_lt

theorem units_congr {x y : Binary64} (h : x.magnitudeBits = y.magnitudeBits) : x.units = y.units := by
  rw [units_eq, units_eq, h]

theorem magnitudeBits_infinity : (infinity false).magnitudeBits = 2047 <<< 52 := by decide

theorem units_of_isInfinite {x : Binary64} (h : x.isInfinite = true) : x.units = (infinity false).units := by
  rw [isInfinite, decide_eq_true_eq] at h
  exact units_congr (h.trans magnitudeBits_infinity.symm)

theorem units_lt_infinity {x : Binary64} (h : x.isFinite = true) : x.units < (infinity false).units := by
  rw [isFinite, decide_eq_true_eq] at h
  rwa [units_lt_units_iff, magnitudeBits_infinity]

/-! ### Rounded quotients -/

/-- The magnitude of a rounded quotient, were there no end of the range. -/
def roundedMagnitude (n d : Nat) : Nat :=
  ((n / d).log2 - 52) * 2 ^ 52 + roundDiv n (d * 2 ^ ((n / d).log2 - 52))

theorem magnitudeBits_ofUnits (negative : Bool) (n d : Nat) :
    (ofUnits negative n d).magnitudeBits = min (roundedMagnitude n d) (2047 * 2 ^ 52) := by
  have htop : (2047 <<< 52 : Nat) = 2047 * 2 ^ 52 := Nat.shiftLeft_eq 2047 52
  have hword : (1 <<< 63 : Nat) = 2 ^ 63 := Nat.one_shiftLeft 63
  unfold ofUnits infinity
  simp only [Nat.shiftLeft_eq]
  rw [← roundedMagnitude]
  split
  · next h =>
    rw [magnitudeBits_ofMagnitude, hword, Nat.min_eq_left h.le]
    exact Nat.mod_eq_of_lt (by omega)
  · next h =>
    rw [magnitudeBits_ofMagnitude, hword, Nat.min_eq_right (Nat.le_of_not_lt h)]
    exact Nat.mod_eq_of_lt (by decide)

/-- A larger quotient has a larger magnitude. Where it has more places, the carry of the smaller one ends where its
leading bit stands. -/
theorem roundedMagnitude_mono {n m d : Nat} (hd : 0 < d) (h : n ≤ m) :
    roundedMagnitude n d ≤ roundedMagnitude m d := by
  have hlog : (n / d).log2 ≤ (m / d).log2 := by
    rcases Nat.eq_zero_or_pos (n / d) with hzero | hpos
    · rw [hzero, Nat.log2_zero]
      exact Nat.zero_le _
    · have hfloor : n / d ≤ m / d := Nat.div_le_div_right h
      exact (Nat.le_log2 (by omega)).2 ((Nat.log2_self_le hpos.ne').trans hfloor)
  unfold roundedMagnitude
  obtain ⟨hcarry, -⟩ := encodes_roundDiv (n := n) hd
  obtain ⟨-, hnormal⟩ := encodes_roundDiv (n := m) hd
  by_cases hsame : (n / d).log2 - 52 = (m / d).log2 - 52
  · rw [hsame]
    exact Nat.add_le_add_left (roundDiv_mono (Nat.mul_pos hd (Nat.two_pow_pos _)) h) _
  · have hleading : 2 ^ 52 ≤ roundDiv m (d * 2 ^ ((m / d).log2 - 52)) := by
      rcases hnormal with hzero | hle
      · omega
      · exact hle
    omega

/-- Rounding keeps the order. -/
theorem units_ofUnits_mono (negative negative' : Bool) {n m d : Nat} (hd : 0 < d) (h : n ≤ m) :
    (ofUnits negative n d).units ≤ (ofUnits negative' m d).units := by
  rw [units_le_units_iff, magnitudeBits_ofUnits, magnitudeBits_ofUnits]
  exact min_le_min_right _ (roundedMagnitude_mono hd h)

/-- The sign of a quotient has no part in its rounding. -/
theorem units_ofUnits_congr (negative negative' : Bool) (n d : Nat) :
    (ofUnits negative n d).units = (ofUnits negative' n d).units := by
  apply units_congr
  rw [magnitudeBits_ofUnits, magnitudeBits_ofUnits]

/-! ### What is not moved -/

/-- With at most 53 bits before its zeros, a number is whole in the last place that rounding leaves it. -/
theorem place_dvd {c k : Nat} (hc : c ≤ 2 ^ 53) : 2 ^ ((c * 2 ^ k).log2 - 52) ∣ c * 2 ^ k := by
  have hplace : ∀ {c k : Nat}, c < 2 ^ 53 → 2 ^ ((c * 2 ^ k).log2 - 52) ∣ c * 2 ^ k := by
    intro c k hc
    rcases Nat.eq_zero_or_pos c with rfl | hpos
    · rw [Nat.zero_mul]
      exact Nat.dvd_zero _
    · have hlog : (c * 2 ^ k).log2 < 53 + k := by
        rw [Nat.log2_lt (Nat.mul_pos hpos (Nat.two_pow_pos k)).ne', Nat.pow_add]
        exact Nat.mul_lt_mul_of_pos_right hc (Nat.two_pow_pos k)
      exact (Nat.pow_dvd_pow 2 (by omega)).trans (Nat.dvd_mul_left _ _)
  rcases Nat.lt_or_eq_of_le hc with hlt | rfl
  · exact hplace hlt
  · -- the one number of 54 bits is half of it, one place further
    have hhalf : 2 ^ 53 * 2 ^ k = 2 ^ 52 * 2 ^ (k + 1) := by
      rw [← Nat.pow_add, ← Nat.pow_add]
      congr 1
      omega
    rw [hhalf]
    exact hplace (by decide)

theorem units_ofUnits_exact (negative : Bool) {c k : Nat} (hc : c ≤ 2 ^ 53)
    (h : c * 2 ^ k < (2 ^ 54 - 1) * 2 ^ 2044) : (ofUnits negative (c * 2 ^ k) 1).units = c * 2 ^ k := by
  have hfinite : (ofUnits negative (c * 2 ^ k) 1).isFinite = true :=
    isFinite_ofUnits negative Nat.one_pos (by rwa [Nat.one_mul])
  have hplace : 0 < 2 ^ ((c * 2 ^ k).log2 - 52) := Nat.two_pow_pos _
  obtain ⟨q, hq⟩ := place_dvd (k := k) hc
  rw [units_ofUnits negative Nat.one_pos hfinite, Nat.div_one, Nat.one_mul]
  generalize 2 ^ ((c * 2 ^ k).log2 - 52) = place at hplace hq ⊢
  rw [hq, Nat.mul_comm place q, roundDiv_mul q hplace]

/-- A double is not moved, and neither is an infinity. -/
theorem units_ofUnits_units (negative : Bool) {x : Binary64} (h : x.isNaN = false) :
    (ofUnits negative x.units 1).units = x.units := by
  by_cases hinfinite : x.isInfinite = true
  · have hfixed : (ofUnits false (infinity false).units 1).units = (infinity false).units := by
      decide +kernel
    rw [units_of_isInfinite hinfinite, units_ofUnits_congr negative false, hfixed]
  · rw [Bool.not_eq_true] at hinfinite
    have hfinite := isFinite_of_not h hinfinite
    by_cases hzero : x.magnitudeBits = 0
    · rw [units_eq_zero hzero]
      cases negative <;> decide +kernel
    · obtain ⟨-, hsig, -⟩ := finite_parts hfinite hzero
      have hunits : x.units = x.significand * 2 ^ x.shift := Nat.shiftLeft_eq ..
      have hlt := units_lt hfinite
      rw [hunits] at hlt ⊢
      exact units_ofUnits_exact negative hsig.le hlt

/-! ### Signed numbers of units -/

theorem negative_ofMagnitude (negative : Bool) (m : Nat) : (ofMagnitude negative m).negative = negative := by
  have hword : (1 <<< 63 : Nat) = 9223372036854775808 := rfl
  unfold Binary64.negative ofMagnitude
  rw [UInt64.toNat_ofNat', hword]
  cases negative
  · rw [decide_eq_false_iff_not]
    simp only [Bool.false_eq_true, if_false]
    omega
  · rw [decide_eq_true_eq]
    simp only [if_true]
    omega

theorem negative_ofUnits (negative : Bool) (n d : Nat) : (ofUnits negative n d).negative = negative := by
  unfold ofUnits infinity
  dsimp only
  split
  · exact negative_ofMagnitude negative _
  · exact negative_ofMagnitude negative _

/-- A number of units, rounded to one that a double holds. -/
def roundUnits (n : Int) : Int := (ofUnits (n < 0) n.natAbs 1).signedUnits

theorem roundUnits_eq (n : Int) : roundUnits n = n.sign * (ofUnits false n.natAbs 1).units := by
  rw [roundUnits, signedUnits, negative_ofUnits, units_ofUnits_congr (n < 0) false]
  rcases Int.lt_trichotomy n 0 with hneg | rfl | hpos
  · rw [Int.sign_eq_neg_one_of_neg hneg, decide_eq_true hneg, if_pos rfl, Int.neg_one_mul]
  · decide +kernel
  · rw [Int.sign_eq_one_of_pos hpos, decide_eq_false (Int.lt_asymm hpos), Int.one_mul]
    rfl

theorem roundUnits_neg (n : Int) : roundUnits (-n) = -roundUnits n := by
  rw [roundUnits_eq, roundUnits_eq, Int.sign_neg, Int.natAbs_neg, Int.neg_mul]

theorem roundUnits_nonneg {n : Int} (h : 0 ≤ n) : 0 ≤ roundUnits n := by
  rw [roundUnits_eq]
  exact Int.mul_nonneg (Int.sign_nonneg_iff.2 h) (Int.natCast_nonneg _)

/-- Rounding keeps the order, also across zero. -/
theorem roundUnits_mono {m n : Int} (h : m ≤ n) : roundUnits m ≤ roundUnits n := by
  have hmono : ∀ {m n : Int}, 0 ≤ m → m ≤ n → roundUnits m ≤ roundUnits n := by
    intro m n hm hmn
    rcases Int.lt_or_eq_of_le hm with hpos | rfl
    · have habs : m.natAbs ≤ n.natAbs := by omega
      rw [roundUnits_eq, roundUnits_eq, Int.sign_eq_one_of_pos hpos,
        Int.sign_eq_one_of_pos (Int.lt_of_lt_of_le hpos hmn), Int.one_mul, Int.one_mul]
      exact_mod_cast units_ofUnits_mono false false Nat.one_pos habs
    · exact roundUnits_nonneg hmn
  by_cases hm : 0 ≤ m
  · exact hmono hm h
  by_cases hn : 0 ≤ n
  · have hneg := roundUnits_nonneg (n := -m) (by omega)
    have hpos := roundUnits_nonneg hn
    rw [roundUnits_neg] at hneg
    omega
  · have hneg := hmono (m := -n) (n := -m) (by omega) (by omega)
    rw [roundUnits_neg, roundUnits_neg] at hneg
    omega

theorem natAbs_signedUnits (x : Binary64) : x.signedUnits.natAbs = x.units := by
  unfold signedUnits
  split
  · rw [Int.natAbs_neg, Int.natAbs_natCast]
  · exact Int.natAbs_natCast _

theorem roundUnits_signedUnits {x : Binary64} (h : x.isNaN = false) :
    roundUnits x.signedUnits = x.signedUnits := by
  rw [roundUnits_eq, natAbs_signedUnits, units_ofUnits_units false h, ← natAbs_signedUnits,
    Int.sign_mul_natAbs]

/-! ### Integers -/

theorem natAbs_units (i : Int) : (i * (2 ^ 1074 : Nat)).natAbs = i.natAbs * 2 ^ 1074 := by
  rw [Int.natAbs_mul, Int.natAbs_natCast]

theorem signedUnits_ofInt (i : Int) : (ofInt i).signedUnits = roundUnits (i * (2 ^ 1074 : Nat)) := by
  have hunit : (0 : Int) < (2 ^ 1074 : Nat) := Int.natCast_pos.2 (two_pow_pos 1074)
  have hsign : decide (i * (2 ^ 1074 : Nat) < 0) = decide (i < 0) := by
    rw [decide_eq_decide]
    constructor
    · intro hproduct
      by_contra hi
      exact absurd hproduct (Int.not_lt.2 (Int.mul_nonneg (Int.not_lt.1 hi) hunit.le))
    · intro hi
      exact Int.mul_neg_of_neg_of_pos hi hunit
  rw [roundUnits, hsign, natAbs_units, ofInt, ofRatio, shiftLeft_eq_mul]

/-- Up to 2 ^ 53 every integer is a double. -/
theorem roundUnits_exact {i : Int} (h : i.natAbs ≤ 2 ^ 53) :
    roundUnits (i * (2 ^ 1074 : Nat)) = i * (2 ^ 1074 : Nat) := by
  have hlt : i.natAbs * 2 ^ 1074 < (2 ^ 54 - 1) * 2 ^ 2044 :=
    Nat.mul_lt_mul_of_lt_of_le (Nat.lt_of_le_of_lt h (by decide)) (two_pow_le (by decide)) (two_pow_pos 2044)
  rw [roundUnits_eq, natAbs_units, units_ofUnits_exact false h hlt, ← natAbs_units, Int.sign_mul_natAbs]

end Binary64

end RuleTree
