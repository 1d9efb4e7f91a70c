import Mathlib.Tactic.Linarith
import Mathlib.Tactic.Ring
import RuleTree.Proofs.Number.Comparison

/-! How far rounding moves a quotient. All values count units of 2 ^ -1074, so that a rounded quotient is a
significand of at most 53 bits, shifted. -/

namespace RuleTree

/-- Rounding to an integer moves a quotient by half a place at most. -/
theorem roundDiv_bounds (n : Nat) {d : Nat} (hd : 0 < d) :
    2 * (d * roundDiv n d) ≤ 2 * n + d ∧ 2 * n ≤ 2 * (d * roundDiv n d) + d := by
  have hsplit := Nat.div_add_mod n d
  have hmod := Nat.mod_lt n hd
  unfold roundDiv
  dsimp only
  split
  · omega
  · split
    · rw [Nat.mul_add]; omega
    · split
      · omega
      · rw [Nat.mul_add]; omega

theorem roundDiv_le {n d q : Nat} (hd : 0 < d) (h : 2 * n < (2 * q + 1) * d) :
    roundDiv n d ≤ q := by
  have hbound := (roundDiv_bounds n hd).1
  have hlt : d * roundDiv n d < d * (q + 1) := by
    rw [Nat.add_mul, Nat.one_mul, Nat.mul_assoc, Nat.mul_comm q] at h
    rw [Nat.mul_add]
    omega
  exact Nat.le_of_lt_succ (Nat.lt_of_mul_lt_mul_left hlt)

theorem le_roundDiv {n d q : Nat} (hd : 0 < d) (h : q * d ≤ n) : q ≤ roundDiv n d := by
  have hfloor : q ≤ n / d := (Nat.le_div_iff_mul_le hd).2 h
  unfold roundDiv
  dsimp only
  split
  · exact hfloor
  · split
    · omega
    · split <;> omega

namespace Binary64

/-! ### Magnitudes -/

/-- A significand of at most 53 bits, shifted; without a shift it may have fewer bits. -/
structure Encodes (shift significand : Nat) : Prop where
  le : significand ≤ 2 ^ 53
  normal : shift = 0 ∨ 2 ^ 52 ≤ significand

theorem units_ofMagnitude (negative : Bool) {shift significand : Nat}
    (h : Encodes shift significand) (hfinite : shift * 2 ^ 52 + significand < 2047 * 2 ^ 52) :
    (ofMagnitude negative (shift * 2 ^ 52 + significand)).units = significand * 2 ^ shift := by
  obtain ⟨hle, hnormal⟩ := h
  have hbits : (ofMagnitude negative (shift * 2 ^ 52 + significand)).magnitudeBits =
      shift * 2 ^ 52 + significand := by
    rw [magnitudeBits_ofMagnitude]
    exact Nat.mod_eq_of_lt (by omega)
  have hfield : (ofMagnitude negative (shift * 2 ^ 52 + significand)).exponentField =
      (shift * 2 ^ 52 + significand) / 2 ^ 52 := by
    rw [exponentField, hbits, Nat.shiftRight_eq_div_pow]
  have hfraction : (ofMagnitude negative (shift * 2 ^ 52 + significand)).fractionField =
      (shift * 2 ^ 52 + significand) % 2 ^ 52 := by
    rw [fractionField, hbits, Nat.one_shiftLeft]
  rw [units, Binary64.significand, Binary64.shift, hfield, hfraction, Nat.shiftLeft_eq,
    Nat.one_shiftLeft]
  -- below the normal numbers, among them, and at a carry out of the significand
  by_cases hlow : significand < 2 ^ 52
  · obtain rfl : shift = 0 := by omega
    rw [Nat.zero_mul, Nat.zero_add, Nat.div_eq_of_lt hlow, Nat.mod_eq_of_lt hlow, if_pos rfl]
  · by_cases hcarry : significand = 2 ^ 53
    · have hquot : (shift * 2 ^ 52 + significand) / 2 ^ 52 = shift + 2 := by omega
      have hrem : (shift * 2 ^ 52 + significand) % 2 ^ 52 = 0 := by omega
      rw [hquot, hrem, if_neg (by omega), hcarry]
      have hstep : shift + 2 - 1 = shift + 1 := by omega
      rw [hstep, Nat.pow_succ]
      ring
    · have hquot : (shift * 2 ^ 52 + significand) / 2 ^ 52 = shift + 1 := by omega
      have hrem : (shift * 2 ^ 52 + significand) % 2 ^ 52 = significand - 2 ^ 52 := by omega
      rw [hquot, hrem, if_neg (by omega), Nat.add_sub_cancel]
      have hback : 2 ^ 52 + (significand - 2 ^ 52) = significand := by omega
      rw [hback]

/-! ### Rounded quotients -/

variable (negative : Bool) {n d : Nat}

/-- The exponent of a quotient leaves 53 bits of it before the point, or all of it. -/
theorem encodes_roundDiv (hd : 0 < d) :
    Encodes ((n / d).log2 - 52) (roundDiv n (d * 2 ^ ((n / d).log2 - 52))) := by
  generalize hlog : (n / d).log2 = log
  have hpos : 0 < d * 2 ^ (log - 52) := Nat.mul_pos hd (Nat.two_pow_pos _)
  constructor
  · have hpow : 2 ^ (log + 1) ≤ 2 ^ (log - 52) * 2 ^ 53 := by
      rw [← Nat.pow_add]
      exact Nat.pow_le_pow_right (by decide) (by omega)
    have hlt : n / d < 2 ^ (log + 1) := hlog ▸ Nat.lt_log2_self
    have hn : n < d * 2 ^ (log - 52) * 2 ^ 53 := by
      rw [Nat.div_lt_iff_lt_mul hd, Nat.mul_comm] at hlt
      rw [Nat.mul_assoc]
      exact Nat.lt_of_lt_of_le hlt (Nat.mul_le_mul_left d hpow)
    apply roundDiv_le hpos
    rw [Nat.add_mul]
    omega
  · rcases Nat.eq_zero_or_pos (log - 52) with hzero | hshift
    · exact .inl hzero
    · right
      have hne : n / d ≠ 0 := by
        intro h0
        rw [h0, Nat.log2_zero] at hlog
        omega
      have hle : 2 ^ log ≤ n / d := hlog ▸ Nat.log2_self_le hne
      apply le_roundDiv hpos
      calc 2 ^ 52 * (d * 2 ^ (log - 52)) = d * 2 ^ (52 + (log - 52)) := by
            rw [Nat.pow_add]; ring
        _ = d * 2 ^ log := by rw [Nat.add_sub_cancel' (by omega)]
        _ ≤ n := by rwa [Nat.le_div_iff_mul_le hd, Nat.mul_comm] at hle

theorem ofUnits_eq (h : (ofUnits negative n d).isFinite = true) :
    ofUnits negative n d = ofMagnitude negative
      (((n / d).log2 - 52) * 2 ^ 52 + roundDiv n (d * 2 ^ ((n / d).log2 - 52))) ∧
      ((n / d).log2 - 52) * 2 ^ 52 + roundDiv n (d * 2 ^ ((n / d).log2 - 52)) < 2047 * 2 ^ 52 := by
  unfold ofUnits at h ⊢
  simp only [Nat.shiftLeft_eq] at h ⊢
  split at h
  · next hlt => exact ⟨if_pos hlt, hlt⟩
  · exact absurd h (by rw [infinity, isFinite, magnitudeBits_ofMagnitude]; decide)

theorem units_ofUnits (hd : 0 < d) (h : (ofUnits negative n d).isFinite = true) :
    (ofUnits negative n d).units =
      roundDiv n (d * 2 ^ ((n / d).log2 - 52)) * 2 ^ ((n / d).log2 - 52) := by
  obtain ⟨heq, hlt⟩ := ofUnits_eq negative h
  rw [heq, units_ofMagnitude negative (encodes_roundDiv hd) hlt]

/-- Where the significand has all its bits, one of its places is a 2 ^ 52th of the quotient at most. -/
theorem place_le (hd : 0 < d) (hn : d * 2 ^ 52 ≤ n) :
    d * 2 ^ ((n / d).log2 - 52) * 2 ^ 52 ≤ n ∧ 2 ^ (n / d).log2 ≤ n / d ∧ 52 ≤ (n / d).log2 := by
  have hfloor : 2 ^ 52 ≤ n / d := by rwa [Nat.le_div_iff_mul_le hd, Nat.mul_comm]
  have hlog : 52 ≤ (n / d).log2 := (Nat.le_log2 (by omega)).2 hfloor
  have hle : 2 ^ (n / d).log2 ≤ n / d := Nat.log2_self_le (by omega)
  refine ⟨?_, hle, hlog⟩
  calc d * 2 ^ ((n / d).log2 - 52) * 2 ^ 52 = d * 2 ^ ((n / d).log2 - 52 + 52) := by
        rw [Nat.pow_add, Nat.mul_assoc]
    _ = d * 2 ^ (n / d).log2 := by rw [Nat.sub_add_cancel hlog]
    _ ≤ n := by rwa [Nat.le_div_iff_mul_le hd, Nat.mul_comm] at hle

/-- A quotient of at least 2 ^ 52 units grows by one part in 2 ^ 53 at most. -/
theorem units_ofUnits_le (hd : 0 < d) (hn : d * 2 ^ 52 ≤ n)
    (h : (ofUnits negative n d).isFinite = true) :
    2 ^ 53 * (d * (ofUnits negative n d).units) ≤ (2 ^ 53 + 1) * n := by
  have hplace := (place_le hd hn).1
  have hround := (roundDiv_bounds n (Nat.mul_pos hd (Nat.two_pow_pos ((n / d).log2 - 52)))).1
  rw [units_ofUnits negative hd h]
  generalize 2 ^ ((n / d).log2 - 52) = place at hplace hround ⊢
  have hassoc : d * (roundDiv n (d * place) * place) = d * place * roundDiv n (d * place) := by ring
  rw [hassoc, Nat.add_mul]
  omega

/-- A power of two stays a lower bound. -/
theorem le_units_ofUnits {k : Nat} (hd : 0 < d) (hk : 52 ≤ k) (hn : d * 2 ^ k ≤ n)
    (h : (ofUnits negative n d).isFinite = true) : 2 ^ k ≤ (ofUnits negative n d).units := by
  have hsmall : d * 2 ^ 52 ≤ n :=
    Nat.le_trans (Nat.mul_le_mul_left d (Nat.pow_le_pow_right (by decide) hk)) hn
  obtain ⟨hplace, hle, hlog⟩ := place_le hd hsmall
  have hk' : k ≤ (n / d).log2 := by
    have hfloor : 2 ^ k ≤ n / d := by rwa [Nat.le_div_iff_mul_le hd, Nat.mul_comm]
    exact (Nat.le_log2 (by have := Nat.two_pow_pos k; omega)).2 hfloor
  have hround : 2 ^ 52 ≤ roundDiv n (d * 2 ^ ((n / d).log2 - 52)) :=
    le_roundDiv (Nat.mul_pos hd (Nat.two_pow_pos _)) (by rwa [Nat.mul_comm])
  rw [units_ofUnits negative hd h]
  calc 2 ^ k ≤ 2 ^ (52 + ((n / d).log2 - 52)) := Nat.pow_le_pow_right (by decide) (by omega)
    _ = 2 ^ 52 * 2 ^ ((n / d).log2 - 52) := Nat.pow_add ..
    _ ≤ _ := Nat.mul_le_mul_right _ hround

/-- A quotient below the middle of two powers of two has so many bits, and the significand does not carry. -/
theorem below_middle {k : Nat} (hd : 0 < d) (h : n < d * ((2 ^ 54 - 1) * 2 ^ k)) :
    (n / d).log2 ≤ k + 53 ∧ roundDiv n (d * 2 ^ (k + 1)) ≤ 2 ^ 53 - 1 := by
  constructor
  · have htop : (2 ^ 54 - 1) * 2 ^ k ≤ 2 ^ (54 + k) := by
      rw [Nat.pow_add]
      exact Nat.mul_le_mul_right (2 ^ k) (by decide)
    have hfloor : n / d < 2 ^ (54 + k) :=
      Nat.div_lt_of_lt_mul (Nat.lt_of_lt_of_le h (Nat.mul_le_mul_left d htop))
    by_cases hzero : n / d = 0
    · rw [hzero, Nat.log2_zero]
      exact Nat.zero_le _
    · have hlog := (Nat.log2_lt hzero).2 hfloor
      omega
  · have htwo : d * 2 ^ (k + 1) = 2 * (d * 2 ^ k) := by rw [Nat.pow_succ]; ring
    have hassoc : d * ((2 ^ 54 - 1) * 2 ^ k) = (2 ^ 54 - 1) * (d * 2 ^ k) := by ring
    apply roundDiv_le (Nat.mul_pos hd (Nat.two_pow_pos _))
    rw [hassoc] at h
    rw [htwo]
    generalize d * 2 ^ k = place at h ⊢
    omega

/-- Below the middle between the largest double and the next power of two nothing rounds to infinity. -/
theorem isFinite_ofUnits (hd : 0 < d) (h : n < d * ((2 ^ 54 - 1) * 2 ^ 2044)) :
    (ofUnits negative n d).isFinite = true := by
  obtain ⟨hle, -⟩ := encodes_roundDiv (n := n) hd
  obtain ⟨hlog, hcarry⟩ := below_middle hd h
  have hlt : ((n / d).log2 - 52) * 2 ^ 52 + roundDiv n (d * 2 ^ ((n / d).log2 - 52)) <
      2047 * 2 ^ 52 := by
    clear h
    by_cases htop : (n / d).log2 - 52 = 2044 + 1
    · rw [htop]
      omega
    · omega
  unfold ofUnits
  simp only [Nat.shiftLeft_eq]
  rw [if_pos hlt, isFinite, magnitudeBits_ofMagnitude, Nat.one_shiftLeft, Nat.shiftLeft_eq,
    Nat.mod_eq_of_lt (by omega)]
  exact decide_eq_true hlt

end Binary64

end RuleTree
