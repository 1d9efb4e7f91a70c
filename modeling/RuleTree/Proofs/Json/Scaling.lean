import RuleTree.Json.Numeral
import RuleTree.Proofs.Binary64.Rounding
import RuleTree.Proofs.Binary64.Shortest

/-! Scaling by a power of ten. What is read is finite, and no quotient is out of range; a product is not where
the exact one stays clear of the end of the range. -/

namespace RuleTree

namespace Binary64

/-! ### Powers

Powers that are too large to be computed are written in one way only, so that they match as they stand. -/

theorem two_pow_pos (k : Nat) : 0 < 2 ^ k := Nat.two_pow_pos k

theorem shiftLeft_eq_mul (n k : Nat) : n <<< k = n * 2 ^ k := Nat.shiftLeft_eq n k

theorem ten_pow_pos (k : Nat) : 0 < Nat.pow 10 k := Nat.pow_pos (by decide)

theorem ten_pow_le {k l : Nat} (h : k ≤ l) : Nat.pow 10 k ≤ Nat.pow 10 l :=
  Nat.pow_le_pow_right (by decide) h

theorem two_pow_le {k l : Nat} (h : k ≤ l) : 2 ^ k ≤ 2 ^ l := Nat.pow_le_pow_right (by decide) h

/-! ### Finite values -/

variable {x y : Binary64}

theorem isFinite_of_not (hnan : x.isNaN = false) (hinfinite : x.isInfinite = false) :
    x.isFinite = true := by
  rw [isNaN, decide_eq_false_iff_not] at hnan
  rw [isInfinite, decide_eq_false_iff_not] at hinfinite
  rw [isFinite, decide_eq_true_eq]
  omega

theorem isNaN_of_isFinite (h : x.isFinite = true) : x.isNaN = false := by
  rw [isFinite, decide_eq_true_eq] at h
  rw [isNaN, decide_eq_false_iff_not]
  omega

theorem isFinite_neg (h : x.isFinite = true) : x.neg.isFinite = true := by
  have hmod : x.magnitudeBits % (1 <<< 63) = x.magnitudeBits := Nat.mod_mod ..
  rwa [neg, isFinite, magnitudeBits_ofMagnitude, hmod, ← isFinite]

theorem isFinite_zero (negative : Bool) : (zero negative).isFinite = true := by
  rw [zero, isFinite, magnitudeBits_ofMagnitude]
  rfl

theorem units_le {k : Nat} (hsig : x.significand < 2 ^ 53) (hshift : x.shift ≤ k + 1) :
    x.units ≤ (2 ^ 53 - 1) * (2 * 2 ^ k) := by
  rw [units, Nat.shiftLeft_eq, ← Nat.pow_succ']
  exact Nat.mul_le_mul (Nat.le_pred_of_lt hsig) (Nat.pow_le_pow_right (by decide) hshift)

theorem units_eq_zero (h : x.magnitudeBits = 0) : x.units = 0 := by
  simp [units, significand, exponentField, fractionField, h]

/-- Finite values end below the middle between the largest double and the next power of two. -/
theorem units_lt (h : x.isFinite = true) : x.units < (2 ^ 54 - 1) * 2 ^ 2044 := by
  have htop : 0 < 2 ^ 2044 := two_pow_pos 2044
  have hle : x.units ≤ (2 ^ 53 - 1) * (2 * 2 ^ 2044) := by
    by_cases hzero : x.magnitudeBits = 0
    · rw [units_eq_zero hzero]
      exact Nat.zero_le _
    · obtain ⟨-, hsig, hshift⟩ := finite_parts h hzero
      exact units_le hsig hshift
  generalize 2 ^ 2044 = top at htop hle ⊢
  omega

/-! ### Whole numbers -/

variable {n : Nat}

theorem ofNat_eq (n : Nat) : ofNat n = ofUnits false (n * 2 ^ 1074) 1 := by
  rw [ofNat, ofRatio, shiftLeft_eq_mul]

theorem isFinite_ofNat (h : n < (2 ^ 54 - 1) * 2 ^ 970) : (ofNat n).isFinite = true := by
  have hsplit : 1 * ((2 ^ 54 - 1) * 2 ^ 2044) = (2 ^ 54 - 1) * 2 ^ 970 * 2 ^ 1074 := by
    rw [Nat.one_mul, Nat.mul_assoc, ← Nat.pow_add]
  rw [ofNat_eq]
  apply isFinite_ofUnits false Nat.one_pos
  rw [hsplit]
  exact Nat.mul_lt_mul_of_pos_right h (two_pow_pos 1074)

theorem le_units_ofNat (hpos : 0 < n) (h : (ofNat n).isFinite = true) :
    2 ^ 1074 ≤ (ofNat n).units := by
  rw [ofNat_eq] at h ⊢
  refine le_units_ofUnits false Nat.one_pos (by decide) ?_ h
  rw [Nat.one_mul]
  exact Nat.le_mul_of_pos_left (2 ^ 1074) hpos

theorem units_ofNat_le (hpos : 0 < n) (h : (ofNat n).isFinite = true) :
    2 ^ 53 * (ofNat n).units ≤ (2 ^ 53 + 1) * (n * 2 ^ 1074) := by
  rw [ofNat_eq] at h ⊢
  have hle := units_ofUnits_le false Nat.one_pos ?_ h
  · rwa [Nat.one_mul] at hle
  · rw [Nat.one_mul]
    have hplace : 2 ^ 52 ≤ 2 ^ 1074 := two_pow_le (by decide)
    exact hplace.trans (Nat.le_mul_of_pos_left (2 ^ 1074) hpos)

/-- The powers of ten that one step scales by are finite. -/
theorem isFinite_power {k : Nat} (h : k ≤ 308) : (ofNat (Nat.pow 10 k)).isFinite = true := by
  have htop : Nat.pow 10 308 < (2 ^ 54 - 1) * 2 ^ 970 := by decide +kernel
  exact isFinite_ofNat ((ten_pow_le h).trans_lt htop)

/-! ### Products and quotients -/

theorem quotient_lt {u v one top : Nat} (hu : u < top) (hone : one ≤ v) (hpos : 0 < v) :
    u * one < v * top :=
  calc u * one ≤ u * v := Nat.mul_le_mul_left u hone
    _ < top * v := Nat.mul_lt_mul_of_pos_right hu hpos
    _ = v * top := Nat.mul_comm ..

/-- Dividing by a value that is at least one keeps a value finite. -/
theorem isFinite_div (hx : x.isFinite = true) (hy : 2 ^ 1074 ≤ y.units) :
    (x.div y).isFinite = true := by
  have hpos : 0 < y.units := Nat.lt_of_lt_of_le (two_pow_pos 1074) hy
  rw [div, shiftLeft_eq_mul]
  exact isFinite_ofUnits _ hpos (quotient_lt (units_lt hx) hy hpos)

theorem isFinite_mul (h : x.units * y.units < 2 ^ 1074 * ((2 ^ 54 - 1) * 2 ^ 2044)) :
    (x.mul y).isFinite = true := by
  rw [mul, shiftLeft_eq_mul, Nat.one_mul]
  exact isFinite_ofUnits _ (two_pow_pos 1074) h

end Binary64

namespace Json

open Binary64

variable {f g : Binary64} {e : Int}

/-- One step divides by a power of ten. -/
theorem isFinite_step (hf : f.isFinite = true) {k : Nat} (hk : k ≤ 308) :
    (f.div (.ofNat (Nat.pow 10 k))).isFinite = true :=
  isFinite_div hf (le_units_ofNat (ten_pow_pos k) (isFinite_power hk))

theorem scale_finite {fuel : Nat} (hf : f.isFinite = true) (h : scale f e fuel = some g) :
    g.isFinite = true := by
  induction fuel generalizing f e with
  | zero =>
    cases h
    exact hf
  | succ fuel ih =>
    unfold scale at h
    split at h
    · next hsmall =>
      dsimp only at h
      split at h
      · split at h
        · cases h
        · next hinfinite =>
          cases h
          exact isFinite_of_not (isNaN_ofUnits ..) (Bool.not_eq_true _ ▸ hinfinite)
      · cases h
        exact isFinite_step hf hsmall
    · split at h
      · cases h
        exact hf
      · split at h
        · cases h
        · refine ih ?_ h
          exact isFinite_step hf (Nat.le_refl 308)

theorem isFinite_significand {n : Nat} (h : n < UInt64.size) : (ofNat n).isFinite = true := by
  have htop : UInt64.size < (2 ^ 54 - 1) * 2 ^ 970 := by decide +kernel
  exact isFinite_ofNat (Nat.lt_trans h htop)

/-- No numeral is read as a value that is not finite. -/
theorem ofParts_finite {negative : Bool} {n : Nat} (hn : n < UInt64.size)
    (h : ofParts negative n e = some g) : g.isFinite = true := by
  obtain ⟨f, hscale, rfl⟩ := Option.map_eq_some_iff.1 h
  have hf := scale_finite (isFinite_significand hn) hscale
  split
  · exact isFinite_neg hf
  · exact hf

/-! ### In range -/

theorem ofParts_isSome {negative : Bool} {n : Nat} :
    (ofParts negative n e).isSome = (scale (.ofNat n) e 5).isSome := Option.isSome_map ..

/-- Dividing never leaves the range. -/
theorem scale_isSome_of_neg {fuel : Nat} (hneg : e < 0) (he : -616 ≤ e) :
    (scale f e (fuel + 2)).isSome = true := by
  have hdown : ¬ 0 ≤ e := by omega
  unfold scale
  split
  · rfl
  · split
    · rfl
    · unfold scale
      have hsmall : (e + 308).natAbs ≤ 308 := by omega
      have hzero : ¬ 0 ≤ e + 308 := by omega
      rw [if_pos hsmall, if_neg hzero]
      rfl

/-- A product of two rounded values whose exact product ends three places before the range does. -/
theorem product_lt {n m u v place top : Nat} (hplace : 0 < place) (hu : 2 ^ 53 * u ≤ (2 ^ 53 + 1) * (n * place))
    (hv : 2 ^ 53 * v ≤ (2 ^ 53 + 1) * (m * place)) (htop : 0 < top)
    (h : n * m * place ≤ (2 ^ 54 - 5) * top) : u * v < place * ((2 ^ 54 - 1) * top) := by
  have hmul := Nat.mul_le_mul hu hv
  have hleft : 2 ^ 53 * u * (2 ^ 53 * v) = 2 ^ 106 * (u * v) := by ring
  have hright : (2 ^ 53 + 1) * (n * place) * ((2 ^ 53 + 1) * (m * place)) =
      (2 ^ 53 + 1) ^ 2 * (n * m * place) * place := by ring
  rw [hleft, hright] at hmul
  have hbound : (2 ^ 53 + 1) ^ 2 * (n * m * place) < 2 ^ 106 * ((2 ^ 54 - 1) * top) := by
    generalize n * m * place = exact at h ⊢
    omega
  have hlt := Nat.mul_lt_mul_of_pos_right hbound hplace
  have hassoc : 2 ^ 106 * ((2 ^ 54 - 1) * top) * place = 2 ^ 106 * (place * ((2 ^ 54 - 1) * top)) := by
    ring
  rw [hassoc] at hlt
  exact Nat.lt_of_mul_lt_mul_left (Nat.lt_of_le_of_lt hmul hlt)

/-- Multiplying stays in range where the exact product is three places below the end of it. -/
theorem scale_isSome_of_le {n : Nat} (hn : 0 < n) (hsize : n < UInt64.size) {k fuel : Nat} (hk : k ≤ 308)
    (h : n * Nat.pow 10 k * 2 ^ 1074 ≤ (2 ^ 54 - 5) * 2 ^ 2044) :
    (scale (.ofNat n) k (fuel + 1)).isSome = true := by
  have hfinite := isFinite_significand hsize
  have hpower := isFinite_power hk
  have hproduct : ((ofNat n).mul (ofNat (Nat.pow 10 k))).isFinite = true :=
    isFinite_mul (product_lt (two_pow_pos 1074) (units_ofNat_le hn hfinite)
      (units_ofNat_le (ten_pow_pos k) hpower) (two_pow_pos 2044) h)
  have hinfinite : ((ofNat n).mul (ofNat (Nat.pow 10 k))).isInfinite = false := by
    rw [isFinite, decide_eq_true_eq] at hproduct
    exact decide_eq_false (Nat.ne_of_lt hproduct)
  unfold scale
  rw [Int.natAbs_natCast, if_pos hk]
  dsimp only
  rw [if_pos (Int.natCast_nonneg k), hinfinite]
  rfl

end Json

end RuleTree
