import RuleTree.Proofs.Binary64.Monotone

/-! The order of numbers. Two integers are weighed as they are, and with a double in play both sides are weighed
rounded. Rounding keeps the order, so that a strict outcome is never wrong and passes on from one comparison to the
next. Equal outcomes pass on too, unless a double stands between two integers that both round to it. -/

namespace RuleTree

open Binary64

namespace Number

/-- The number in units of 2 ^ -1074, exactly. -/
def signedUnits : Number → Int
  | signed n => n.toInt * (2 ^ 1074 : Nat)
  | unsigned n => n.toNat * (2 ^ 1074 : Nat)
  | real x => x.signedUnits

def isInteger (n : Number) : Bool := n.toInt?.isSome

theorem signedUnits_of_toInt? {n : Number} {i : Int} (h : n.toInt? = some i) :
    n.signedUnits = i * (2 ^ 1074 : Nat) := by
  cases n with
  | signed n => cases h; rfl
  | unsigned n => cases h; rfl
  | real x => cases h

/-- Whatever kind holds a number, it is rounded from its exact value. -/
theorem signedUnits_toReal {n : Number} (h : n.isNaN = false) :
    n.toReal.signedUnits = roundUnits n.signedUnits := by
  rcases hi : n.toInt? with _ | i
  · cases n with
    | real x => exact (roundUnits_signedUnits h).symm
    | signed n => cases hi
    | unsigned n => cases hi
  · rw [toReal_of_toInt? hi, signedUnits_ofInt, signedUnits_of_toInt? hi]

/-! ### What a comparison weighs -/

/-- The number as it is, or rounded. -/
def weight : Bool → Number → Int
  | true, n => n.signedUnits
  | false, n => roundUnits n.signedUnits

theorem weight_mono (exact : Bool) {a b : Number} (h : a.signedUnits ≤ b.signedUnits) :
    a.weight exact ≤ b.weight exact := by
  cases exact with
  | true => rwa [weight, weight]
  | false =>
    rw [weight, weight]
    exact roundUnits_mono h

theorem compare_toReal {a b : Number} (ha : a.isNaN = false) (hb : b.isNaN = false) :
    a.toReal.compare b.toReal = some (Ord.compare (weight false a) (weight false b)) := by
  unfold Binary64.compare
  rw [isNaN_toReal, isNaN_toReal, ha, hb, signedUnits_toReal ha, signedUnits_toReal hb, weight, weight]
  exact if_neg Bool.false_ne_true

/-- A common scale is no part of an order. -/
theorem compare_mul {i j u : Int} (hu : 0 < u) : Ord.compare (i * u) (j * u) = Ord.compare i j := by
  rcases h : Ord.compare i j with _ | _ | _
  · rw [Int.compare_eq_lt] at h ⊢
    exact Int.mul_lt_mul_of_pos_right h hu
  · rw [Int.compare_eq_eq] at h ⊢
    rw [h]
  · rw [Int.compare_eq_gt] at h ⊢
    exact Int.mul_lt_mul_of_pos_right h hu

theorem compare_toInt? {a b : Number} {i j : Int} (hi : a.toInt? = some i) (hj : b.toInt? = some j) :
    Ord.compare (weight true a) (weight true b) = Ord.compare i j := by
  have hunit : (0 : Int) < (2 ^ 1074 : Nat) := Int.natCast_pos.2 (two_pow_pos 1074)
  rw [weight, weight, signedUnits_of_toInt? hi, signedUnits_of_toInt? hj, compare_mul hunit]

theorem compare_eq {a b : Number} (ha : a.isNaN = false) (hb : b.isNaN = false) :
    a.compare b = some (Ord.compare (a.weight (a.isInteger && b.isInteger))
      (b.weight (a.isInteger && b.isInteger))) := by
  have hrounded := compare_toReal ha hb
  unfold compare isInteger
  rcases hi : a.toInt? with _ | i
  · exact hrounded
  rcases hj : b.toInt? with _ | j
  · exact hrounded
  · exact congrArg some (compare_toInt? hi hj).symm

/-- What the outcome of a comparison is, and when it has one. -/
theorem compare_eq_some_iff {a b : Number} {o : Ordering} :
    a.compare b = some o ↔ a.isNaN = false ∧ b.isNaN = false ∧
      Ord.compare (a.weight (a.isInteger && b.isInteger)) (b.weight (a.isInteger && b.isInteger)) = o := by
  constructor
  · intro h
    have hsome : ¬ (a.isNaN = true ∨ b.isNaN = true) := by
      rw [← compare_eq_none_iff, h]
      exact Option.some_ne_none o
    rw [not_or, Bool.not_eq_true, Bool.not_eq_true] at hsome
    obtain ⟨ha, hb⟩ := hsome
    rw [compare_eq ha hb, Option.some_inj] at h
    exact ⟨ha, hb, h⟩
  · rintro ⟨ha, hb, rfl⟩
    exact compare_eq ha hb

/-! ### Strict outcomes -/

variable {a b c : Number}

theorem compare_eq_lt_iff :
    a.compare b = some .lt ↔ a.isNaN = false ∧ b.isNaN = false ∧
      weight (a.isInteger && b.isInteger) a < weight (a.isInteger && b.isInteger) b := by
  rw [compare_eq_some_iff, Int.compare_eq_lt]

/-- What compares as less is less. -/
theorem signedUnits_lt_of_compare (h : a.compare b = some .lt) : a.signedUnits < b.signedUnits := by
  obtain ⟨-, -, hlt⟩ := compare_eq_lt_iff.1 h
  by_contra hge
  exact absurd hlt (Int.not_lt.2 (weight_mono _ (Int.not_lt.1 hge)))

/-- The comparison the other way round has the reverse outcome. -/
theorem compare_swap (a b : Number) : b.compare a = (a.compare b).map Ordering.swap := by
  rcases h : a.compare b with _ | o
  · rw [compare_eq_none_iff] at h
    exact (compare_eq_none_iff b a).2 h.symm
  · obtain ⟨ha, hb, ho⟩ := compare_eq_some_iff.1 h
    rw [compare_eq hb ha, Bool.and_comm, ← Int.compare_swap, ho]
    rfl

/-- With a double at one end the rounded values are in order all along, strictly where that double is compared. -/
theorem weight_lt_trans (hab : a.compare b = some .lt) (hbc : b.compare c = some .lt) :
    weight (a.isInteger && c.isInteger) a < weight (a.isInteger && c.isInteger) c := by
  have hexact := Int.lt_trans (signedUnits_lt_of_compare hab) (signedUnits_lt_of_compare hbc)
  have hle := weight_mono false (signedUnits_lt_of_compare hab).le
  have hle' := weight_mono false (signedUnits_lt_of_compare hbc).le
  obtain ⟨-, -, hlt⟩ := compare_eq_lt_iff.1 hab
  obtain ⟨-, -, hlt'⟩ := compare_eq_lt_iff.1 hbc
  rcases ha : a.isInteger with _ | _
  · rw [ha, Bool.false_and] at hlt
    exact Int.lt_of_lt_of_le hlt hle'
  rcases hc : c.isInteger with _ | _
  · rw [hc, Bool.and_false] at hlt'
    exact Int.lt_of_le_of_lt hle hlt'
  · exact hexact

/-- The order is strict: a comparison has an outcome unless a NaN is compared, the other way round the outcome is the
reverse, and less passes on, whatever the kinds of the numbers. -/
theorem compare_strict (a b c : Number) :
    (a.compare b = none ↔ a.isNaN = true ∨ b.isNaN = true) ∧
      b.compare a = (a.compare b).map Ordering.swap ∧
      (a.compare b = some .lt → b.compare c = some .lt → a.compare c = some .lt) := by
  refine ⟨compare_eq_none_iff a b, compare_swap a b, fun hab hbc => ?_⟩
  obtain ⟨ha, -, -⟩ := compare_eq_lt_iff.1 hab
  obtain ⟨-, hc, -⟩ := compare_eq_lt_iff.1 hbc
  exact compare_eq_lt_iff.2 ⟨ha, hc, weight_lt_trans hab hbc⟩

/-- From the largest signed integer, which rounds up, past the second double from there, to the largest unsigned one. -/
theorem compare_strict_mixed :
    let a : Number := .signed 9223372036854775807
    let b : Number := .real ⟨0x43E0000000000001⟩
    let c : Number := .unsigned 18446744073709551615
    a.compare b = some .lt ∧ b.compare c = some .lt ∧ a.compare c = some .lt := by
  intro a b c
  have hab : a.compare b = some .lt := by decide +kernel
  have hbc : b.compare c = some .lt := by decide +kernel
  exact ⟨hab, hbc, (compare_strict a b c).2.2 hab hbc⟩

/-! ### Equal outcomes -/

/-- Less or equal. -/
def AtMost (a b : Number) : Prop := a.compare b = some .lt ∨ a.compare b = some .eq

theorem compare_eq_eq_iff :
    a.compare b = some .eq ↔ a.isNaN = false ∧ b.isNaN = false ∧
      weight (a.isInteger && b.isInteger) a = weight (a.isInteger && b.isInteger) b := by
  rw [compare_eq_some_iff, Int.compare_eq_eq]

theorem atMost_iff :
    a.AtMost b ↔ a.isNaN = false ∧ b.isNaN = false ∧
      weight (a.isInteger && b.isInteger) a ≤ weight (a.isInteger && b.isInteger) b := by
  rw [AtMost, compare_eq_lt_iff, compare_eq_eq_iff, Int.le_iff_lt_or_eq]
  tauto

theorem weight_le_of_atMost (h : a.AtMost b) : weight false a ≤ weight false b := by
  obtain ⟨-, -, hle⟩ := atMost_iff.1 h
  rcases he : a.isInteger && b.isInteger with _ | _
  · rwa [he] at hle
  · rw [he, weight, weight] at hle
    exact weight_mono false hle

/-- Two different integers that both compare as equal to the double `b`. -/
structure Merges (b a c : Number) : Prop where
  double : b.isInteger = false
  left : a.isInteger = true
  right : c.isInteger = true
  differ : a.toInt? ≠ c.toInt?
  left_eq : a.compare b = some .eq
  right_eq : b.compare c = some .eq

theorem Merges.symm (h : Merges b a c) : Merges b c a where
  double := h.double
  left := h.right
  right := h.left
  differ := h.differ.symm
  left_eq := by rw [compare_swap b c, h.right_eq]; rfl
  right_eq := by rw [compare_swap a b, h.left_eq]; rfl

/-- A double with a greater integer below it and a smaller one above it merges the two. -/
theorem merges_of_lt (ha : a.isInteger = true) (hb : b.isInteger = false) (hc : c.isInteger = true)
    (hab : a.AtMost b) (hbc : b.AtMost c) (hlt : c.signedUnits < a.signedUnits) :
    a.compare c = some .gt ∧ b.Merges a c := by
  obtain ⟨hna, hnb, -⟩ := atMost_iff.1 hab
  obtain ⟨-, hnc, -⟩ := atMost_iff.1 hbc
  -- rounded, the three stand in a circle
  have hround := weight_le_of_atMost hab
  have hround' := weight_le_of_atMost hbc
  have hback := weight_mono false hlt.le
  have hgt : a.compare c = some .gt := by
    rw [compare_eq_some_iff, ha, hc, Int.compare_eq_gt]
    exact ⟨hna, hnc, hlt⟩
  refine ⟨hgt, hb, ha, hc, fun hsame => ?_, ?_, ?_⟩
  · obtain ⟨i, hi⟩ := Option.isSome_iff_exists.1 ha
    rw [signedUnits_of_toInt? hi, signedUnits_of_toInt? (hsame.symm.trans hi)] at hlt
    exact Int.lt_irrefl _ hlt
  · rw [compare_eq_eq_iff, hb, Bool.and_false]
    exact ⟨hna, hnb, Int.le_antisymm hround (hround'.trans hback)⟩
  · rw [compare_eq_eq_iff, hb, Bool.false_and]
    exact ⟨hnb, hnc, Int.le_antisymm hround' (hback.trans hround)⟩

/-- At most passes on, unless a double in the middle merges the ends. -/
theorem atMost_trans (hab : a.AtMost b) (hbc : b.AtMost c) :
    a.AtMost c ∨ a.compare c = some .gt ∧ b.Merges a c := by
  obtain ⟨hna, -, hle⟩ := atMost_iff.1 hab
  obtain ⟨-, hnc, hle'⟩ := atMost_iff.1 hbc
  have hround := (weight_le_of_atMost hab).trans (weight_le_of_atMost hbc)
  rcases ha : a.isInteger with _ | _
  · exact .inl (atMost_iff.2 ⟨hna, hnc, by rwa [ha, Bool.false_and]⟩)
  rcases hc : c.isInteger with _ | _
  · exact .inl (atMost_iff.2 ⟨hna, hnc, by rwa [hc, Bool.and_false]⟩)
  have hexact : a.signedUnits ≤ c.signedUnits → a.AtMost c := by
    intro h
    refine atMost_iff.2 ⟨hna, hnc, ?_⟩
    rwa [ha, hc]
  rcases hb : b.isInteger with _ | _
  · rcases Int.lt_or_le c.signedUnits a.signedUnits with hlt | hle
    · exact .inr (merges_of_lt ha hb hc hab hbc hlt)
    · exact .inl (hexact hle)
  · rw [ha, hb] at hle
    rw [hb, hc] at hle'
    exact .inl (hexact (hle.trans hle'))

theorem compare_eq_eq_iff_atMost : a.compare b = some .eq ↔ a.AtMost b ∧ b.AtMost a := by
  rw [compare_eq_eq_iff, atMost_iff, atMost_iff, Bool.and_comm b.isInteger]
  constructor
  · rintro ⟨ha, hb, heq⟩
    exact ⟨⟨ha, hb, heq.le⟩, hb, ha, heq.ge⟩
  · rintro ⟨⟨ha, hb, hle⟩, -, -, hge⟩
    exact ⟨ha, hb, Int.le_antisymm hle hge⟩

/-- Equal passes on with the same exception. -/
theorem compare_eq_trans (hab : a.compare b = some .eq) (hbc : b.compare c = some .eq) :
    a.compare c = some .eq ∨ b.Merges a c := by
  obtain ⟨hle, hge⟩ := compare_eq_eq_iff_atMost.1 hab
  obtain ⟨hle', hge'⟩ := compare_eq_eq_iff_atMost.1 hbc
  rcases atMost_trans hle hle' with h | ⟨-, h⟩
  · rcases atMost_trans hge' hge with h' | ⟨-, h'⟩
    · exact .inl (compare_eq_eq_iff_atMost.2 ⟨h, h'⟩)
    · exact .inr h'.symm
  · exact .inr h

/-- Of two merged integers one is beyond the integers that doubles hold one by one. -/
theorem Merges.beyond (h : Merges b a c) {i j : Int} (hi : a.toInt? = some i) (hj : c.toInt? = some j) :
    2 ^ 53 < i.natAbs ∨ 2 ^ 53 < j.natAbs := by
  obtain ⟨-, -, hleft⟩ := compare_eq_eq_iff.1 h.left_eq
  obtain ⟨-, -, hright⟩ := compare_eq_eq_iff.1 h.right_eq
  rw [h.double, Bool.and_false] at hleft
  rw [h.double, Bool.false_and] at hright
  by_contra hbeyond
  rw [not_or, Nat.not_lt, Nat.not_lt] at hbeyond
  have hsame := hleft.trans hright
  rw [weight, weight, signedUnits_of_toInt? hi, signedUnits_of_toInt? hj, roundUnits_exact hbeyond.1,
    roundUnits_exact hbeyond.2] at hsame
  have hunit : ((2 ^ 1074 : Nat) : Int) ≠ 0 := (Int.natCast_pos.2 (two_pow_pos 1074)).ne'
  apply h.differ
  rw [hi, hj, Int.eq_of_mul_eq_mul_right hunit hsame]

end Number

end RuleTree
