import RuleTree.Proofs.FieldTest.Complement

/-! Fields outside a range. Where both bounds are numbers of some order, outside is below the low one or above the high
one. A NaN for a bound is not treated alike on both sides: with a NaN for its low bound a range has no outside, and with
a NaN for its high bound alone every number that is no NaN is outside. -/

namespace RuleTree

namespace FieldTest

/-- What is in no order to a number passes no test against it. -/
theorem passesNumber_of_compare {op : Operator} {field operand : Number} (h : field.compare operand = none) :
    passesNumber op field operand = false := by
  rw [passesNumber, h]

/-- In order to both bounds, a number is outside if and only if it is below the low one or above the high one. -/
theorem not_inside_iff (l h : Ordering) :
    (!(l.isGE && h.isLE)) = true ↔ Operator.less.passes l = true ∨ Operator.greater.passes h = true := by
  cases l <;> cases h <;> decide

theorem passesRange_notBetween_iff {low high : Number} {v : FieldValue} :
    passesRange .notBetween low high v = true ↔ low.isNaN = false ∧
      (passesScalar .less (.number low) v = true ∨ passesScalar .greater (.number high) v = true ∨
        high.isNaN = true ∧ v.numeric?.isSome = true ∧ v.hasNaN = false) := by
  rcases hv : v.numeric? with _ | n
  · simp [passesRange, passesScalar, hv]
  have hscalar : ∀ op m, passesScalar op (.number m) v = passesNumber op n m := by
    intro op m
    simp only [passesScalar, hv]
  rw [hscalar, hscalar, FieldValue.hasNaN_of_numeric? hv]
  have hnone : ∀ m, n.isNaN = true ∨ m.isNaN = true → n.compare m = none :=
    fun m h => (Number.compare_eq_none_iff n m).2 h
  by_cases hn : n.isNaN = true
  · -- the field is in no order to either bound
    have hlow := hnone low (.inl hn)
    have hhigh := hnone high (.inl hn)
    simp [passesRange, hv, hlow, passesNumber_of_compare hlow, passesNumber_of_compare hhigh, hn]
  rw [Bool.not_eq_true] at hn
  by_cases hl : low.isNaN = true
  · have hlow := hnone low (.inr hl)
    simp [passesRange, hv, hlow, hl]
  rw [Bool.not_eq_true] at hl
  obtain ⟨l, hlow⟩ := Number.exists_compare hn hl
  by_cases hh : high.isNaN = true
  · -- the guard asks for an order to the low bound alone
    have hhigh := hnone high (.inr hh)
    simp [passesRange, hv, hlow, hhigh, hl, hh, hn]
  · rw [Bool.not_eq_true] at hh
    obtain ⟨h, hhigh⟩ := Number.exists_compare hn hh
    have houtside := not_inside_iff l h
    simpa [passesRange, hv, passesNumber, hlow, hhigh, hl, hh] using houtside

variable {patterns : Patterns} {r : Rule} {low high : Operand}

/-- An operator that orders takes whatever is a number. -/
theorem ofRule_of_ordering {op : Operator} (hop : op.ordering = true) {o : Operand} {n : Number}
    (hn : o.number? = some n) :
    ofRule patterns { r with operator := op, operand := o } = .ok ⟨op, .scalar (.number n)⟩ := by
  obtain ⟨harity, hregex, htext⟩ := Operator.unary_of_ordering hop
  refine ofRule_eq_ok_iff.2 ⟨rfl, .scalar harity hregex (Scalar.ofOperand_eq_number_iff.2 hn) ?_ ?_⟩
  · intro h
    exact absurd h (by simp [htext])
  · intro _
    exact ⟨n, rfl⟩

/-- The operators of ranges take two numbers. -/
theorem ofRule_range_iff {op : Operator} (harity : op.arity = .range) {t : FieldTest} :
    ofRule patterns { r with operator := op, operand := .list [low, high] } = .ok t ↔
      ∃ l h, low.number? = some l ∧ high.number? = some h ∧ t = ⟨op, .range l h⟩ := by
  obtain ⟨tested, p⟩ := t
  rw [ofRule_eq_ok_iff]
  constructor
  · rintro ⟨rfl, hp⟩
    cases hp with
    | range _ hlow hhigh => exact ⟨_, _, hlow, hhigh, rfl⟩
    | nothing _ h | scalar h | set h => simp_all
  · rintro ⟨l, h, hlow, hhigh, ht⟩
    cases ht
    exact ⟨rfl, .range harity hlow hhigh⟩

/-- The bounds of a range are accepted by the operators for below and above. A field passes as outside if and only if it
is below the low bound or above the high one, except that nothing passes where the low bound is a NaN, and that
where the high bound alone is one every field that is compared as a number passes, unless it is a NaN itself. -/
theorem passes_notBetween_iff {t : FieldTest}
    (ht : ofRule patterns { r with operator := .notBetween, operand := .list [low, high] } = .ok t) :
    ∃ below above, ofRule patterns { r with operator := .less, operand := low } = .ok below ∧
      ofRule patterns { r with operator := .greater, operand := high } = .ok above ∧
      ∀ v, t.passes v = true ↔ low.hasNaN = false ∧
        (below.passes v = true ∨ above.passes v = true ∨
          high.hasNaN = true ∧ v.numeric?.isSome = true ∧ v.hasNaN = false) := by
  obtain ⟨l, h, hlow, hhigh, rfl⟩ := (ofRule_range_iff rfl).1 ht
  refine ⟨_, _, ofRule_of_ordering rfl hlow, ofRule_of_ordering rfl hhigh, fun v => ?_⟩
  rw [passes_range rfl, passes_scalar rfl, passes_scalar rfl, Operand.hasNaN_of_number? hlow,
    Operand.hasNaN_of_number? hhigh]
  exact passesRange_notBetween_iff

/-- The number three is outside of five to one, for it is below five. It is outside of one to a NaN, being neither below
nor above, and not outside of a NaN to one, though it is above one. -/
theorem passes_notBetween_iff_bounds :
    let r : Rule := ⟨"age", .notBetween, .null, .and⟩
    let outside (low high : Operand) :=
      ofRule Pattern.search { r with operator := .notBetween, operand := .list [low, high] }
    let five : Operand := .timestamp ⟨5⟩
    let one : Operand := .number (.unsigned 1)
    let nan : Operand := .number (.real .nan)
    let three : FieldValue := .choice 3
    ∃ t u w, outside five one = .ok t ∧ outside one nan = .ok u ∧ outside nan one = .ok w ∧
      t.passes three = true ∧ u.passes three = true ∧ w.passes three = false := by
  intro r outside five one nan three
  let range (low high : Number) : FieldTest := ⟨.notBetween, .range low high⟩
  have ht : outside five one = .ok (range (.signed 5) (.unsigned 1)) := rfl
  have hu : outside one nan = .ok (range (.unsigned 1) (.real .nan)) := rfl
  have hw : outside nan one = .ok (range (.real .nan) (.unsigned 1)) := rfl
  obtain ⟨_, _, hbelow, -, htest⟩ := passes_notBetween_iff ht
  obtain ⟨_, _, _, _, hopen⟩ := passes_notBetween_iff hu
  obtain ⟨_, _, _, _, hnone⟩ := passes_notBetween_iff hw
  cases hbelow
  refine ⟨_, _, _, ht, hu, hw, ?_, ?_, ?_⟩
  · exact (htest three).2 ⟨rfl, .inl (by decide)⟩
  · exact (hopen three).2 ⟨rfl, .inr (.inr (by decide))⟩
  · rw [Bool.eq_false_iff, ne_eq, hnone three]
    exact fun h => absurd h.1 (by decide)

/-- So it is not the case that outside is below or above for every pair of bounds: three is neither below one nor above
a NaN, and passes. -/
theorem passes_notBetween_of_nan :
    ¬ ∀ (r : Rule) (low high : Operand) (t below above : FieldTest),
      ofRule Pattern.search { r with operator := .notBetween, operand := .list [low, high] } = .ok t →
      ofRule Pattern.search { r with operator := .less, operand := low } = .ok below →
      ofRule Pattern.search { r with operator := .greater, operand := high } = .ok above →
      ∀ v, t.passes v = true ↔ below.passes v = true ∨ above.passes v = true := by
  intro h
  have hfail := h ⟨"age", .notBetween, .null, .and⟩ (.number (.signed 1)) (.number (.real .nan)) _ _ _ rfl rfl rfl
    (.number (.signed 3))
  exact absurd hfail (by decide +kernel)

end FieldTest

end RuleTree
