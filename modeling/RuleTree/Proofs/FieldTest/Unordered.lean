import RuleTree.Pattern.Basic
import RuleTree.Proofs.FieldTest.Preparation
import RuleTree.Proofs.Number.Comparison

/-! Fields that hold a NaN. No comparison finds them in order, so that no test of an order, of equality or of
a range passes, negated or not. Only the test for absence from a set passes: no member equals a NaN. -/

namespace RuleTree

variable {patterns : Patterns} {n : Number} {op : Operator}

theorem Scalar.equals_nan (hn : n.isNaN = true) (s : Scalar) : s.equals (.number n) = false := by
  cases s with
  | text | flag => rfl
  | number m =>
    have hcompare : n.compare m = none := (Number.compare_eq_none_iff n m).2 (.inl hn)
    simp [equals, FieldValue.numeric?, hcompare]

/-- Only a numeric operand can be compared with a number. -/
theorem Scalar.comparable_number {o : Operand} {s : Scalar} (hs : ofOperand o = .ok s) (n : Number) :
    s.comparable (.number n) = o.number?.isSome := by
  cases o <;> cases hs <;> rfl

namespace FieldTest

theorem passesScalar_nan (hn : n.isNaN = true) (op : Operator) (s : Scalar) :
    passesScalar op s (.number n) = false := by
  cases s with
  | text | flag => rfl
  | number m =>
    have hcompare : n.compare m = none := (Number.compare_eq_none_iff n m).2 (.inl hn)
    simp [passesScalar, FieldValue.numeric?, passesNumber, hcompare]

theorem passesRange_nan (hn : n.isNaN = true) (op : Operator) (low high : Number) :
    passesRange op low high (.number n) = false := by
  have hlow : n.compare low = none := (Number.compare_eq_none_iff n low).2 (.inl hn)
  simp [passesRange, FieldValue.numeric?, hlow]

/-- A NaN is in no set. It is absent from the empty one, and from those with a member to compare with. -/
theorem passesSet_nan (hn : n.isNaN = true) (op : Operator) (members : List Scalar) :
    passesSet op members (.number n) = true ↔
      op ≠ .memberOf ∧ (members = [] ∨ members.any (·.comparable (.number n)) = true) := by
  have hhit : members.any (·.equals (.number n)) = false := by
    rw [List.any_eq_false]
    intro s _
    rw [Scalar.equals_nan hn]
    exact Bool.false_ne_true
  unfold passesSet
  rw [hhit]
  cases members with
  | nil => simp
  | cons s rest =>
    cases (s :: rest).any (·.comparable (.number n)) <;> simp

theorem notMemberOf_iff_of_set (harity : op.arity = .set) : op = .notMemberOf ↔ op ≠ .memberOf := by
  cases op with
  | memberOf | notMemberOf => simp
  | _ => cases harity

theorem passes_nan_of_prepares {o : Operand} {p : Prepared} (hp : Prepares patterns op o p)
    (hop : op.presence = false) (hn : n.isNaN = true) :
    passes ⟨op, p⟩ (.number n) = true ↔
      op = .notMemberOf ∧ (o.candidates = [] ∨ ∃ c ∈ o.candidates, c.number?.isSome = true) := by
  have hfail : op.arity ≠ .set → op ≠ .notMemberOf := by
    rintro h rfl
    exact h rfl
  cases hp with
  | nothing _ harity => simp [Operator.presence, harity] at hop
  | scalar harity =>
    rw [passes_scalar hop, passesScalar_nan hn]
    simp [hfail, harity]
  | pattern harity =>
    rw [passes_eq hop]
    simp [hfail, harity, FieldValue.text?]
  | set harity hmembers =>
    have hany := any_congr_forall₂ hmembers fun c s hs => (Scalar.comparable_number hs n).symm
    rw [passes_set hop, notMemberOf_iff_of_set harity, ← List.isEmpty_iff,
      isEmpty_congr_forall₂ hmembers, List.isEmpty_iff, ← List.any_eq_true, hany]
    exact passesSet_nan hn op _
  | range harity =>
    rw [passes_range hop, passesRange_nan hn]
    simp [hfail, harity]

/-- A rule that compares passes a NaN just where it asks for absence from a set that is empty or has a number
in it. -/
theorem passes_nan_iff {r : Rule} {t : FieldTest} (ht : ofRule patterns r = .ok t)
    (hop : r.operator.presence = false) {x : Binary64} (hx : x.isNaN = true) :
    t.passes (.number (.real x)) = true ↔
      r.operator = .notMemberOf ∧ (r.operand.candidates = [] ∨
        ∃ o ∈ r.operand.candidates, o.number?.isSome = true) := by
  obtain ⟨ht, hp⟩ := ofRule_eq_ok_iff.1 ht
  have hn : (Number.real x).isNaN = true := hx
  rw [← passes_nan_of_prepares hp hop hn, ← ht]

/-- A NaN is absent from a set of numbers, and passes there; from a set of texts it is not even absent. -/
theorem passes_nan_iff_sets :
    let absent (o : Operand) : Rule := ⟨"age", .notMemberOf, .list [o], .and⟩
    let test (s : Scalar) : FieldTest := ⟨.notMemberOf, .set [s]⟩
    let field : FieldValue := .number (.real .nan)
    ofRule Pattern.search (absent (.number (.signed 1))) = .ok (test (.number (.signed 1))) ∧
      ofRule Pattern.search (absent (.text "a")) = .ok (test (.text "a")) ∧
      Operator.notMemberOf.presence = false ∧ Binary64.nan.isNaN = true ∧
      (test (.number (.signed 1))).passes field = true ∧ (test (.text "a")).passes field = false := by
  intro absent test field
  have hnumber : ofRule Pattern.search (absent (.number (.signed 1))) = .ok (test (.number (.signed 1))) := rfl
  have htext : ofRule Pattern.search (absent (.text "a")) = .ok (test (.text "a")) := rfl
  have hop : Operator.notMemberOf.presence = false := by decide
  have hnan : Binary64.nan.isNaN = true := by decide
  refine ⟨hnumber, htext, hop, hnan, ?_, ?_⟩
  · exact (passes_nan_iff hnumber hop hnan).2 ⟨rfl, .inr ⟨_, List.mem_singleton_self _, rfl⟩⟩
  · rw [Bool.eq_false_iff, ne_eq, passes_nan_iff htext hop hnan]
    simp [absent, Operand.candidates, Operand.number?]

/-- So it is not the case that a NaN passes no rule that compares. -/
theorem passes_nan_of_absence :
    ¬ ∀ (r : Rule) (t : FieldTest) (x : Binary64), ofRule Pattern.search r = .ok t → r.operator.presence = false →
      x.isNaN = true → t.passes (.number (.real x)) = false := by
  intro h
  have hfail := h ⟨"age", .notMemberOf, .list [.number (.signed 1)], .and⟩ _ .nan rfl (by decide)
    (by decide)
  exact absurd hfail (by decide)

end FieldTest

end RuleTree
