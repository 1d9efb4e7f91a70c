import RuleTree.Proofs.FieldTest.Unary
import RuleTree.Proofs.Number.Order

/-! Ranges from a high bound down to a low one. What is at least the first bound and at most the second would put
them in order, so that nothing lies between them; only a double that merges two integer bounds does. -/

namespace RuleTree

namespace FieldTest

variable {low high n : Number} {v : FieldValue}

theorem atMost_of_compare {a b : Number} {o : Ordering} (h : a.compare b = some o) : a.AtMost b ↔ o.isLE = true := by
  rw [Number.AtMost, h]
  cases o <;> decide

theorem passesScalar_lessOrEqual_iff (hv : v.numeric? = some n) :
    passesScalar .lessOrEqual (.number high) v = true ↔ n.AtMost high := by
  simp only [passesScalar, hv, passesNumber]
  rcases ho : n.compare high with _ | o
  · simp [Number.AtMost, ho]
  · exact (atMost_of_compare ho).symm

theorem passesScalar_greaterOrEqual_iff (hv : v.numeric? = some n) :
    passesScalar .greaterOrEqual (.number low) v = true ↔ low.AtMost n := by
  simp only [passesScalar, hv, passesNumber]
  have hswap := Number.compare_swap n low
  rcases ho : n.compare low with _ | o
  · rw [ho] at hswap
    simp [Number.AtMost, hswap]
  · rw [ho] at hswap
    rw [atMost_of_compare hswap]
    cases o <;> decide

/-- Between bounds in the wrong order is only what merges them. -/
theorem passesRange_reversed_iff (h : low.compare high = some .gt) :
    passesRange .between low high v = true ↔ ∃ n, v.numeric? = some n ∧ n.Merges low high := by
  rw [passesRange_between, Bool.and_eq_true]
  rcases hv : v.numeric? with _ | n
  · simp [passesScalar, hv]
  rw [passesScalar_greaterOrEqual_iff hv, passesScalar_lessOrEqual_iff hv]
  constructor
  · rintro ⟨hlow, hhigh⟩
    refine ⟨n, rfl, ?_⟩
    rcases Number.atMost_trans hlow hhigh with hle | ⟨-, hmerges⟩
    · rw [atMost_of_compare h] at hle
      cases hle
    · exact hmerges
  · rintro ⟨_, ⟨⟩, hmerges⟩
    exact ⟨.inr hmerges.left_eq, .inr hmerges.right_eq⟩

end FieldTest

namespace Number

open FieldTest

/-- At most and equal pass on from one comparison to the next, unless a double in the middle merges two integers,
of which one is beyond 2 ^ 53. Equal is reflexive but for a NaN, and symmetric. And a range from a higher bound to
a lower one holds only the doubles that merge its bounds. -/
theorem compare_unless_merged (a b c : Number) :
    (a.AtMost b → b.AtMost c → a.AtMost c ∨ a.compare c = some .gt ∧ b.Merges a c) ∧
      (a.isNaN = false → a.compare a = some .eq) ∧ (a.compare b = some .eq → b.compare a = some .eq) ∧
      (a.compare b = some .eq → b.compare c = some .eq → a.compare c = some .eq ∨ b.Merges a c) ∧
      (b.Merges a c → ∀ i j, a.toInt? = some i → c.toInt? = some j → 2 ^ 53 < i.natAbs ∨ 2 ^ 53 < j.natAbs) ∧
      ∀ (patterns : Patterns) (r : Rule) (low high : Operand), low.number? = some a → high.number? = some c →
        a.compare c = some .gt →
        ∃ t, ofRule patterns { r with operator := .between, operand := .list [low, high] } = .ok t ∧
          ∀ v, t.passes v = true ↔ ∃ n, v.numeric? = some n ∧ n.Merges a c := by
  refine ⟨atMost_trans, fun ha => ?_, fun hab => ?_, compare_eq_trans, ?_, ?_⟩
  · exact compare_eq_eq_iff.2 ⟨ha, ha, rfl⟩
  · rw [compare_swap, hab]
    rfl
  · intro h i j hi hj
    exact h.beyond hi hj
  · intro patterns r low high hlow hhigh hgt
    refine ⟨_, (ofRule_range_iff rfl).2 ⟨a, c, hlow, hhigh, rfl⟩, fun v => ?_⟩
    rw [passes_range rfl]
    exact passesRange_reversed_iff hgt

/-- The double 2 ^ 53 merges that integer and the next. It is what the range from the next down to it holds, with the
integers it merges outside. A half, the integer one and the number three pass on in order. -/
theorem compare_unless_merged_pair :
    let a : Number := .signed 9007199254740993
    let b : Number := .real ⟨0x4340000000000000⟩
    let c : Number := .signed 9007199254740992
    let r : Rule := ⟨"age", .between, .list [.number a, .number c], .and⟩
    (a.compare b = some .eq ∧ b.compare a = some .eq) ∧ (a.compare c = some .gt ∧ b.Merges a c) ∧
      (∃ t, ofRule Pattern.search r = .ok t ∧ t.passes (.number b) = true ∧ t.passes (.number c) = false) ∧
      (real ⟨0x3FE0000000000000⟩).AtMost (.unsigned 3) := by
  intro a b c r
  have hab : a.compare b = some .eq := by decide +kernel
  have hbc : b.compare c = some .eq := by decide +kernel
  have hgt : a.compare c = some .gt := by decide +kernel
  obtain ⟨hle, -, hsymm, htrans, -, hrange⟩ := compare_unless_merged a b c
  have hmerges : b.Merges a c := by
    rcases htrans hab hbc with heq | hmerges
    · cases hgt.symm.trans heq
    · exact hmerges
  refine ⟨⟨hab, hsymm hab⟩, ⟨hgt, hmerges⟩, ?_, ?_⟩
  · obtain ⟨t, ht, hpasses⟩ := hrange Pattern.search r (.number a) (.number c) rfl rfl hgt
    refine ⟨t, ht, (hpasses _).2 ⟨b, rfl, hmerges⟩, ?_⟩
    rw [Bool.eq_false_iff, Ne, hpasses]
    rintro ⟨n, hn, hmerged⟩
    cases hn
    cases hmerged.double
  · have hhalf : (real ⟨0x3FE0000000000000⟩).AtMost (.signed 1) := .inl (by decide +kernel)
    have hthree : (signed 1).AtMost (.unsigned 3) := .inl (by decide +kernel)
    rcases (compare_unless_merged _ _ _).1 hhalf hthree with h | ⟨-, h⟩
    · exact h
    · cases h.double

/-- Nothing passes on from 2 ^ 53 + 1 through the double 2 ^ 53 to the integer 2 ^ 53, and the range from the first down
to the last is not empty. -/
theorem compare_merged :
    let a : Number := .signed 9007199254740993
    let b : Number := .real ⟨0x4340000000000000⟩
    let c : Number := .signed 9007199254740992
    let r : Rule := ⟨"age", .between, .list [.number a, .number c], .and⟩
    ¬ (a.AtMost b → b.AtMost c → a.AtMost c) ∧
      ¬ (a.compare b = some .eq → b.compare c = some .eq → a.compare c = some .eq) ∧
      ¬ (a.compare c = some .gt → ∀ t, ofRule Pattern.search r = .ok t → ∀ v, t.passes v = false) := by
  intro a b c r
  have hab : a.compare b = some .eq := by decide +kernel
  have hbc : b.compare c = some .eq := by decide +kernel
  have hgt : a.compare c = some .gt := by decide +kernel
  refine ⟨fun h => ?_, fun h => ?_, fun h => ?_⟩
  · rcases h (.inr hab) (.inr hbc) with hlt | heq
    · cases hgt.symm.trans hlt
    · cases hgt.symm.trans heq
  · cases hgt.symm.trans (h hab hbc)
  · have hpasses : passes ⟨.between, .range a c⟩ (.number b) = true := by decide +kernel
    cases hpasses.symm.trans (h hgt _ rfl _)

end Number

end RuleTree
