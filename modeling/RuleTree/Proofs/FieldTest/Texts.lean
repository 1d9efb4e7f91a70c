import Mathlib.Data.List.Infix
import RuleTree.Pattern.Basic
import RuleTree.Proofs.FieldTest.Preparation

/-! Tests of one text against another. Searching finds the operand at the front of a field, at its end or anywhere in
it just where the field is the operand with some text behind it, before it or around it, whatever characters the two
are made of. -/

namespace RuleTree

/-! ### Texts in texts -/

theorem beginsWith_iff {s t : String} : beginsWith s t = true ↔ ∃ u, s = t ++ u := by
  rw [beginsWith, List.isPrefixOf_iff_prefix]
  constructor
  · rintro ⟨u, hu⟩
    refine ⟨.ofList u, String.toList_injective ?_⟩
    rw [String.toList_append, String.toList_ofList, hu]
  · rintro ⟨u, rfl⟩
    exact ⟨u.toList, String.toList_append.symm⟩

theorem endsWith_iff {s t : String} : endsWith s t = true ↔ ∃ u, s = u ++ t := by
  rw [endsWith, List.isSuffixOf_iff_suffix]
  constructor
  · rintro ⟨u, hu⟩
    refine ⟨.ofList u, String.toList_injective ?_⟩
    rw [String.toList_append, String.toList_ofList, hu]
  · rintro ⟨u, rfl⟩
    exact ⟨u.toList, String.toList_append.symm⟩

/-- Trying one place after the other misses none, also where parts of `t` overlap. -/
theorem infixOf_iff {t cs : List Char} : infixOf t cs = true ↔ t <:+: cs := by
  induction cs with
  | nil => rw [infixOf, List.isEmpty_iff, List.infix_nil]
  | cons c rest ih =>
    rw [infixOf, Bool.or_eq_true, List.isPrefixOf_iff_prefix, ih, List.infix_cons_iff]

theorem containsText_iff {s t : String} : containsText s t = true ↔ ∃ u v, s = u ++ t ++ v := by
  rw [containsText, infixOf_iff]
  constructor
  · rintro ⟨u, v, huv⟩
    refine ⟨.ofList u, .ofList v, String.toList_injective ?_⟩
    rw [String.toList_append, String.toList_append, String.toList_ofList, String.toList_ofList, huv]
  · rintro ⟨u, v, rfl⟩
    exact ⟨u.toList, v.toList, by rw [String.toList_append, String.toList_append]⟩

namespace FieldTest

/-! ### Operators on texts -/

variable {patterns : Patterns}

/-- A text is an operand for every operator that takes one scalar and does not order; a pattern apart. -/
theorem ofRule_text {r : Rule} {op : Operator} (harity : op.arity = .unary) (hregex : op ≠ .regex)
    (hordering : op.ordering = false) (t : String) :
    ofRule patterns { r with operator := op, operand := .text t } = .ok ⟨op, .scalar (.text t)⟩ := by
  refine ofRule_eq_ok_iff.2 ⟨rfl, .scalar harity hregex rfl (fun _ => ⟨t, rfl⟩) fun h => ?_⟩
  rw [hordering] at h
  cases h

/-- The rule with this operator and this operand is accepted, and the field passes its test. -/
def TextPasses (patterns : Patterns) (r : Rule) (op : Operator) (field operand : String) : Prop :=
  ∃ t, ofRule patterns { r with operator := op, operand := .text operand } = .ok t ∧ t.passes (.text field) = true

theorem textPasses_iff {r : Rule} (op : Operator) (harity : op.arity = .unary) (hregex : op ≠ .regex)
    (hordering : op.ordering = false) {s t : String} : TextPasses patterns r op s t ↔ passesText op s t = true := by
  have hpresence : op.presence = false := by rw [Operator.presence, harity]; rfl
  rw [TextPasses, ofRule_text harity hregex hordering]
  simp only [Except.ok.injEq, exists_eq_left', passes_scalar hpresence]
  rfl

/-- Every text is accepted as the operand of the operators that compare texts. A field is equal to it, begins with it,
ends with it or contains it just where it is the field, or makes the field with a text behind it, before it or on both
sides. So equal texts begin and end with each other, what a text begins or ends with it contains, every text begins
with, ends with and contains the empty one, and what is contained in a contained text is contained. -/
theorem passes_texts (patterns : Patterns) (r : Rule) :
    let passed := TextPasses patterns r
    (∀ op ∈ [Operator.equal, .beginsWith, .endsWith, .contains], ∀ t : String,
      (ofRule patterns { r with operator := op, operand := .text t }).isOk = true) ∧
    (∀ s t, (passed .equal s t ↔ s = t) ∧ (passed .beginsWith s t ↔ ∃ u, s = t ++ u) ∧
      (passed .endsWith s t ↔ ∃ u, s = u ++ t) ∧ (passed .contains s t ↔ ∃ u v, s = u ++ t ++ v)) ∧
    (∀ s t, (passed .equal s t → passed .beginsWith s t ∧ passed .endsWith s t) ∧
      (passed .beginsWith s t → passed .contains s t) ∧
      (passed .endsWith s t → passed .contains s t)) ∧
    (∀ s, passed .beginsWith s "" ∧ passed .endsWith s "" ∧ passed .contains s "") ∧
    ∀ s t w, passed .contains s t → passed .contains t w → passed .contains s w := by
  intro passed
  have hequal {s t : String} : passed .equal s t ↔ s = t :=
    (textPasses_iff .equal rfl nofun rfl).trans beq_iff_eq
  have hbegins {s t : String} : passed .beginsWith s t ↔ ∃ u, s = t ++ u :=
    (textPasses_iff .beginsWith rfl nofun rfl).trans beginsWith_iff
  have hends {s t : String} : passed .endsWith s t ↔ ∃ u, s = u ++ t :=
    (textPasses_iff .endsWith rfl nofun rfl).trans endsWith_iff
  have hcontains {s t : String} : passed .contains s t ↔ ∃ u v, s = u ++ t ++ v :=
    (textPasses_iff .contains rfl nofun rfl).trans containsText_iff
  refine ⟨fun op hop t => ?_, fun s t => ⟨hequal, hbegins, hends, hcontains⟩, fun s t => ⟨fun h => ?_, fun h => ?_,
    fun h => ?_⟩, fun s => ⟨?_, ?_, ?_⟩, fun s t w hst htw => ?_⟩
  · obtain ⟨harity, hregex, hordering⟩ : op.arity = .unary ∧ op ≠ .regex ∧ op.ordering = false := by
      revert op
      decide
    rw [ofRule_text harity hregex hordering]
    rfl
  · obtain rfl := hequal.1 h
    exact ⟨hbegins.2 ⟨"", String.append_empty.symm⟩, hends.2 ⟨"", String.empty_append.symm⟩⟩
  · obtain ⟨u, rfl⟩ := hbegins.1 h
    exact hcontains.2 ⟨"", u, by rw [String.empty_append]⟩
  · obtain ⟨u, rfl⟩ := hends.1 h
    exact hcontains.2 ⟨u, "", String.append_empty.symm⟩
  · exact hbegins.2 ⟨s, String.empty_append.symm⟩
  · exact hends.2 ⟨s, String.append_empty.symm⟩
  · exact hcontains.2 ⟨"", s, by rw [String.empty_append, String.empty_append]⟩
  · obtain ⟨u, v, rfl⟩ := hcontains.1 hst
    obtain ⟨u', v', rfl⟩ := hcontains.1 htw
    exact hcontains.2 ⟨u ++ u', v' ++ v, by simp only [String.append_assoc]⟩

/-- The middle of a text of wide characters, found where a search from the front first meets a part of it. -/
theorem passes_texts_wide :
    let passed := TextPasses Pattern.search ⟨"name", .equal, .null, .and⟩
    passed .contains "ééß😀" "éß" ∧ passed .contains "éß" "ß" ∧ passed .contains "ééß😀" "ß" ∧
      passed .equal "ß" "ß" ∧ passed .endsWith "ß" "ß" ∧ ¬ passed .beginsWith "ééß😀" "éß" := by
  intro passed
  obtain ⟨-, hmeans, hweaker, -, htrans⟩ := passes_texts Pattern.search ⟨"name", .equal, .null, .and⟩
  have houter : passed .contains "ééß😀" "éß" := (hmeans _ _).2.2.2.2 ⟨"é", "😀", by decide⟩
  have hinner : passed .contains "éß" "ß" := (hmeans _ _).2.2.2.2 ⟨"é", "", by decide⟩
  have hequal : passed .equal "ß" "ß" := (hmeans _ _).1.2 rfl
  refine ⟨houter, hinner, htrans _ _ _ houter hinner, hequal, ((hweaker _ _).1 hequal).2, fun h => ?_⟩
  obtain ⟨u, hu⟩ := (hmeans _ _).2.1.1 h
  have hlist := congrArg String.toList hu
  rw [String.toList_append] at hlist
  simp at hlist

end FieldTest

end RuleTree
