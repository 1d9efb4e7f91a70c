import Mathlib.Data.List.Forall2
import RuleTree.Proofs.Tree.Evaluation

/-! Trees of one shape, whose rules correspond place by place. Where the leaves of corresponding rules are related, and
joins keep the relation, the evaluations of the trees are related as well. -/

namespace RuleTree

variable {ε δ : Type}

/-- The trees have one shape and the same connectives of groups, and `R` relates their rules in each place. -/
inductive Group.Lift (R : Rule → Rule → Prop) : Group → Group → Prop
  | mk {rules rules' : List Rule} {groups groups' : List Group} (connective : Connective)
      (hrules : List.Forall₂ R rules rules') (hgroups : List.Forall₂ (Group.Lift R) groups groups') :
      Lift R (.mk rules groups connective) (.mk rules' groups' connective)

theorem Group.Lift.connective {R : Rule → Rule → Prop} {g g' : Group} (h : Group.Lift R g g') :
    g'.connective = g.connective := by
  cases h
  rfl

mutual

theorem Group.Lift.refl {R : Rule → Rule → Prop} (hR : ∀ r, R r r) : ∀ g : Group, Group.Lift R g g
  | .mk _ groups c => .mk c (List.forall₂_same.2 fun r _ => hR r) (Group.Lift.refl_all hR groups)

theorem Group.Lift.refl_all {R : Rule → Rule → Prop} (hR : ∀ r, R r r) : ∀ groups : List Group,
    List.Forall₂ (Group.Lift R) groups groups
  | [] => .nil
  | g :: rest => .cons (Group.Lift.refl hR g) (Group.Lift.refl_all hR rest)

end

/-! ### Related verdicts -/

/-- Joins keep the relation, and it holds of verdicts that call nothing. -/
structure Verdict.Compatible (Q : Verdict ε → Verdict δ → Prop) : Prop where
  join : ∀ {v w v' w'}, Q v v' → Q w w' → ∀ c, Q (v.join c w) (v'.join c w')
  silent : ∀ b, Q ⟨b, []⟩ ⟨b, []⟩

/-- Siblings of one connective with related verdicts. -/
def Verdict.Related (Q : Verdict ε → Verdict δ → Prop) (w : Connective × Verdict ε)
    (w' : Connective × Verdict δ) : Prop :=
  w'.1 = w.1 ∧ Q w.2 w'.2

/-- Related rules are joined alike, and have related leaves or none. -/
structure Leaves.Relate (Q : Verdict ε → Verdict δ → Prop) (R : Rule → Rule → Prop) (leaf : Leaves ε)
    (leaf' : Leaves δ) : Prop where
  connective : ∀ {r r'}, R r r' → r'.connective = r.connective
  leaf : ∀ {r r'}, R r r' → Option.Rel Q (leaf r) (leaf' r')

section

variable {Q : Verdict ε → Verdict δ → Prop} {R : Rule → Rule → Prop}

namespace Verdict

variable {ws : List (Connective × Verdict ε)} {ws' : List (Connective × Verdict δ)}

theorem Compatible.joinOnto (hQ : Compatible Q) (hs : List.Forall₂ (Related Q) ws ws') {v : Verdict ε}
    {v' : Verdict δ} (h : Q v v') : Q (v.joinOnto ws) (v'.joinOnto ws') := by
  induction hs generalizing v v' with
  | nil => exact h
  | @cons w w' ws ws' hw _ ih =>
    have hjoin : Q (v.join w.1 w.2) (v'.join w'.1 w'.2) := by
      rw [hw.1]
      exact hQ.join h hw.2 w.1
    exact ih hjoin

theorem Compatible.joinAll (hQ : Compatible Q) (hs : List.Forall₂ (Related Q) ws ws') :
    Q (Verdict.joinAll ws) (Verdict.joinAll ws') := by
  cases hs with
  | nil => exact hQ.silent true
  | cons h hs => exact hQ.joinOnto hs h.2

end Verdict

variable {leaf : Leaves ε} {leaf' : Leaves δ}

theorem judgeRules_rel (h : leaf.Relate Q R leaf') {rules rules' : List Rule}
    (hrules : List.Forall₂ R rules rules') :
    Option.Rel (List.Forall₂ (Verdict.Related Q)) (judgeRules leaf rules) (judgeRules leaf' rules') := by
  induction hrules with
  | nil => exact .some .nil
  | @cons r r' rest rest' hr _ ih =>
    have hleaf := h.leaf hr
    have hconnective := h.connective hr
    rw [judgeRules_cons, judgeRules_cons]
    generalize leaf r = v, leaf' r' = v' at hleaf
    generalize judgeRules leaf rest = ws, judgeRules leaf' rest' = ws' at ih
    cases hleaf with
    | none => exact .none
    | some hv =>
      cases ih with
      | none => exact .none
      | some hrest => exact .some (.cons ⟨hconnective, hv⟩ hrest)

theorem evaluateRules_rel (hQ : Verdict.Compatible Q) (h : leaf.Relate Q R leaf') {rules rules' : List Rule}
    (hrules : List.Forall₂ R rules rules') : Q (evaluateRules leaf rules) (evaluateRules leaf' rules') := by
  have hjudge := judgeRules_rel h hrules
  unfold evaluateRules
  generalize judgeRules leaf rules = ws, judgeRules leaf' rules' = ws' at hjudge
  cases hjudge with
  | none => exact hQ.silent false
  | some hs => exact hQ.joinAll hs

mutual

theorem evaluateGroup_rel (hQ : Verdict.Compatible Q) (h : leaf.Relate Q R leaf') :
    ∀ {g g' : Group}, Group.Lift R g g' → Q (evaluateGroup leaf g) (evaluateGroup leaf' g')
  | _, _, .mk c hrules hgroups => by
    have hown := evaluateRules_rel hQ h hrules
    have hchildren := hQ.joinAll (judgeGroups_rel hQ h hgroups)
    -- the first child lends its connective to the join with the group's own rules
    cases hgroups with
    | nil => exact hown
    | cons hfirst _ =>
      cases hrules with
      | nil => exact hchildren
      | cons _ _ =>
        simp only [evaluateGroup, List.isEmpty_cons, Bool.false_eq_true, if_false, hfirst.connective]
        exact hQ.join hown hchildren _

theorem judgeGroups_rel (hQ : Verdict.Compatible Q) (h : leaf.Relate Q R leaf') :
    ∀ {groups groups' : List Group}, List.Forall₂ (Group.Lift R) groups groups' →
      List.Forall₂ (Verdict.Related Q) (judgeGroups leaf groups) (judgeGroups leaf' groups')
  | _, _, .nil => .nil
  | _, _, .cons hg hrest =>
    .cons ⟨hg.connective, evaluateGroup_rel hQ h hg⟩ (judgeGroups_rel hQ h hrest)

end

theorem evaluateGroups_rel (hQ : Verdict.Compatible Q) (h : leaf.Relate Q R leaf') {groups groups' : List Group}
    (hgroups : List.Forall₂ (Group.Lift R) groups groups') :
    Q (evaluateGroups leaf groups) (evaluateGroups leaf' groups') :=
  hQ.joinAll (judgeGroups_rel hQ h hgroups)

end

/-! ### Equal leaves -/

theorem Verdict.compatible_eq : Verdict.Compatible (Eq : Verdict ε → Verdict ε → Prop) where
  join hv hw c := by rw [hv, hw]
  silent _ := rfl

/-- The relation keeps the connective and the leaf of a rule. -/
structure Leaves.Respects (leaf : Leaves ε) (R : Rule → Rule → Prop) : Prop where
  connective : ∀ {r r'}, R r r' → r'.connective = r.connective
  leaf : ∀ {r r'}, R r r' → leaf r = leaf r'

theorem Leaves.Respects.relate {leaf : Leaves ε} {R : Rule → Rule → Prop} (h : leaf.Respects R) :
    leaf.Relate Eq R leaf where
  connective hr := h.connective hr
  leaf {r r'} hr := by
    rw [h.leaf hr]
    cases leaf r' with
    | none => exact .none
    | some v => exact .some rfl

theorem evaluateGroup_lift {leaf : Leaves ε} {R : Rule → Rule → Prop} (hR : leaf.Respects R) {g g' : Group}
    (h : Group.Lift R g g') : evaluateGroup leaf g = evaluateGroup leaf g' :=
  evaluateGroup_rel Verdict.compatible_eq hR.relate h

end RuleTree
