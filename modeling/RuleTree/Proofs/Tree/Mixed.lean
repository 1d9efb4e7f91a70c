import RuleTree.Proofs.Outcome
import RuleTree.Proofs.Tree.Monotone

/-! Rule lists that mix the two connectives, in closed form. Neither binds tighter: a rule that starts anew, as the
first one does and every one joined by or, decides the list where it holds and every later rule joined by and does. -/

namespace RuleTree

variable {ε α : Type}

namespace Leaves

/-- The rule compiles, and its leaf holds. -/
def Holds (leaf : Leaves ε) (r : Rule) : Prop := ∃ v, leaf r = some v ∧ v.holds = true

/-- Every rule joined by and holds. -/
def Upholds (leaf : Leaves ε) (rules : List Rule) : Prop :=
  ∀ r ∈ rules, r.connective = .and → leaf.Holds r

/-- Some rule joined by or holds, and so does every rule behind it that is joined by and. -/
def Restarts (leaf : Leaves ε) (rules : List Rule) : Prop :=
  ∃ before r after, rules = before ++ r :: after ∧ r.connective = .or ∧ leaf.Holds r ∧ leaf.Upholds after

variable {leaf : Leaves ε}

theorem holds_iff_of_some {r : Rule} {v : Verdict ε} (h : leaf r = some v) : leaf.Holds r ↔ v.holds = true := by
  simp [Holds, h]

theorem upholds_cons (r : Rule) (rest : List Rule) :
    leaf.Upholds (r :: rest) ↔ (r.connective = .and → leaf.Holds r) ∧ leaf.Upholds rest :=
  List.forall_mem_cons

theorem restarts_nil : ¬ leaf.Restarts [] := by
  rintro ⟨before, r, after, h, -⟩
  exact List.append_ne_nil_of_right_ne_nil before (List.cons_ne_nil r after) h.symm

theorem restarts_cons (r : Rule) (rest : List Rule) :
    leaf.Restarts (r :: rest) ↔ r.connective = .or ∧ leaf.Holds r ∧ leaf.Upholds rest ∨ leaf.Restarts rest :=
  exists_split_cons

/-- The first rule starts anew whatever joins it, the others where or does. -/
theorem starts_cons (first : Rule) (rest : List Rule) :
    (∃ before r after, first :: rest = before ++ r :: after ∧ (before = [] ∨ r.connective = .or) ∧
      leaf.Holds r ∧ leaf.Upholds after) ↔ leaf.Holds first ∧ leaf.Upholds rest ∨ leaf.Restarts rest := by
  rw [exists_split_cons]
  simp only [true_or, true_and, reduceCtorEq, false_or]
  rfl

end Leaves

theorem judgeRules_eq_none_iff {leaf : Leaves ε} {rules : List Rule} :
    judgeRules leaf rules = none ↔ ∃ r ∈ rules, leaf r = none := by
  induction rules with
  | nil => simp [judgeRules]
  | cons r rest ih =>
    rw [judgeRules_cons]
    cases hr : leaf r with
    | none => simp [hr]
    | some v => simp [hr, ih]

theorem RuleCompiler.leaves_eq_none_iff {compile : RuleCompiler ε α} {x : α} {r : Rule} :
    compile.leaves x r = none ↔ ¬ ∃ p, compile r = .ok p := by
  cases hp : compile r with
  | ok p => simp [RuleCompiler.leaves_of_ok hp]
  | error e => simp [RuleCompiler.leaves, hp, Except.toOption]

theorem judgeRules_leaves_eq_none_iff {compile : RuleCompiler ε α} {rules : List Rule} {x : α} :
    judgeRules (compile.leaves x) rules = none ↔ ¬ ∀ r ∈ rules, ∃ p, compile r = .ok p := by
  simp only [judgeRules_eq_none_iff, RuleCompiler.leaves_eq_none_iff, not_forall, exists_prop]

/-- A verdict stays while all ands behind it hold, and gives way where a rule starts anew. -/
theorem joinOnto_holds_iff {leaf : Leaves ε} {rules : List Rule} {ws : List (Connective × Verdict ε)}
    (h : judgeRules leaf rules = some ws) (v : Verdict ε) :
    (v.joinOnto ws).holds = true ↔ v.holds = true ∧ leaf.Upholds rules ∨ leaf.Restarts rules := by
  induction rules generalizing v ws with
  | nil =>
    cases h
    simp [Verdict.joinOnto, Leaves.Upholds, Leaves.restarts_nil]
  | cons r rest ih =>
    obtain ⟨w, ws, hw, hws, rfl⟩ := exists_of_judgeRules_cons h
    rw [Verdict.joinOnto_cons, ih hws, Verdict.join_holds, Leaves.upholds_cons, Leaves.restarts_cons,
      Leaves.holds_iff_of_some hw]
    cases r.connective with
    | and =>
      simp only [Connective.apply, Bool.and_eq_true, forall_const, reduceCtorEq, false_and, false_or, and_assoc]
    | or =>
      simp only [Connective.apply, Bool.or_eq_true, reduceCtorEq, false_imp_iff, true_and, or_and_right, or_assoc]

/-- A list holds just where all its rules compile and, unless it is empty, some rule starts anew and holds together
with every later rule joined by and. What joins the first rule plays no part. -/
theorem compileRules_holds_iff (compile : RuleCompiler ε α) (rules : List Rule) (x : α) :
    ((compileRules compile rules).predicate.test x).holds = true ↔
      (∀ r ∈ rules, ∃ p, compile r = .ok p) ∧
        (rules = [] ∨ ∃ before r after, rules = before ++ r :: after ∧ (before = [] ∨ r.connective = .or) ∧
          (compile.leaves x).Holds r ∧ (compile.leaves x).Upholds after) := by
  rw [compileRules_test, evaluateRules]
  cases hjudge : judgeRules (compile.leaves x) rules with
  | none => simp [judgeRules_leaves_eq_none_iff.1 hjudge]
  | some ws =>
    have hall : ∀ r ∈ rules, ∃ p, compile r = .ok p := by
      by_contra hfails
      cases hjudge.symm.trans (judgeRules_leaves_eq_none_iff.2 hfails)
    rw [and_iff_right hall]
    cases rules with
    | nil =>
      cases hjudge
      simp [Verdict.joinAll]
    | cons first rest =>
      obtain ⟨v, ws, hv, hws, rfl⟩ := exists_of_judgeRules_cons hjudge
      rw [or_iff_right (List.cons_ne_nil first rest), Leaves.starts_cons, Leaves.holds_iff_of_some hv]
      exact joinOnto_holds_iff hws v

end RuleTree
