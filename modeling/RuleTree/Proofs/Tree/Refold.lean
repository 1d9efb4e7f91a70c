import RuleTree.Proofs.Tree.Monotone

/-! Folding the first sibling a second time. A fold that begins with its first element and then goes over the whole
list, the first element included, joins that element to itself, which says nothing new whatever its connective is.
Trees compiled by such folds hold of the same entities. -/

namespace RuleTree

variable {ε α : Type}

/-! ### The full fold -/

/-- Joins the leaf of a rule onto `acc`. -/
def joinRule (compile : RuleCompiler ε α) (acc : Predicate ε α) (r : Rule) :
    Except RuleError (Predicate ε α) := do
  return acc.join r.connective (← compile r)

/-- The leaf of the first rule with every rule of the list joined onto it, the first one once more. -/
def refoldRules? (compile : RuleCompiler ε α) : List Rule → Except RuleError (Predicate ε α)
  | [] => .ok (.always true)
  | first :: rest => do
    let seed ← compile first
    (first :: rest).foldlM (joinRule compile) seed

/-- A list with a rule that does not compile matches nothing. -/
def refoldRules (compile : RuleCompiler ε α) (rules : List Rule) : Predicate ε α :=
  match refoldRules? compile rules with
  | .ok p => p
  | .error _ => .always false

mutual

/-- The group's own rules, joined to its children by the connective of the first child. Several children fold as
rules do; an only child is taken as it is. -/
def refoldGroup (compile : RuleCompiler ε α) : Group → Predicate ε α
  | .mk rules groups _ =>
    match groups with
    | [] => refoldRules compile rules
    | first :: others =>
      let seed := refoldGroup compile first
      let children := if others.isEmpty then seed else refoldOnto compile seed (first :: others)
      if rules.isEmpty then children else (refoldRules compile rules).join first.connective children

/-- Joins every group of the list onto `acc`. -/
def refoldOnto (compile : RuleCompiler ε α) (acc : Predicate ε α) : List Group → Predicate ε α
  | [] => acc
  | g :: rest => refoldOnto compile (acc.join g.connective (refoldGroup compile g)) rest

end

def refoldGroups (compile : RuleCompiler ε α) (groups : List Group) :
    Except Violation (Predicate ε α) :=
  match groups with
  | [] => .error .noGroups
  | first :: rest => .ok (refoldOnto compile (refoldGroup compile first) (first :: rest))

/-! ### The second join -/

theorem Connective.apply_self (c : Connective) (b : Bool) : c.apply b b = b := by
  cases c <;> cases b <;> rfl

theorem Predicate.holds_join (c : Connective) (p q : Predicate ε α) (x : α) :
    ((p.join c q).test x).holds = c.apply (p.test x).holds (q.test x).holds := by
  rw [join_test, Verdict.join_holds]

/-- A predicate joined to itself has its own outcome. -/
theorem Predicate.holds_join_self (c : Connective) (p : Predicate ε α) (x : α) :
    ((p.join c p).test x).holds = (p.test x).holds := by
  rw [holds_join, Connective.apply_self]

/-! ### Rule lists -/

theorem foldlM_joinRule_cons (compile : RuleCompiler ε α) (acc : Predicate ε α) (r : Rule)
    (rest : List Rule) :
    (r :: rest).foldlM (joinRule compile) acc =
      (compile r).bind fun p => rest.foldlM (joinRule compile) (acc.join r.connective p) := by
  rw [List.foldlM_cons]
  unfold joinRule
  cases compile r <;> rfl

/-- Folding rules onto `acc` has the outcome of joining their verdicts onto any verdict of the outcome of `acc`. -/
theorem foldlM_joinRule_holds (compile : RuleCompiler ε α) (x : α) {rules : List Rule}
    {acc : Predicate ε α} {v : Verdict ε} (hacc : (acc.test x).holds = v.holds) :
    (rules.foldlM (joinRule compile) acc).toOption.map (fun p => (p.test x).holds) =
      (judgeRules (compile.leaves x) rules).map fun ws => (v.joinOnto ws).holds := by
  induction rules generalizing acc v with
  | nil => exact congrArg some hacc
  | cons r rest ih =>
    rw [foldlM_joinRule_cons, judgeRules_cons]
    cases h : compile r with
    | error e => simp [RuleCompiler.leaves, h, Except.toOption, Except.bind]
    | ok p =>
      have hjoin : ((acc.join r.connective p).test x).holds =
          (v.join r.connective (p.test x)).holds := by
        rw [Predicate.holds_join, Verdict.join_holds, hacc]
      rw [RuleCompiler.leaves_of_ok h, Option.bind_some, Option.map_map]
      exact ih hjoin

theorem refoldRules?_holds (compile : RuleCompiler ε α) (x : α) (rules : List Rule) :
    (refoldRules? compile rules).toOption.map (fun p => (p.test x).holds) =
      (judgeRules (compile.leaves x) rules).map fun ws => (Verdict.joinAll ws).holds := by
  cases rules with
  | nil => rfl
  | cons first rest =>
    rw [refoldRules?, judgeRules_cons]
    cases h : compile first with
    | error e => simp [RuleCompiler.leaves, h, Except.toOption, bind, Except.bind]
    | ok p =>
      have hself := Predicate.holds_join_self first.connective p x
      rw [RuleCompiler.leaves_of_ok h, Option.bind_some, Option.map_map]
      simp only [bind, Except.bind]
      rw [foldlM_joinRule_cons, h]
      exact foldlM_joinRule_holds compile x hself

theorem refoldRules_holds (compile : RuleCompiler ε α) (x : α) (rules : List Rule) :
    ((refoldRules compile rules).test x).holds = (evaluateRules (compile.leaves x) rules).holds := by
  have hfold := refoldRules?_holds compile x rules
  unfold refoldRules evaluateRules
  cases hp : refoldRules? compile rules with
  | error e =>
    rw [hp, eq_comm, Except.toOption, Option.map_none, Option.map_eq_none_iff] at hfold
    rw [hfold]
    rfl
  | ok p =>
    rw [hp, Except.toOption, Option.map_some, eq_comm, Option.map_eq_some_iff] at hfold
    obtain ⟨ws, hws, hholds⟩ := hfold
    rw [hws]
    exact hholds.symm

/-! ### Groups -/

mutual

theorem refoldGroup_holds (compile : RuleCompiler ε α) (x : α) : ∀ g : Group,
    ((refoldGroup compile g).test x).holds = (evaluateGroup (compile.leaves x) g).holds
  | .mk rules [] _ => refoldRules_holds compile x rules
  | .mk rules (first :: others) _ => by
    have hown := refoldRules_holds compile x rules
    have hfirst := refoldGroup_holds compile x first
    have hchildren : ((if others.isEmpty then refoldGroup compile first
        else refoldOnto compile (refoldGroup compile first) (first :: others)).test x).holds =
          (Verdict.joinAll (judgeGroups (compile.leaves x) (first :: others))).holds := by
      cases others with
      | nil => exact hfirst
      | cons second others =>
        -- the first child is joined to itself before the others come
        have hself := Predicate.holds_join_self first.connective (refoldGroup compile first) x
        exact refoldOnto_holds compile x (second :: others) (hself.trans hfirst)
    cases rules with
    | nil => exact hchildren
    | cons r rest =>
      simp only [refoldGroup, evaluateGroup, List.isEmpty_cons, Bool.false_eq_true, if_false]
      rw [Predicate.holds_join, Verdict.join_holds, hown, hchildren]

theorem refoldOnto_holds (compile : RuleCompiler ε α) (x : α) :
    ∀ (groups : List Group) {acc : Predicate ε α} {v : Verdict ε}, (acc.test x).holds = v.holds →
      ((refoldOnto compile acc groups).test x).holds =
        (v.joinOnto (judgeGroups (compile.leaves x) groups)).holds
  | [], _, _, hacc => hacc
  | g :: rest, acc, v, hacc => by
    have hg := refoldGroup_holds compile x g
    rw [refoldOnto, judgeGroups, Verdict.joinOnto_cons]
    apply refoldOnto_holds compile x rest
    rw [Predicate.holds_join, Verdict.join_holds, hacc, hg]

end

/-- A filter that folds every list of siblings in full, its first element twice, holds of the entities that the
compiled filter holds of. -/
theorem refoldGroups_holds (compile : RuleCompiler ε α) (first : Group) (rest : List Group) :
    ∃ p c, refoldGroups compile (first :: rest) = .ok p ∧
      compileGroups compile (first :: rest) = .ok c ∧
      ∀ x, (p.test x).holds = (c.predicate.test x).holds := by
  obtain ⟨c, hc⟩ : ∃ c, compileGroups compile (first :: rest) = .ok c := ⟨_, rfl⟩
  refine ⟨_, c, rfl, hc, fun x => ?_⟩
  have hfirst := refoldGroup_holds compile x first
  have hself := Predicate.holds_join_self first.connective (refoldGroup compile first) x
  rw [compileGroups_test hc]
  exact refoldOnto_holds compile x rest (hself.trans hfirst)

end RuleTree
