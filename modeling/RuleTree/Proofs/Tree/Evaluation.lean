import RuleTree.Compile.Basic

/-! Direct evaluation of rule trees: the verdict on one entity, read off the tree without compiling it.
A compiled filter gives every entity the verdict of direct evaluation, calls included. -/

namespace RuleTree

variable {ε α : Type}

/-- The truth of a left side that settles a join, whatever the right side is. -/
def Connective.settledBy : Connective → Bool
  | and => false
  | or => true

namespace Verdict

/-- Short circuit: the right side is called only where the left one settles nothing. -/
def join (c : Connective) (v w : Verdict ε) : Verdict ε :=
  if v.holds = c.settledBy then v else ⟨w.holds, v.calls ++ w.calls⟩

/-- Joins verdicts onto `v` from left to right, each by its own connective. -/
def joinOnto (v : Verdict ε) (rest : List (Connective × Verdict ε)) : Verdict ε :=
  rest.foldl (fun acc w => acc.join w.1 w.2) v

/-- Siblings fold from the first one on, whose connective takes no part. No siblings hold. -/
def joinAll : List (Connective × Verdict ε) → Verdict ε
  | [] => ⟨true, []⟩
  | (_, first) :: rest => first.joinOnto rest

theorem joinOnto_cons (v : Verdict ε) (c : Connective) (w : Verdict ε)
    (rest : List (Connective × Verdict ε)) :
    v.joinOnto ((c, w) :: rest) = (v.join c w).joinOnto rest := rfl

end Verdict

/-- What the leaf of each rule says of one entity; nothing for a rule that does not compile. -/
abbrev Leaves (ε : Type) := Rule → Option (Verdict ε)

def RuleCompiler.leaves (compile : RuleCompiler ε α) (x : α) : Leaves ε :=
  fun r => (compile r).toOption.map fun p => p.test x

theorem RuleCompiler.leaves_of_ok {compile : RuleCompiler ε α} {r : Rule} {p : Predicate ε α}
    (h : compile r = .ok p) (x : α) : compile.leaves x r = some (p.test x) := by
  rw [RuleCompiler.leaves, h]
  rfl

/-- The verdicts of the rules in a list, unless one of them does not compile. -/
def judgeRules (leaf : Leaves ε) (rules : List Rule) : Option (List (Connective × Verdict ε)) :=
  rules.mapM fun r => (leaf r).map fun v => (r.connective, v)

/-- A rule list with a rule that does not compile fails, and calls no leaf. -/
def evaluateRules (leaf : Leaves ε) (rules : List Rule) : Verdict ε :=
  match judgeRules leaf rules with
  | some verdicts => .joinAll verdicts
  | none => ⟨false, []⟩

mutual

/-- A group is its rules joined to its children by the connective of the first child; either part alone
where the other is missing. -/
def evaluateGroup (leaf : Leaves ε) : Group → Verdict ε
  | .mk rules groups _ =>
    let own := evaluateRules leaf rules
    let children := Verdict.joinAll (judgeGroups leaf groups)
    match groups with
    | [] => own
    | first :: _ => if rules.isEmpty then children else own.join first.connective children

def judgeGroups (leaf : Leaves ε) : List Group → List (Connective × Verdict ε)
  | [] => []
  | g :: rest => (g.connective, evaluateGroup leaf g) :: judgeGroups leaf rest

end

/-- Direct evaluation of a filter. -/
def evaluateGroups (leaf : Leaves ε) (groups : List Group) : Verdict ε :=
  .joinAll (judgeGroups leaf groups)

theorem Predicate.join_test (c : Connective) (p q : Predicate ε α) (x : α) :
    (p.join c q).test x = (p.test x).join c (q.test x) := by
  cases c <;> cases h : (p.test x).holds <;>
    simp [Predicate.join, Predicate.and, Predicate.or, Verdict.join, Connective.settledBy, h]

/-! ### Rule lists -/

theorem judgeRules_cons (leaf : Leaves ε) (r : Rule) (rest : List Rule) :
    judgeRules leaf (r :: rest) =
      (leaf r).bind fun v => (judgeRules leaf rest).map ((r.connective, v) :: ·) := by
  simp only [judgeRules, List.mapM_cons]
  cases leaf r <;> cases List.mapM (fun r => (leaf r).map fun v => (r.connective, v)) rest <;> rfl

theorem exists_of_judgeRules_cons {leaf : Leaves ε} {r : Rule} {rest : List Rule} {ws : List (Connective × Verdict ε)}
    (h : judgeRules leaf (r :: rest) = some ws) :
    ∃ v vs, leaf r = some v ∧ judgeRules leaf rest = some vs ∧ (r.connective, v) :: vs = ws := by
  rw [judgeRules_cons, Option.bind_eq_some_iff] at h
  obtain ⟨v, hv, h⟩ := h
  obtain ⟨vs, hvs, rfl⟩ := Option.map_eq_some_iff.1 h
  exact ⟨v, vs, hv, hvs, rfl⟩

theorem foldRules_fst_cons (compile : RuleCompiler ε α) (acc : Predicate ε α) (r : Rule)
    (rest : List Rule) :
    (foldRules compile acc (r :: rest)).1 =
      (compile r).bind fun p => (foldRules compile (acc.join r.connective p) rest).1 := by
  cases h : compile r <;> simp [foldRules, h, Except.bind]

theorem tryRules_fst_cons (compile : RuleCompiler ε α) (first : Rule) (rest : List Rule) :
    (tryRules compile (first :: rest)).1 =
      (compile first).bind fun p => (foldRules compile p rest).1 := by
  cases h : compile first with
  | error e => simp [tryRules, h, Except.bind]
  | ok p =>
    simp only [tryRules, h, Except.bind]
    split <;> simp_all

theorem compileRules_predicate (compile : RuleCompiler ε α) (rules : List Rule) :
    (compileRules compile rules).predicate =
      (tryRules compile rules).1.toOption.getD (.always false) := by
  unfold compileRules
  split <;> simp_all [Except.toOption]

/-- Folding onto `acc` fails where some rule has no leaf, and else joins all leaves onto it. -/
theorem foldRules_test (compile : RuleCompiler ε α) (x : α) (rules : List Rule)
    (acc : Predicate ε α) :
    (foldRules compile acc rules).1.toOption.map (fun p => p.test x) =
      (judgeRules (compile.leaves x) rules).map (acc.test x).joinOnto := by
  induction rules generalizing acc with
  | nil => rfl
  | cons r rest ih =>
    rw [foldRules_fst_cons, judgeRules_cons]
    cases h : compile r with
    | error e => simp [RuleCompiler.leaves, h, Except.toOption, Except.bind]
    | ok p =>
      rw [RuleCompiler.leaves_of_ok h, Option.bind_some, Option.map_map]
      simp only [Except.bind]
      rw [ih, Predicate.join_test]
      rfl

theorem tryRules_test (compile : RuleCompiler ε α) (x : α) (rules : List Rule) :
    (tryRules compile rules).1.toOption.map (fun p => p.test x) =
      (judgeRules (compile.leaves x) rules).map .joinAll := by
  cases rules with
  | nil => rfl
  | cons first rest =>
    rw [tryRules_fst_cons, judgeRules_cons]
    cases h : compile first with
    | error e => simp [RuleCompiler.leaves, h, Except.toOption, Except.bind]
    | ok p =>
      rw [RuleCompiler.leaves_of_ok h, Option.bind_some, Option.map_map]
      exact foldRules_test compile x rest p

theorem compileRules_test (compile : RuleCompiler ε α) (x : α) (rules : List Rule) :
    (compileRules compile rules).predicate.test x =
      evaluateRules (compile.leaves x) rules := by
  have htry := tryRules_test compile x rules
  rw [compileRules_predicate, evaluateRules]
  cases hp : (tryRules compile rules).1.toOption with
  | none =>
    rw [hp, Option.map_none, eq_comm, Option.map_eq_none_iff] at htry
    rw [htry]
    rfl
  | some p =>
    rw [hp, Option.map_some, eq_comm, Option.map_eq_some_iff] at htry
    obtain ⟨verdicts, hv, hall⟩ := htry
    rw [hv]
    exact hall.symm

/-! ### Groups -/

mutual

theorem compileGroup_test (compile : RuleCompiler ε α) (x : α) :
    ∀ g, (compileGroup compile g).predicate.test x = evaluateGroup (compile.leaves x) g
  | .mk rules [] c => by
    rw [compileGroup, compileRules_test, evaluateGroup]
  | .mk rules (first :: others) c => by
    have hhead := compileGroup_test compile x first
    have hchildren := compileOnto_test compile x others (compileGroup compile first).predicate
    rw [hhead] at hchildren
    cases rules with
    | nil => exact hchildren
    | cons r rest =>
      simp only [compileGroup, evaluateGroup, List.isEmpty_cons, Bool.false_eq_true, if_false]
      rw [Predicate.join_test, compileRules_test, hchildren]
      rfl

/-- Joining further groups onto `acc` joins their verdicts onto its own. -/
theorem compileOnto_test (compile : RuleCompiler ε α) (x : α) :
    ∀ groups acc, (compileOnto compile acc groups).predicate.test x =
      (acc.test x).joinOnto (judgeGroups (compile.leaves x) groups)
  | [], acc => rfl
  | g :: rest, acc => by
    rw [compileOnto, judgeGroups, Verdict.joinOnto_cons]
    rw [compileOnto_test compile x rest, Predicate.join_test, compileGroup_test compile x g]

end

theorem compileGroups_eq_error_iff {compile : RuleCompiler ε α} {groups : List Group} {v : Violation} :
    compileGroups compile groups = .error v ↔ groups = [] ∧ v = .noGroups := by
  cases groups with
  | nil => simp [compileGroups, eq_comm]
  | cons first rest => simp [compileGroups]

theorem compileGroups_isOk (compile : RuleCompiler ε α) {groups : List Group} (h : groups ≠ []) :
    ∃ c, compileGroups compile groups = .ok c := by
  cases groups with
  | nil => exact absurd rfl h
  | cons first rest => exact ⟨_, rfl⟩

theorem compileGroups_test {compile : RuleCompiler ε α} {groups : List Group} {c : Compiled ε α}
    (h : compileGroups compile groups = .ok c) (x : α) :
    c.predicate.test x = evaluateGroups (compile.leaves x) groups := by
  cases groups with
  | nil => cases h
  | cons first rest =>
    cases h
    rw [evaluateGroups, judgeGroups, Verdict.joinAll, ← compileGroup_test]
    exact compileOnto_test compile x rest (compileGroup compile first).predicate

/-- A filter compiles, and its predicate gives every entity the verdict of direct evaluation: the same
truth, and the same leaves called in the same order. -/
theorem compileGroups_evaluates (compile : RuleCompiler ε α) (first : Group) (rest : List Group) :
    ∃ c, compileGroups compile (first :: rest) = .ok c ∧
      ∀ x, c.predicate.test x = evaluateGroups (compile.leaves x) (first :: rest) :=
  ⟨_, rfl, compileGroups_test rfl⟩

end RuleTree
