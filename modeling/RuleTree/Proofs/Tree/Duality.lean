import RuleTree.Proofs.Tree.Formula

/-! Filters and their duals. Swapping "and" with "or" throughout a filter and negating every leaf negates the filter.
The negation passes through each join, short circuits included, so that the dual calls the leaves that the filter
calls, in the same order. -/

namespace RuleTree

variable {ε α : Type}

/-! ### Duals -/

def Connective.dual : Connective → Connective
  | and => or
  | or => and

def Rule.dual (r : Rule) : Rule := { r with connective := r.connective.dual }

mutual

/-- The tree with the connective of every rule and every group swapped. -/
def Group.dual : Group → Group
  | mk rules groups connective => mk (rules.map Rule.dual) (dualAll groups) connective.dual

def Group.dualAll : List Group → List Group
  | [] => []
  | g :: rest => g.dual :: dualAll rest

end

/-- Compiles the dual of a rule to the negation of the rule's leaf. -/
def RuleCompiler.dual (compile : RuleCompiler ε α) : RuleCompiler ε α :=
  fun r => (compile r.dual).map Predicate.not

mutual

/-- Has every group without children a rule of its own? -/
def Group.filled : Group → Bool
  | mk rules groups _ => !(rules.isEmpty && groups.isEmpty) && filledAll groups

def Group.filledAll : List Group → Bool
  | [] => true
  | g :: rest => g.filled && filledAll rest

end

theorem Connective.dual_dual (c : Connective) : c.dual.dual = c := by cases c <;> rfl

theorem Rule.dual_dual (r : Rule) : r.dual.dual = r := by
  simp only [dual, Connective.dual_dual]

theorem Group.connective_dual (g : Group) : g.dual.connective = g.connective.dual := by
  cases g
  rw [dual]
  rfl

/-! ### Joins -/

namespace Verdict

/-- The opposite outcome of the same calls. -/
def not (v : Verdict ε) : Verdict ε := ⟨!v.holds, v.calls⟩

/-- A sibling of the dual: joined by the other connective, with the opposite outcome. -/
def dualSibling (w : Connective × Verdict ε) : Connective × Verdict ε := (w.1.dual, w.2.not)

/-- What settles a join settles its dual when it is negated, so that both skip the right side. -/
theorem join_not (c : Connective) (v w : Verdict ε) : v.not.join c.dual w.not = (v.join c w).not := by
  cases c <;> cases h : v.holds <;> simp [join, not, Connective.dual, Connective.settledBy, h]

theorem joinOnto_not (v : Verdict ε) (ws : List (Connective × Verdict ε)) :
    v.not.joinOnto (ws.map dualSibling) = (v.joinOnto ws).not := by
  induction ws generalizing v with
  | nil => rfl
  | cons w ws ih =>
    obtain ⟨c, w⟩ := w
    rw [List.map_cons, dualSibling, joinOnto_cons, joinOnto_cons, join_not]
    exact ih _

/-- No siblings hold, and so do their duals: the fold needs a sibling to be negated. -/
theorem joinAll_not {ws : List (Connective × Verdict ε)} (h : ws ≠ []) :
    joinAll (ws.map dualSibling) = (joinAll ws).not := by
  cases ws with
  | nil => exact absurd rfl h
  | cons w ws => exact joinOnto_not w.2 ws

end Verdict

/-! ### Trees -/

/-- The leaf of the dual of each rule is the negation of the rule's leaf. -/
def Leaves.Negates (leaf' leaf : Leaves ε) : Prop := ∀ r : Rule, leaf' r.dual = (leaf r).map Verdict.not

theorem RuleCompiler.leaves_dual (compile : RuleCompiler ε α) (x : α) :
    (compile.dual.leaves x).Negates (compile.leaves x) := by
  intro r
  unfold RuleCompiler.leaves RuleCompiler.dual
  rw [Rule.dual_dual]
  cases compile r <;> rfl

variable {leaf leaf' : Leaves ε}

theorem judgeRules_dual (h : leaf'.Negates leaf) (rules : List Rule) :
    judgeRules leaf' (rules.map Rule.dual) =
      (judgeRules leaf rules).map fun ws => ws.map Verdict.dualSibling := by
  induction rules with
  | nil => rfl
  | cons r rest ih =>
    rw [List.map_cons, judgeRules_cons, judgeRules_cons, h r, ih]
    cases leaf r with
    | none => rfl
    | some v => cases judgeRules leaf rest <;> rfl

theorem evaluateRules_dual (h : leaf'.Negates leaf) {rules : List Rule} (hne : rules ≠ [])
    (hcovers : leaf.Covers rules) :
    evaluateRules leaf' (rules.map Rule.dual) = (evaluateRules leaf rules).not := by
  obtain ⟨ws, hws, hfits⟩ := judgeRules_fits hcovers
  have hsome : ws ≠ [] := by
    rintro rfl
    rw [List.forall₂_nil_left_iff, List.map_eq_nil_iff] at hfits
    exact hne hfits
  rw [evaluateRules, evaluateRules, judgeRules_dual h, hws]
  exact Verdict.joinAll_not hsome

mutual

theorem evaluateGroup_dual (h : leaf'.Negates leaf) : ∀ {g : Group}, g.filled = true →
    leaf.Covers g.ruleLists.flatten → evaluateGroup leaf' g.dual = (evaluateGroup leaf g).not
  | .mk rules groups _, hfilled, hcovers => by
    rw [Group.filled, Bool.and_eq_true] at hfilled
    rw [Group.ruleLists, List.flatten_cons] at hcovers
    have hchildren := judgeGroups_dual h hfilled.2 fun r hr => hcovers r (List.mem_append_right _ hr)
    have hown (hne : rules ≠ []) :=
      evaluateRules_dual h hne fun r hr => hcovers r (List.mem_append_left _ hr)
    cases groups with
    | nil => exact hown (by rintro rfl; simp at hfilled)
    | cons first others =>
      have hall : Verdict.joinAll (judgeGroups leaf' (Group.dualAll (first :: others))) =
          (Verdict.joinAll (judgeGroups leaf (first :: others))).not := by
        rw [hchildren]
        exact Verdict.joinAll_not (List.cons_ne_nil _ _)
      cases rules with
      | nil => exact hall
      | cons r rest =>
        have hjoin := Verdict.join_not first.connective (evaluateRules leaf (r :: rest))
          (.joinAll (judgeGroups leaf (first :: others)))
        rw [← hown (List.cons_ne_nil _ _), ← hall, ← Group.connective_dual] at hjoin
        exact hjoin

theorem judgeGroups_dual (h : leaf'.Negates leaf) : ∀ {groups : List Group},
    Group.filledAll groups = true → leaf.Covers (Group.ruleListsAll groups).flatten →
      judgeGroups leaf' (Group.dualAll groups) = (judgeGroups leaf groups).map Verdict.dualSibling
  | [], _, _ => rfl
  | g :: rest, hfilled, hcovers => by
    rw [Group.filledAll, Bool.and_eq_true] at hfilled
    rw [Group.ruleListsAll, List.flatten_append] at hcovers
    have hfirst := evaluateGroup_dual h hfilled.1 fun r hr => hcovers r (List.mem_append_left _ hr)
    have hrest := judgeGroups_dual h hfilled.2 fun r hr => hcovers r (List.mem_append_right _ hr)
    rw [Group.dualAll, judgeGroups, judgeGroups, hfirst, hrest, Group.connective_dual]
    rfl

end

/-! ### Compiled filters -/

/-- The filter and its dual compile, and of every entity the dual says the opposite, by calling the same leaves in
the same order. -/
def RuleCompiler.Dualizes (compile : RuleCompiler ε α) (groups : List Group) : Prop :=
  ∃ c c', compileGroups compile groups = .ok c ∧
    compileGroups compile.dual (Group.dualAll groups) = .ok c' ∧
    ∀ x, c'.predicate.test x = (c.predicate.test x).not

theorem RuleCompiler.dualizes {compile : RuleCompiler ε α} {first : Group} {rest : List Group}
    (hfilled : Group.filledAll (first :: rest) = true)
    (hcompiles : ∀ r ∈ (Group.ruleListsAll (first :: rest)).flatten, compile.compiles r = true) :
    compile.Dualizes (first :: rest) := by
  obtain ⟨c, hc⟩ : ∃ c, compileGroups compile (first :: rest) = .ok c := ⟨_, rfl⟩
  obtain ⟨c', hc'⟩ : ∃ c', compileGroups compile.dual (Group.dualAll (first :: rest)) = .ok c' :=
    ⟨_, rfl⟩
  refine ⟨c, c', hc, hc', fun x => ?_⟩
  have hcovers : (compile.leaves x).Covers (Group.ruleListsAll (first :: rest)).flatten := by
    intro r hr
    have hcompiles := hcompiles r hr
    cases hp : compile r with
    | error e => simp [RuleCompiler.compiles, hp, Except.isOk, Except.toBool] at hcompiles
    | ok p => exact ⟨_, RuleCompiler.leaves_of_ok hp x⟩
  have hjudged := judgeGroups_dual (compile.leaves_dual x) hfilled hcovers
  rw [compileGroups_test hc, compileGroups_test hc', evaluateGroups, evaluateGroups, hjudged]
  exact Verdict.joinAll_not (List.cons_ne_nil _ _)

/-- A leaf of its own in every place of a numbered tree, which its calls are known by. -/
def RuleCompiler.byPlace (f : Nat → α → Bool) : RuleCompiler Nat α :=
  fun r => .ok (.leaf r.field.length (f r.field.length))

mutual

theorem Group.filled_numbered : ∀ (n : Nat) (g : Group), (g.numbered n).filled = g.filled
  | n, mk rules groups _ => by
    rw [numbered, filled, filled, filled_numberedAll]
    cases rules <;> cases groups <;> rfl

theorem Group.filled_numberedAll : ∀ (n : Nat) (groups : List Group),
    filledAll (numberedAll n groups) = filledAll groups
  | _, [] => rfl
  | n, g :: rest => by
    rw [numberedAll, filledAll, filledAll, filled_numbered n g, filled_numberedAll]

end

/-- A filter in which every group without children has a rule, and whose rules all compile, is negated by its dual:
swapped connectives everywhere and negated leaves give the opposite outcome, and the same leaves are called in the same
order. Equal rules have one leaf; with a leaf for every place, it is the same places that are called. -/
theorem compileGroups_dual (compile : RuleCompiler ε α) (first : Group) (rest : List Group)
    (hfilled : Group.filledAll (first :: rest) = true)
    (hcompiles : ∀ r ∈ (Group.ruleListsAll (first :: rest)).flatten, compile.compiles r = true) :
    compile.Dualizes (first :: rest) ∧
      ∀ f : Nat → α → Bool, (RuleCompiler.byPlace f).Dualizes (Group.numberedAll 0 (first :: rest)) := by
  refine ⟨RuleCompiler.dualizes hfilled hcompiles, fun f => ?_⟩
  apply RuleCompiler.dualizes
  · exact (Group.filled_numberedAll 0 (first :: rest)).trans hfilled
  · intro r _
    rfl

/-- Own rules before two children, the second one joined by the other connective than the first. -/
theorem compileGroups_dual_nested :
    let compile : RuleCompiler String Nat := fun r => .ok (.leaf r.field fun n => n < r.field.length)
    let rule (field : String) (c : Connective) : Rule := ⟨field, .isNull, .null, c⟩
    let group : Group := .mk [rule "a" .and, rule "bb" .or]
      [.mk [rule "ccc" .or] [] .and, .mk [rule "a" .and] [] .or] .or
    Group.filledAll [group] = true ∧
      (∀ r ∈ (Group.ruleListsAll [group]).flatten, compile.compiles r = true) ∧
      ∃ c c', compileGroups compile [group] = .ok c ∧
        compileGroups compile.dual (Group.dualAll [group]) = .ok c' ∧
        c.predicate.test 1 = ⟨true, ["a", "bb", "ccc"]⟩ ∧
        c'.predicate.test 1 = ⟨false, ["a", "bb", "ccc"]⟩ := by
  intro compile rule group
  have hfilled : Group.filledAll [group] = true := by decide
  have hcompiles : ∀ r ∈ (Group.ruleListsAll [group]).flatten, compile.compiles r = true :=
    fun _ _ => rfl
  obtain ⟨⟨c, c', hc, hc', hdual⟩, -⟩ := compileGroups_dual compile group [] hfilled hcompiles
  have htest : c.predicate.test 1 = ⟨true, ["a", "bb", "ccc"]⟩ := by
    cases hc
    decide
  refine ⟨hfilled, hcompiles, c, c', hc, hc', htest, ?_⟩
  rw [hdual, htest]
  rfl

end RuleTree
