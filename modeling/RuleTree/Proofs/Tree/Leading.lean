import RuleTree.Proofs.Tree.Places

/-! Connectives that take no part. The first rule of a list, the first group of a filter, and the first child of a group
without rules have nothing before them to join, so that a filter is compiled, evaluated and reported as the one in which
these connectives are cleared. -/

namespace RuleTree

variable {ε α : Type}

/-! ### Cleared filters -/

/-- The rule with its connective cleared. -/
def Rule.unjoined (r : Rule) : Rule := { r with connective := .and }

/-- The rules with the connective of the first one cleared. -/
def Rule.clearFirst : List Rule → List Rule
  | [] => []
  | r :: rest => r.unjoined :: rest

namespace Group

/-- The groups with the connective of the first one cleared. -/
def clearFirst : List Group → List Group
  | [] => []
  | g :: rest => g.withConnective .and :: rest

mutual

/-- The tree with every leading connective below its root cleared. A first child lends its connective to the rules that
stand beside it, if there are any. -/
def cleared : Group → Group
  | mk rules groups connective =>
    mk (Rule.clearFirst rules) (if rules.isEmpty then clearFirst (clearedAll groups) else clearedAll groups)
      connective

def clearedAll : List Group → List Group
  | [] => []
  | g :: rest => cleared g :: clearedAll rest

end

/-- The filter with every leading connective cleared. Two filters differ in leading connectives alone where these are
the same. -/
def clearedFilter (groups : List Group) : List Group := clearFirst (clearedAll groups)

theorem connective_cleared (g : Group) : g.cleared.connective = g.connective := by
  cases g
  rw [cleared]
  rfl

/-! ### What clearing keeps -/

theorem depthAll_clearFirst (groups : List Group) : depthAll (clearFirst groups) = depthAll groups := by
  cases groups with
  | nil => rfl
  | cons g rest => cases g; rfl

theorem ruleCountAll_clearFirst (groups : List Group) :
    ruleCountAll (clearFirst groups) = ruleCountAll groups := by
  cases groups with
  | nil => rfl
  | cons g rest => cases g; rfl

theorem ruleListsAll_clearFirst (groups : List Group) :
    ruleListsAll (clearFirst groups) = ruleListsAll groups := by
  cases groups with
  | nil => rfl
  | cons g rest => cases g; rfl

theorem length_clearFirst (rules : List Rule) : (Rule.clearFirst rules).length = rules.length := by
  cases rules <;> rfl

mutual

theorem depth_cleared : ∀ g : Group, g.cleared.depth = g.depth
  | mk rules groups _ => by
    have hchildren := depthAll_clearedAll groups
    rw [cleared, depth, depth]
    split
    · rw [depthAll_clearFirst, hchildren]
    · rw [hchildren]

theorem depthAll_clearedAll : ∀ groups : List Group, depthAll (clearedAll groups) = depthAll groups
  | [] => rfl
  | g :: rest => by rw [clearedAll, depthAll, depthAll, depth_cleared g, depthAll_clearedAll rest]

end

mutual

theorem ruleCount_cleared : ∀ g : Group, g.cleared.ruleCount = g.ruleCount
  | mk rules groups _ => by
    have hchildren := ruleCountAll_clearedAll groups
    rw [cleared, ruleCount, ruleCount, length_clearFirst]
    split
    · rw [ruleCountAll_clearFirst, hchildren]
    · rw [hchildren]

theorem ruleCountAll_clearedAll : ∀ groups : List Group,
    ruleCountAll (clearedAll groups) = ruleCountAll groups
  | [] => rfl
  | g :: rest => by
    rw [clearedAll, ruleCountAll, ruleCountAll, ruleCount_cleared g, ruleCountAll_clearedAll rest]

end

mutual

theorem ruleLists_cleared : ∀ g : Group, g.cleared.ruleLists = g.ruleLists.map Rule.clearFirst
  | mk rules groups _ => by
    have hchildren := ruleListsAll_clearedAll groups
    rw [cleared, ruleLists, ruleLists, List.map_cons]
    split
    · rw [ruleListsAll_clearFirst, hchildren]
    · rw [hchildren]

theorem ruleListsAll_clearedAll : ∀ groups : List Group,
    ruleListsAll (clearedAll groups) = (ruleListsAll groups).map Rule.clearFirst
  | [] => rfl
  | g :: rest => by
    rw [clearedAll, ruleListsAll, ruleListsAll, List.map_append, ruleLists_cleared g,
      ruleListsAll_clearedAll rest]

end

theorem length_clearedAll (groups : List Group) : (clearedAll groups).length = groups.length := by
  induction groups with
  | nil => rfl
  | cons g rest ih => rw [clearedAll, List.length_cons, List.length_cons, ih]

/-- The announcement of a filter is about its size alone. -/
theorem begun_clearedFilter (groups : List Group) :
    CompileEvent.filterBegun (clearedFilter groups).length (depthAll (clearedFilter groups))
        (ruleCountAll (clearedFilter groups)) =
      .filterBegun groups.length (depthAll groups) (ruleCountAll groups) := by
  have hlength : (clearFirst (clearedAll groups)).length = (clearedAll groups).length := by
    cases clearedAll groups <;> rfl
  rw [clearedFilter, hlength, length_clearedAll, depthAll_clearFirst, depthAll_clearedAll,
    ruleCountAll_clearFirst, ruleCountAll_clearedAll]

/-! ### Numbered trees -/

theorem numberedRules_clearFirst (n : Nat) (rules : List Rule) :
    numberedRules n (Rule.clearFirst rules) = Rule.clearFirst (numberedRules n rules) := by
  cases rules <;> rfl

theorem numberedAll_clearFirst (n : Nat) (groups : List Group) :
    numberedAll n (clearFirst groups) = clearFirst (numberedAll n groups) := by
  cases groups with
  | nil => rfl
  | cons g rest => cases g; rfl

mutual

theorem numbered_cleared : ∀ (n : Nat) (g : Group), g.cleared.numbered n = (g.numbered n).cleared
  | n, mk rules groups _ => by
    have hchildren := numberedAll_clearedAll (n + rules.length) groups
    rw [cleared, numbered, numbered, cleared, numberedRules_clearFirst, length_clearFirst, ← hchildren,
      ← numberedAll_clearFirst]
    cases rules <;> rfl

theorem numberedAll_clearedAll : ∀ (n : Nat) (groups : List Group),
    numberedAll n (clearedAll groups) = clearedAll (numberedAll n groups)
  | _, [] => rfl
  | n, g :: rest => by
    rw [clearedAll, numberedAll, numberedAll, clearedAll, numbered_cleared n g,
      numberedAll_clearedAll _ rest, ruleCount_cleared]

end

/-- Clearing keeps the places of the rules. -/
theorem clearedFilter_numberedAll (n : Nat) (groups : List Group) :
    clearedFilter (numberedAll n groups) = numberedAll n (clearedFilter groups) := by
  rw [clearedFilter, clearedFilter, numberedAll_clearFirst, numberedAll_clearedAll]

end Group

/-! ### Evaluation -/

/-- The leaves do not depend on how a rule is joined. -/
def Leaves.IgnoresJoins (leaf : Leaves ε) : Prop := ∀ r : Rule, leaf r.unjoined = leaf r

theorem evaluateRules_clearFirst {leaf : Leaves ε} (h : leaf.IgnoresJoins) (rules : List Rule) :
    evaluateRules leaf (Rule.clearFirst rules) = evaluateRules leaf rules := by
  cases rules with
  | nil => rfl
  | cons r rest =>
    rw [Rule.clearFirst, evaluateRules, evaluateRules, judgeRules_cons, judgeRules_cons, h r]
    cases leaf r with
    | none => rfl
    | some v => cases judgeRules leaf rest <;> rfl

theorem joinAll_judgeGroups_clearFirst (leaf : Leaves ε) (groups : List Group) :
    Verdict.joinAll (judgeGroups leaf (Group.clearFirst groups)) =
      Verdict.joinAll (judgeGroups leaf groups) := by
  cases groups with
  | nil => rfl
  | cons g rest =>
    obtain ⟨rules, groups, connective⟩ := g
    cases groups <;> rfl

mutual

theorem evaluateGroup_cleared {leaf : Leaves ε} (h : leaf.IgnoresJoins) :
    ∀ g : Group, evaluateGroup leaf g.cleared = evaluateGroup leaf g
  | .mk rules groups _ => by
    have hown := evaluateRules_clearFirst h rules
    have hchildren := judgeGroups_clearedAll h groups
    cases groups with
    | nil => cases rules <;> exact hown
    | cons first others =>
      cases rules with
      | nil =>
        have hfirst := joinAll_judgeGroups_clearFirst leaf (Group.clearedAll (first :: others))
        rw [hchildren] at hfirst
        exact hfirst
      | cons r rest =>
        simp only [Group.cleared, Rule.clearFirst, List.isEmpty_cons, Bool.false_eq_true, if_false,
          Group.clearedAll, evaluateGroup, Group.connective_cleared] at hown hchildren ⊢
        rw [hown, hchildren]

theorem judgeGroups_clearedAll {leaf : Leaves ε} (h : leaf.IgnoresJoins) :
    ∀ groups : List Group, judgeGroups leaf (Group.clearedAll groups) = judgeGroups leaf groups
  | [] => rfl
  | g :: rest => by
    rw [Group.clearedAll, judgeGroups, judgeGroups, evaluateGroup_cleared h g,
      judgeGroups_clearedAll h rest, Group.connective_cleared]

end

theorem evaluateGroups_clearedFilter {leaf : Leaves ε} (h : leaf.IgnoresJoins) (groups : List Group) :
    evaluateGroups leaf (Group.clearedFilter groups) = evaluateGroups leaf groups := by
  rw [evaluateGroups, evaluateGroups, Group.clearedFilter, joinAll_judgeGroups_clearFirst,
    judgeGroups_clearedAll h]

/-! ### Compilation -/

namespace RuleCompiler

/-- Compiles a rule to the same leaf, or refuses it for the same reason, whatever its connective is. -/
def IgnoresJoins (compile : RuleCompiler ε α) : Prop :=
  ∀ (r : Rule) (c : Connective), compile { r with connective := c } = compile r

variable {compile : RuleCompiler ε α}

theorem IgnoresJoins.unjoined (h : compile.IgnoresJoins) (r : Rule) : compile r.unjoined = compile r :=
  h r .and

theorem IgnoresJoins.leaves (h : compile.IgnoresJoins) (x : α) : (compile.leaves x).IgnoresJoins := by
  intro r
  rw [RuleCompiler.leaves, RuleCompiler.leaves, h.unjoined]

theorem placed_ignoresJoins (tests : Nat → Option (α → Bool)) : (placed tests).IgnoresJoins :=
  fun _ _ => rfl

theorem IgnoresJoins.reached (h : compile.IgnoresJoins) (rules : List Rule) :
    compile.reached (Rule.clearFirst rules) = Rule.clearFirst (compile.reached rules) := by
  cases rules with
  | nil => rfl
  | cons r rest =>
    cases hr : compile r with
    | error e =>
      rw [Rule.clearFirst, reached_of_error hr, reached_of_error (r := r.unjoined) (h.unjoined r ▸ hr)]
      rfl
    | ok p =>
      rw [Rule.clearFirst, reached_of_ok hr, reached_of_ok (r := r.unjoined) (h.unjoined r ▸ hr)]
      rfl

end RuleCompiler

theorem map_unjoined_clearFirst (rules : List Rule) :
    (Rule.clearFirst rules).map Rule.unjoined = rules.map Rule.unjoined := by
  cases rules <;> rfl

theorem displayRules_clearFirst (rules : List Rule) :
    displayRules (Rule.clearFirst rules) = displayRules rules := by
  cases rules <;> rfl

/-- The line of the log does not show how the first rule is joined. -/
theorem listEntry_clearFirst {compile : RuleCompiler ε α} (h : compile.IgnoresJoins) (rules : List Rule) :
    listEntry compile (Rule.clearFirst rules) = listEntry compile rules := by
  have herror : compile.firstError? (Rule.clearFirst rules) = compile.firstError? rules := by
    cases rules with
    | nil => rfl
    | cons r rest => simp only [Rule.clearFirst, RuleCompiler.firstError?, List.findSome?_cons, h.unjoined]
  unfold listEntry
  rw [herror, Group.length_clearFirst, displayRules_clearFirst]

theorem filter_map_clearFirst (lists : List (List Rule)) :
    (lists.map Rule.clearFirst).filter (fun rules => !rules.isEmpty) =
      (lists.filter fun rules => !rules.isEmpty).map Rule.clearFirst := by
  induction lists with
  | nil => rfl
  | cons rules rest ih => cases rules <;> simp [Rule.clearFirst, ih]

/-- Of every entity the two say the same by calling the same leaves in the same order; they were compiled by trying the
same rules in the same order, connectives apart, and with the same log. -/
structure Compiled.AgreesButJoins (c c' : Compiled ε α) : Prop where
  test : ∀ x, c.predicate.test x = c'.predicate.test x
  tried : (triedRules c.steps).map Rule.unjoined = (triedRules c'.steps).map Rule.unjoined
  log : (events c.steps).map CompileEvent.entry = (events c'.steps).map CompileEvent.entry

/-- Both filters compile, and what they compile to agrees. -/
def RuleCompiler.EquatesButJoins (compile : RuleCompiler ε α) (groups groups' : List Group) : Prop :=
  ∃ c c', compileGroups compile groups = .ok c ∧ compileGroups compile groups' = .ok c' ∧
    c.AgreesButJoins c'

section

variable {compile : RuleCompiler ε α} {groups groups' : List Group}

theorem triedRules_clearedFilter (h : compile.IgnoresJoins) (groups : List Group) :
    ((Group.ruleListsAll (Group.clearedFilter groups)).flatMap compile.reached).map Rule.unjoined =
      ((Group.ruleListsAll groups).flatMap compile.reached).map Rule.unjoined := by
  simp only [Group.clearedFilter, Group.ruleListsAll_clearFirst, Group.ruleListsAll_clearedAll,
    List.flatMap_map, List.map_flatMap, h.reached, map_unjoined_clearFirst]

theorem log_clearedFilter (h : compile.IgnoresJoins) (groups : List Group) :
    ((Group.ruleListsAll (Group.clearedFilter groups)).filter fun rules => !rules.isEmpty).map
        (listEntry compile) =
      ((Group.ruleListsAll groups).filter fun rules => !rules.isEmpty).map (listEntry compile) := by
  rw [Group.clearedFilter, Group.ruleListsAll_clearFirst, Group.ruleListsAll_clearedAll,
    filter_map_clearFirst, List.map_map]
  exact List.map_congr_left fun rules _ => listEntry_clearFirst h rules

theorem RuleCompiler.IgnoresJoins.equates (h : compile.IgnoresJoins) (hne : groups ≠ [])
    (hne' : groups' ≠ []) (hsame : Group.clearedFilter groups = Group.clearedFilter groups') :
    compile.EquatesButJoins groups groups' := by
  obtain ⟨c, hc⟩ := compileGroups_isOk compile hne
  obtain ⟨c', hc'⟩ := compileGroups_isOk compile hne'
  have hbegun := Group.begun_clearedFilter groups
  rw [hsame, Group.begun_clearedFilter groups'] at hbegun
  have htried := triedRules_clearedFilter h groups
  rw [hsame, triedRules_clearedFilter h groups'] at htried
  have hlog := log_clearedFilter h groups
  rw [hsame, log_clearedFilter h groups'] at hlog
  refine ⟨c, c', hc, hc', fun x => ?_, ?_, ?_⟩
  · have hevaluate := evaluateGroups_clearedFilter (h.leaves x) groups
    rw [hsame, evaluateGroups_clearedFilter (h.leaves x) groups'] at hevaluate
    rw [compileGroups_test hc, compileGroups_test hc', hevaluate]
  · rw [triedRules_compileGroups hc, triedRules_compileGroups hc', htried]
  · rw [entries_compileGroups hc, entries_compileGroups hc', hbegun, hlog]

end

/-- Two filters that differ in leading connectives alone are the same to a rule compiler that does not look at
connectives: the same verdicts by the same calls, the same rules tried in the same order, and the same log, shown rules
included. That holds also of the places of equal rules. -/
theorem compileGroups_leading (compile : RuleCompiler ε α) (h : compile.IgnoresJoins)
    (first first' : Group) (rest rest' : List Group)
    (hsame : Group.clearedFilter (first :: rest) = Group.clearedFilter (first' :: rest')) :
    compile.EquatesButJoins (first :: rest) (first' :: rest') ∧
      ∀ tests : Nat → Option (α → Bool), (RuleCompiler.placed tests).EquatesButJoins
        (Group.numberedAll 0 (first :: rest)) (Group.numberedAll 0 (first' :: rest')) := by
  refine ⟨h.equates (List.cons_ne_nil _ _) (List.cons_ne_nil _ _) hsame, fun tests => ?_⟩
  have hplaces : Group.clearedFilter (Group.numberedAll 0 (first :: rest)) =
      Group.clearedFilter (Group.numberedAll 0 (first' :: rest')) := by
    rw [Group.clearedFilter_numberedAll, Group.clearedFilter_numberedAll, hsame]
  exact (RuleCompiler.placed_ignoresJoins tests).equates (List.cons_ne_nil _ _) (List.cons_ne_nil _ _)
    hplaces

/-- Another connective in every leading place: of the filter, of a rule list, and of the children of a group that has no
rules; the list with the second rule does not compile. -/
theorem compileGroups_leading_nested :
    let compile : RuleCompiler String Nat := fun r =>
      if r.operator = .isNull then .ok (.leaf r.field fun n => n < r.field.length) else .error .emptyField
    let rule (field : String) (c : Connective) : Rule := ⟨field, .isNull, .null, c⟩
    let filter (c : Connective) : List Group :=
      [.mk [] [.mk [rule "a" c, rule "bb" .or] [] c,
        .mk [rule "ccc" c, ⟨"dddd", .equal, .null, .or⟩] [] .or] c]
    compile.IgnoresJoins ∧ Group.clearedFilter (filter .and) = Group.clearedFilter (filter .or) ∧
      ∃ c c', compileGroups compile (filter .and) = .ok c ∧ compileGroups compile (filter .or) = .ok c' ∧
        c.predicate.test 2 = ⟨false, ["a", "bb"]⟩ ∧ c'.predicate.test 2 = ⟨false, ["a", "bb"]⟩ ∧
        (events c.steps).map CompileEvent.entry = (events c'.steps).map CompileEvent.entry := by
  intro compile rule filter
  have hignores : compile.IgnoresJoins := fun _ _ => rfl
  have hsame : Group.clearedFilter (filter .and) = Group.clearedFilter (filter .or) := rfl
  obtain ⟨⟨c, c', hc, hc', htest, -, hlog⟩, -⟩ :=
    compileGroups_leading compile hignores _ _ [] [] hsame
  have hcalls : c.predicate.test 2 = ⟨false, ["a", "bb"]⟩ := by
    cases hc
    decide
  exact ⟨hignores, hsame, c, c', hc, hc', hcalls, (htest 2).symm.trans hcalls, hlog⟩

end RuleTree
