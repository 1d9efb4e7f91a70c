import RuleTree.Proofs.Tree.Places

/-! Filters in another shape. A group says the same when it is wrapped in an otherwise empty one, and rules that stand
beside children may become a child of their own, before another one that holds the children. Such a change at any depth
leaves the verdicts of the filter, the calls behind them and the order of compilation as they are. -/

namespace RuleTree

variable {ε α : Type}

namespace Group

/-! ### One change -/

/-- The group as the only child of an otherwise empty one, which joins its siblings as the group did. -/
def wrapped (g : Group) : Group := mk [] [g] g.connective

/-- A group for the rules, which stands first among its siblings, and one for the children. -/
def halves (rules : List Rule) (first : Group) (others : List Group) : List Group :=
  [mk rules [] .and, mk [] (first :: others) first.connective]

/-- The second tree is the first one with one group in it changed. -/
inductive Rewrites : Group → Group → Prop
  | wrap (g : Group) : Rewrites g g.wrapped
  | split (r : Rule) (rules : List Rule) (first : Group) (others : List Group) (connective : Connective) :
      Rewrites (mk (r :: rules) (first :: others) connective)
        (mk [] (halves (r :: rules) first others) connective)
  | inside {g g' : Group} (rules : List Rule) (before after : List Group) (connective : Connective)
      (h : Rewrites g g') :
      Rewrites (mk rules (before ++ g :: after) connective) (mk rules (before ++ g' :: after) connective)

theorem Rewrites.connective {g g' : Group} (h : g.Rewrites g') : g'.connective = g.connective := by
  cases h <;> rfl

/-- A group is what its rules and its judged children make of it. -/
theorem evaluate_congr (leaf : Leaves ε) (rules : List Rule) {groups groups' : List Group}
    (connective : Connective) (h : judgeGroups leaf groups' = judgeGroups leaf groups) :
    evaluateGroup leaf (mk rules groups' connective) = evaluateGroup leaf (mk rules groups connective) := by
  cases groups with
  | nil =>
    cases groups' with
    | nil => rfl
    | cons first' others' => cases h
  | cons first others =>
    cases groups' with
    | nil => cases h
    | cons first' others' =>
      have hfirst : first'.connective = first.connective := congrArg Prod.fst (List.cons.inj h).1
      simp only [evaluateGroup, h, hfirst]

theorem Rewrites.judge {g g' : Group} (h : g.Rewrites g') {leaf : Leaves ε}
    (hevaluate : evaluateGroup leaf g' = evaluateGroup leaf g) (before after : List Group) :
    judgeGroups leaf (before ++ g' :: after) = judgeGroups leaf (before ++ g :: after) := by
  rw [judgeGroups_append, judgeGroups_append, judgeGroups, judgeGroups, hevaluate, h.connective]

theorem Rewrites.evaluate {g g' : Group} (h : g.Rewrites g') (leaf : Leaves ε) :
    evaluateGroup leaf g' = evaluateGroup leaf g := by
  induction h with
  | wrap g => rfl
  | split r rules first others connective => rfl
  | inside rules before after connective h ih =>
    exact evaluate_congr leaf rules connective (h.judge ih before after)

/-! ### Rule lists -/

/-- The rule lists that have a rule, in pre-order. -/
def filledLists (groups : List Group) : List (List Rule) :=
  (ruleListsAll groups).filter fun rules => !rules.isEmpty

theorem filledLists_append (as bs : List Group) :
    filledLists (as ++ bs) = filledLists as ++ filledLists bs := by
  rw [filledLists, ruleListsAll_append, List.filter_append]
  rfl

theorem filledLists_cons (g : Group) (rest : List Group) :
    filledLists (g :: rest) = filledLists [g] ++ filledLists rest :=
  filledLists_append [g] rest

theorem filledLists_mk (rules : List Rule) (groups : List Group) (connective : Connective) :
    filledLists [mk rules groups connective] =
      [rules].filter (fun rules => !rules.isEmpty) ++ filledLists groups := by
  rw [filledLists, filledLists, ruleListsAll, ruleLists, ruleListsAll, List.append_nil,
    ← List.filter_append]
  rfl

theorem Rewrites.filledLists {g g' : Group} (h : g.Rewrites g') :
    Group.filledLists [g'] = Group.filledLists [g] := by
  induction h with
  | wrap g => rw [wrapped, filledLists_mk]; rfl
  | split r rules first others connective =>
    rw [halves, filledLists_mk, filledLists_cons, filledLists_mk, filledLists_mk, filledLists_mk]
    rfl
  | inside rules before after connective h ih =>
    rw [filledLists_mk, filledLists_mk, filledLists_append, filledLists_append, filledLists_cons, ih,
      ← filledLists_cons]

/-! ### Numbered trees -/

theorem Rewrites.ruleCount {g g' : Group} (h : g.Rewrites g') : g'.ruleCount = g.ruleCount := by
  induction h with
  | wrap g => simp [wrapped, Group.ruleCount, ruleCountAll]
  | split r rules first others connective => simp [halves, Group.ruleCount, ruleCountAll]
  | inside rules before after connective h ih =>
    simp only [Group.ruleCount, ruleCountAll_append, ruleCountAll, ih]

/-- A change keeps the places of the rules. -/
theorem Rewrites.numbered {g g' : Group} (h : g.Rewrites g') (n : Nat) :
    (g.numbered n).Rewrites (g'.numbered n) := by
  induction h generalizing n with
  | wrap g =>
    have hwrap := Rewrites.wrap (g.numbered n)
    rwa [wrapped, connective_numbered] at hwrap
  | split r rules first others connective =>
    have hsplit := Rewrites.split (inPlace n r) (numberedRules (n + 1) rules)
      (first.numbered (n + (r :: rules).length))
      (numberedAll (n + (r :: rules).length + first.ruleCount) others) connective
    rwa [halves, connective_numbered] at hsplit
  | @inside g g' rules before after connective h ih =>
    have hinside := Rewrites.inside (numberedRules n rules) (numberedAll (n + rules.length) before)
      (numberedAll (n + rules.length + ruleCountAll before + g.ruleCount) after) connective
      (ih (n + rules.length + ruleCountAll before))
    rw [Group.numbered, Group.numbered, numberedAll_append, numberedAll_append, Group.numberedAll,
      Group.numberedAll, h.ruleCount]
    exact hinside

end Group

/-! ### Compiled filters -/

/-- Of every entity the two say the same by calling the same leaves in the same order, and they were compiled by trying
the same rules in the same order. -/
structure Compiled.Agrees (c c' : Compiled ε α) : Prop where
  test : ∀ x, c'.predicate.test x = c.predicate.test x
  tried : triedRules c'.steps = triedRules c.steps

/-- Both filters compile, and what they compile to agrees. -/
def RuleCompiler.Equates (compile : RuleCompiler ε α) (groups groups' : List Group) : Prop :=
  ∃ c c', compileGroups compile groups = .ok c ∧ compileGroups compile groups' = .ok c' ∧ c.Agrees c'

/-- Of a rule list that has no rule nothing is tried. -/
theorem flatMap_reached_filled (compile : RuleCompiler ε α) (lists : List (List Rule)) :
    (lists.filter fun rules => !rules.isEmpty).flatMap compile.reached = lists.flatMap compile.reached := by
  induction lists with
  | nil => rfl
  | cons rules rest ih => cases rules <;> simp [ih, RuleCompiler.reached]

theorem triedRules_filledLists {compile : RuleCompiler ε α} {groups : List Group} {c : Compiled ε α}
    (h : compileGroups compile groups = .ok c) :
    triedRules c.steps = (Group.filledLists groups).flatMap compile.reached := by
  rw [triedRules_compileGroups h, Group.filledLists, flatMap_reached_filled]

theorem triedRules_compileGroup (compile : RuleCompiler ε α) (g : Group) :
    triedRules (compileGroup compile g).steps = (Group.filledLists [g]).flatMap compile.reached := by
  rw [compileGroup_steps, triedRules_flatMap, Group.filledLists, flatMap_reached_filled,
    Group.ruleListsAll, Group.ruleListsAll, List.append_nil]

/-- A group agrees with a filter whose rule lists it has and whose verdicts it gives. -/
theorem agrees_compileGroup {compile : RuleCompiler ε α} {groups : List Group} {g : Group}
    {c : Compiled ε α} (hc : compileGroups compile groups = .ok c)
    (hevaluate : ∀ leaf : Leaves ε, evaluateGroup leaf g = evaluateGroups leaf groups)
    (hlists : Group.filledLists [g] = Group.filledLists groups) :
    c.Agrees (compileGroup compile g) where
  test x := by rw [compileGroup_test, compileGroups_test hc, hevaluate]
  tried := by rw [triedRules_compileGroup, triedRules_filledLists hc, hlists]

/-- A change to one group, wherever it stands, is not seen. -/
theorem Group.Rewrites.equates {g g' : Group} (h : g.Rewrites g') (compile : RuleCompiler ε α)
    (before after : List Group) : compile.Equates (before ++ g :: after) (before ++ g' :: after) := by
  have hne (g : Group) : before ++ g :: after ≠ [] :=
    List.append_ne_nil_of_right_ne_nil before (List.cons_ne_nil g after)
  obtain ⟨c, hc⟩ := compileGroups_isOk compile (hne g)
  obtain ⟨c', hc'⟩ := compileGroups_isOk compile (hne g')
  refine ⟨c, c', hc, hc', fun x => ?_, ?_⟩
  · rw [compileGroups_test hc, compileGroups_test hc', evaluateGroups, evaluateGroups,
      h.judge (h.evaluate _)]
  · rw [triedRules_filledLists hc, triedRules_filledLists hc', filledLists_append, filledLists_append,
      filledLists_cons g', h.filledLists, ← filledLists_cons g]

/-- A group without rules is the filter of its children, so that wrapping a group changes nothing, and a group with both
is the filter of its two halves. Either change to a group at any depth of a filter leaves the filter as it is: the same
verdicts by the same calls, and the same rules tried in the same order. That holds also of the places of equal rules. -/
theorem compileGroups_rewritten (compile : RuleCompiler ε α) :
    (∀ first others connective, ∃ c, compileGroups compile (first :: others) = .ok c ∧
      c.Agrees (compileGroup compile (.mk [] (first :: others) connective))) ∧
    (∀ g : Group, (compileGroup compile g).Agrees (compileGroup compile g.wrapped)) ∧
    (∀ r rules first others connective, ∃ c,
      compileGroups compile (Group.halves (r :: rules) first others) = .ok c ∧
        c.Agrees (compileGroup compile (.mk (r :: rules) (first :: others) connective))) ∧
    ∀ g g' : Group, g.Rewrites g' → ∀ before after,
      compile.Equates (before ++ g :: after) (before ++ g' :: after) ∧
        ∀ tests : Nat → Option (α → Bool), (RuleCompiler.placed tests).Equates
          (Group.numberedAll 0 (before ++ g :: after)) (Group.numberedAll 0 (before ++ g' :: after)) := by
  refine ⟨fun first others connective => ?_, fun g => ?_, fun r rules first others connective => ?_,
    fun g g' h before after => ⟨h.equates compile before after, fun tests => ?_⟩⟩
  · obtain ⟨c, hc⟩ := compileGroups_isOk compile (List.cons_ne_nil first others)
    refine ⟨c, hc, agrees_compileGroup hc (fun leaf => rfl) ?_⟩
    rw [Group.filledLists_mk]
    rfl
  · have hwrap := Group.Rewrites.wrap g
    refine ⟨fun x => ?_, ?_⟩
    · rw [compileGroup_test, compileGroup_test, hwrap.evaluate]
    · rw [triedRules_compileGroup, triedRules_compileGroup, hwrap.filledLists]
  · have hsplit := Group.Rewrites.split r rules first others connective
    obtain ⟨c, hc⟩ : ∃ c, compileGroups compile (Group.halves (r :: rules) first others) = .ok c :=
      ⟨_, rfl⟩
    refine ⟨c, hc, agrees_compileGroup hc (fun leaf => (hsplit.evaluate leaf).symm) ?_⟩
    rw [← hsplit.filledLists, Group.filledLists_mk]
    rfl
  · rw [Group.numberedAll_append, Group.numberedAll_append, Group.numberedAll, Group.numberedAll,
      h.ruleCount]
    exact (h.numbered _).equates (RuleCompiler.placed tests) _ _

/-- A group with both, below a rule and beside another group. -/
theorem compileGroups_rewritten_below :
    let compile : RuleCompiler String Nat := fun r => .ok (.leaf r.field fun n => n < r.field.length)
    let rule (field : String) (c : Connective) : Rule := ⟨field, .isNull, .null, c⟩
    let leaf (field : String) (c : Connective) : Group := .mk [rule field .and] [] c
    let tree (inner : Group) : Group := .mk [rule "dddd" .and] [leaf "ccc" .and, inner] .and
    let inner : Group := .mk [rule "a" .or] [leaf "bb" .or] .or
    let inner' : Group := .mk [] [.mk [rule "a" .or] [] .and, .mk [] [leaf "bb" .or] .or] .or
    (tree inner).Rewrites (tree inner') ∧
      ∃ c c', compileGroups compile [tree inner] = .ok c ∧ compileGroups compile [tree inner'] = .ok c' ∧
        c.predicate.test 3 = ⟨false, ["dddd", "ccc", "a", "bb"]⟩ ∧
        c'.predicate.test 3 = ⟨false, ["dddd", "ccc", "a", "bb"]⟩ ∧
        (triedRules c'.steps).map Rule.field = ["dddd", "ccc", "a", "bb"] := by
  intro compile rule leaf tree inner inner'
  have hsplit : (tree inner).Rewrites (tree inner') := .inside [_] [_] [] .and (.split _ [] _ [] .or)
  obtain ⟨⟨c, c', hc, hc', htest, htried⟩, -⟩ :=
    (compileGroups_rewritten compile).2.2.2 (tree inner) (tree inner') hsplit [] []
  have hcalls : c.predicate.test 3 = ⟨false, ["dddd", "ccc", "a", "bb"]⟩ := by
    cases hc
    decide
  refine ⟨hsplit, c, c', hc, hc', hcalls, (htest 3).trans hcalls, ?_⟩
  rw [htried]
  cases hc
  decide

end RuleTree
