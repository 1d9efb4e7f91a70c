import RuleTree.Proofs.Tree.Places

/-! Which leaves a filter calls for an entity. The calls follow the order in which the rules were tried, with no place
twice and none of a list that fails, and a leaf that is not called has no part in the verdict. -/

namespace RuleTree

variable {ε ι α : Type}

/-! ### Order -/

/-- The calls of all rules of a list in order; none of a list that fails. -/
def Leaves.listCalls (leaf : Leaves ε) (rules : List Rule) : List ε :=
  ((judgeRules leaf rules).getD []).flatMap fun w => w.2.calls

theorem Leaves.listCalls_of_none {leaf : Leaves ε} {r : Rule} (h : leaf r = none) (rest : List Rule) :
    leaf.listCalls (r :: rest) = [] := by
  rw [listCalls, judgeRules_cons, h]
  rfl

theorem Leaves.listCalls_of_some {leaf : Leaves ε} {r : Rule} {v : Verdict ε} (h : leaf r = some v)
    (rest : List Rule) : (leaf.listCalls (r :: rest)).Sublist (v.calls ++ leaf.listCalls rest) := by
  rw [listCalls, listCalls, judgeRules_cons, h]
  cases judgeRules leaf rest with
  | none => exact List.nil_sublist _
  | some ws => exact List.Sublist.refl _

namespace Verdict

theorem calls_join (c : Connective) (v w : Verdict ε) :
    (v.join c w).calls.Sublist (v.calls ++ w.calls) := by
  unfold join
  split
  · exact List.sublist_append_left _ _
  · exact List.Sublist.refl _

theorem calls_joinOnto (v : Verdict ε) (ws : List (Connective × Verdict ε)) :
    (v.joinOnto ws).calls.Sublist (v.calls ++ ws.flatMap fun w => w.2.calls) := by
  induction ws generalizing v with
  | nil => exact List.sublist_append_left _ _
  | cons w ws ih =>
    rw [List.flatMap_cons, ← List.append_assoc]
    exact (ih (v.join w.1 w.2)).trans ((calls_join w.1 v w.2).append_right _)

theorem calls_joinAll (ws : List (Connective × Verdict ε)) :
    (joinAll ws).calls.Sublist (ws.flatMap fun w => w.2.calls) := by
  cases ws with
  | nil => exact List.Sublist.refl []
  | cons first rest => exact calls_joinOnto first.2 rest

end Verdict

theorem calls_evaluateRules (leaf : Leaves ε) (rules : List Rule) :
    (evaluateRules leaf rules).calls.Sublist (leaf.listCalls rules) := by
  unfold evaluateRules Leaves.listCalls
  cases judgeRules leaf rules with
  | none => exact List.Sublist.refl []
  | some ws => exact Verdict.calls_joinAll ws

mutual

theorem calls_evaluateGroup (leaf : Leaves ε) : ∀ g : Group,
    (evaluateGroup leaf g).calls.Sublist (g.ruleLists.flatMap leaf.listCalls)
  | .mk rules groups _ => by
    have hown := calls_evaluateRules leaf rules
    have hchildren := (Verdict.calls_joinAll _).trans (calls_judgeGroups leaf groups)
    rw [Group.ruleLists, List.flatMap_cons]
    cases groups with
    | nil => exact hown.trans (List.sublist_append_left _ _)
    | cons first others =>
      cases rules with
      | nil => exact hchildren
      | cons r rest => exact (Verdict.calls_join first.connective _ _).trans (hown.append hchildren)

theorem calls_judgeGroups (leaf : Leaves ε) : ∀ groups : List Group,
    ((judgeGroups leaf groups).flatMap fun w => w.2.calls).Sublist
      ((Group.ruleListsAll groups).flatMap leaf.listCalls)
  | [] => List.Sublist.refl []
  | g :: rest => by
    rw [judgeGroups, Group.ruleListsAll, List.flatMap_cons, List.flatMap_append]
    exact (calls_evaluateGroup leaf g).append (calls_judgeGroups leaf rest)

end

theorem calls_evaluateGroups (leaf : Leaves ε) (groups : List Group) :
    (evaluateGroups leaf groups).calls.Sublist ((Group.ruleListsAll groups).flatMap leaf.listCalls) :=
  (Verdict.calls_joinAll _).trans (calls_judgeGroups leaf groups)

/-! ### Places -/

namespace RuleCompiler

theorem reached_sublist (compile : RuleCompiler ε α) (rules : List Rule) :
    (compile.reached rules).Sublist rules := by
  have hreached := (List.take_sublist 1 (rules.dropWhile compile.compiles)).append_left
    (rules.takeWhile compile.compiles)
  rwa [List.takeWhile_append_dropWhile] at hreached

theorem listCalls_of_failed {compile : RuleCompiler ε α} {rules : List Rule} {e : RuleError}
    (h : (tryRules compile rules).1 = .error e) (x : α) : (compile.leaves x).listCalls rules = [] := by
  have htry := tryRules_test compile x rules
  rw [h, eq_comm, Except.toOption, Option.map_none, Option.map_eq_none_iff] at htry
  rw [Leaves.listCalls, htry]
  rfl

variable (tests : Nat → Option (α → Bool)) (x : α)

theorem listCalls_placed (rules : List Rule) :
    (((placed tests).leaves x).listCalls rules).Sublist
      (((placed tests).reached rules).map Rule.place) := by
  induction rules with
  | nil => exact List.Sublist.refl []
  | cons r rest ih =>
    have hleaf := leaves_placed tests x r
    cases h : tests r.place with
    | none =>
      rw [h] at hleaf
      rw [Leaves.listCalls_of_none hleaf]
      exact List.nil_sublist _
    | some f =>
      have hr : placed tests r = .ok (.leaf r.place f) := by rw [placed, h]
      rw [h] at hleaf
      rw [reached_of_ok hr]
      exact (Leaves.listCalls_of_some hleaf rest).trans (ih.cons_cons r.place)

theorem flatMap_listCalls_placed (lists : List (List Rule)) :
    (lists.flatMap ((placed tests).leaves x).listCalls).Sublist
      ((lists.flatMap (placed tests).reached).map Rule.place) := by
  induction lists with
  | nil => exact List.Sublist.refl []
  | cons rules rest ih =>
    rw [List.flatMap_cons, List.flatMap_cons, List.map_append]
    exact (listCalls_placed tests x rules).append ih

theorem flatMap_reached_sublist (compile : RuleCompiler ε α) (lists : List (List Rule)) :
    (lists.flatMap compile.reached).Sublist lists.flatten := by
  induction lists with
  | nil => exact List.Sublist.refl []
  | cons rules rest ih => exact (reached_sublist compile rules).append ih

/-- Where all places differ, a list that fails has no place among the calls. -/
theorem place_notMem_listCalls {lists : List (List Rule)} (hnodup : (lists.flatten.map Rule.place).Nodup)
    {rules : List Rule} (hrules : rules ∈ lists) {e : RuleError}
    (hfailed : (tryRules (placed tests) rules).1 = .error e) {r : Rule} (hr : r ∈ rules) :
    r.place ∉ lists.flatMap ((placed tests).leaves x).listCalls := by
  have hcalls (ls : List (List Rule)) : (ls.flatMap ((placed tests).leaves x).listCalls).Sublist
      (ls.flatten.map Rule.place) :=
    (flatMap_listCalls_placed tests x ls).trans ((flatMap_reached_sublist _ ls).map Rule.place)
  obtain ⟨before, after, rfl⟩ := List.append_of_mem hrules
  have hplace : r.place ∈ rules.map Rule.place := List.mem_map_of_mem hr
  simp only [List.flatten_append, List.flatten_cons, List.map_append, List.nodup_append, List.mem_append]
    at hnodup
  obtain ⟨-, ⟨-, -, hafter⟩, hbefore⟩ := hnodup
  rw [List.flatMap_append, List.flatMap_cons, listCalls_of_failed hfailed, List.nil_append, List.mem_append]
  rintro (hmem | hmem)
  · exact hbefore _ ((hcalls before).subset hmem) _ (.inl hplace) rfl
  · exact hafter _ hplace _ ((hcalls after).subset hmem) rfl

end RuleCompiler

theorem Group.places_ascending (groups : List Group) :
    ((ruleListsAll (numberedAll 0 groups)).flatten.map Rule.place).Pairwise (· < ·) := by
  have hplaces := places_numberedAll 0 groups
  rw [show (ruleListsAll (numberedAll 0 groups)).flatten.map Rule.place = _ from hplaces]
  exact List.pairwise_lt_range'

/-! ### Leaves that are not called -/

/-- The second verdict is the first one, provided that all calls of the first one are among the given. -/
def Verdict.KeptWithin (called : List ε) (v v' : Verdict ε) : Prop := v.calls ⊆ called → v' = v

theorem Verdict.compatible_keptWithin (called : List ε) : Compatible (KeptWithin called) where
  join {v w v' w'} hv hw c := by
    intro hcalled
    unfold Verdict.join at hcalled ⊢
    split at hcalled
    case isTrue hsettled => rw [hv hcalled, if_pos hsettled, if_pos hsettled]
    case isFalse hsettled =>
      obtain ⟨hleft, hright⟩ := List.append_subset.1 hcalled
      rw [hv hleft, hw hright]
  silent _ _ := rfl

theorem evaluateGroups_keptWithin {called : List ε} {leaf leaf' : Leaves ε}
    (h : leaf.Relate (Verdict.KeptWithin called) Eq leaf') (groups : List Group) :
    (evaluateGroups leaf groups).KeptWithin called (evaluateGroups leaf' groups) :=
  evaluateGroups_rel (Verdict.compatible_keptWithin called) h (Group.Lift.refl_all (fun _ => rfl) groups)

/-- Tests of the same places, which answer alike of the entity where they are called. -/
def AnswerAlike (called : List Nat) (x : α) (tests tests' : Nat → Option (α → Bool)) : Prop :=
  ∀ i, Option.Rel (fun f f' => i ∈ called → f' x = f x) (tests i) (tests' i)

theorem AnswerAlike.leaves {called : List Nat} {x : α} {tests tests' : Nat → Option (α → Bool)}
    (h : AnswerAlike called x tests tests') :
    ((RuleCompiler.placed tests).leaves x).Relate (Verdict.KeptWithin called) Eq
      ((RuleCompiler.placed tests').leaves x) where
  connective hr := by rw [hr]
  leaf := by
    rintro r _ rfl
    have hplace := h r.place
    rw [RuleCompiler.leaves_placed, RuleCompiler.leaves_placed]
    generalize tests r.place = f, tests' r.place = f' at hplace
    cases hplace with
    | none => exact .none
    | some hr =>
      exact .some fun hcalled => congrArg (Verdict.mk · [r.place]) (hr (hcalled List.mem_cons_self))

/-- In a place that is not called, any other test will do. -/
theorem answerAlike_update {called : List Nat} {tests : Nat → Option (α → Bool)} {i : Nat} {f : α → Bool}
    (hi : tests i = some f) (hcalled : i ∉ called) (x : α) (f' : α → Bool) :
    AnswerAlike called x tests (Function.update tests i (some f')) := by
  intro j
  by_cases hj : j = i
  · subst hj
    rw [hi, Function.update_self]
    exact .some fun hmem => absurd hmem hcalled
  · rw [Function.update_of_ne hj]
    cases tests j with
    | none => exact .none
    | some g => exact .some fun _ => rfl

/-! ### Equal rules -/

/-- The verdict with the calls that each label stands for. -/
def Verdict.relabel (labels : ι → List ε) (v : Verdict ι) : Verdict ε := ⟨v.holds, v.calls.flatMap labels⟩

/-- The rule of a numbered tree tells where among the rules the other one is, and is joined as that one is. -/
def Rule.StandsFor (rules : List Rule) (r r' : Rule) : Prop :=
  r'.connective = r.connective ∧ rules[r'.place]? = some r

namespace Group

theorem forall₂_standsFor {all : List Rule} {n : Nat} {rules : List Rule}
    (h : List.IsPrefix rules (all.drop n)) :
    List.Forall₂ (Rule.StandsFor all) rules (numberedRules n rules) := by
  induction rules generalizing n with
  | nil => exact .nil
  | cons r rest ih =>
    obtain ⟨after, hafter⟩ := h
    have hplace : all[n]? = some r := by rw [← List.head?_drop, ← hafter]; rfl
    refine .cons ⟨rfl, ?_⟩ (ih ⟨after, ?_⟩)
    · rw [Rule.place, length_field_inPlace, hplace]
    · rw [← List.tail_drop, ← hafter]; rfl

/-- The rules behind the first ones begin at their own place. -/
theorem isPrefix_drop_append {all left right : List Rule} {n : Nat}
    (h : List.IsPrefix (left ++ right) (all.drop n)) :
    List.IsPrefix left (all.drop n) ∧ List.IsPrefix right (all.drop (n + left.length)) := by
  obtain ⟨after, hafter⟩ := h
  refine ⟨⟨right ++ after, by rw [← hafter, List.append_assoc]⟩, ⟨after, ?_⟩⟩
  rw [← List.drop_drop, ← hafter, List.append_assoc, List.drop_left]

mutual

theorem standsFor_numbered {all : List Rule} : ∀ (n : Nat) (g : Group),
    List.IsPrefix g.ruleLists.flatten (all.drop n) → Lift (Rule.StandsFor all) g (g.numbered n)
  | n, mk rules groups c, h => by
    rw [ruleLists, List.flatten_cons] at h
    obtain ⟨hown, hchildren⟩ := isPrefix_drop_append h
    exact .mk c (forall₂_standsFor hown) (standsFor_numberedAll _ groups hchildren)

theorem standsFor_numberedAll {all : List Rule} : ∀ (n : Nat) (groups : List Group),
    List.IsPrefix (ruleListsAll groups).flatten (all.drop n) →
      List.Forall₂ (Lift (Rule.StandsFor all)) groups (numberedAll n groups)
  | _, [], _ => .nil
  | n, g :: rest, h => by
    rw [ruleListsAll, List.flatten_append] at h
    obtain ⟨hfirst, hrest⟩ := isPrefix_drop_append h
    rw [length_ruleLists] at hrest
    exact .cons (standsFor_numbered n g hfirst) (standsFor_numberedAll _ rest hrest)

end

mutual

theorem Lift.ruleLists {R : Rule → Rule → Prop} : ∀ {g g' : Group}, Lift R g g' →
    List.Forall₂ (List.Forall₂ R) g.ruleLists g'.ruleLists
  | _, _, .mk _ hrules hgroups => .cons hrules (Lift.ruleListsAll hgroups)

theorem Lift.ruleListsAll {R : Rule → Rule → Prop} : ∀ {groups groups' : List Group},
    List.Forall₂ (Lift R) groups groups' →
      List.Forall₂ (List.Forall₂ R) (ruleListsAll groups) (ruleListsAll groups')
  | _, _, .nil => .nil
  | _, _, .cons hg hrest => List.rel_append (Lift.ruleLists hg) (Lift.ruleListsAll hrest)

end

end Group

theorem Verdict.relabel_join (labels : ι → List ε) (c : Connective) (v w : Verdict ι) :
    (v.join c w).relabel labels = (v.relabel labels).join c (w.relabel labels) := by
  unfold join relabel
  split
  · rfl
  · rw [List.flatMap_append]

theorem Verdict.compatible_relabel (labels : ι → List ε) :
    Compatible fun (v : Verdict ε) (v' : Verdict ι) => v = v'.relabel labels where
  join hv hw c := by rw [hv, hw, relabel_join]
  silent _ := rfl

namespace RuleCompiler

/-- The answers of the rule in each place, where it compiles. -/
def testsOf (compile : RuleCompiler ε α) (rules : List Rule) (i : Nat) : Option (α → Bool) :=
  rules[i]?.bind fun r => (compile r).toOption.map fun p x => (p.test x).holds

/-- The calls that the rule in each place makes for the entity. -/
def callsOf (compile : RuleCompiler ε α) (rules : List Rule) (x : α) (i : Nat) : List ε :=
  ((rules[i]?.bind (compile.leaves x)).map Verdict.calls).getD []

variable (compile : RuleCompiler ε α) (rules : List Rule)

theorem relate_placed (x : α) :
    (compile.leaves x).Relate (fun v v' => v = v'.relabel (compile.callsOf rules x)) (Rule.StandsFor rules)
      ((placed (compile.testsOf rules)).leaves x) where
  connective h := h.1
  leaf := by
    rintro r r' ⟨-, hplace⟩
    rw [leaves_placed, testsOf, hplace, Option.bind_some]
    cases hr : compile r with
    | error e =>
      rw [leaves, hr]
      exact .none
    | ok p =>
      rw [leaves_of_ok hr]
      exact .some (by simp [Verdict.relabel, callsOf, hplace, leaves_of_ok hr])

/-- Of rules that stand for one another, as many are tried. -/
theorem forall₂_reached {tried tried' : List Rule} (h : List.Forall₂ (Rule.StandsFor rules) tried tried') :
    List.Forall₂ (Rule.StandsFor rules) (compile.reached tried)
      ((placed (compile.testsOf rules)).reached tried') := by
  induction h with
  | nil => exact .nil
  | @cons r r' rest rest' hr _ ih =>
    have htest : compile.testsOf rules r'.place =
        (compile r).toOption.map fun p x => (p.test x).holds := by
      rw [testsOf, hr.2, Option.bind_some]
    cases hc : compile r with
    | error e =>
      have hc' : placed (compile.testsOf rules) r' = .error .emptyField := by
        rw [placed, htest, hc]; rfl
      rw [reached_of_error hc, reached_of_error hc']
      exact .cons hr .nil
    | ok p =>
      have hc' : placed (compile.testsOf rules) r' = .ok (.leaf r'.place fun x => (p.test x).holds) := by
        rw [placed, htest, hc]; rfl
      rw [reached_of_ok hc, reached_of_ok hc']
      exact .cons hr ih

end RuleCompiler

/-! ### Filters -/

/-- A filter of numbered rules, compiled to the tests of their places. The places are tried in ascending order; what is
called for an entity is called in that order, and not in a list that fails; and whatever the leaves that are not called
would have answered, the verdict and the calls are the same. -/
structure Compiled.Linear (tests : Nat → Option (α → Bool)) (groups : List Group)
    (c : Compiled Nat α) : Prop where
  ascending : ((triedRules c.steps).map Rule.place).Pairwise (· < ·)
  inOrder : ∀ x, (c.predicate.test x).calls.Sublist ((triedRules c.steps).map Rule.place)
  failed : ∀ x, ∀ rules ∈ Group.ruleListsAll groups, ∀ e,
    (tryRules (RuleCompiler.placed tests) rules).1 = .error e →
      ∀ r ∈ rules, r.place ∉ (c.predicate.test x).calls
  uncalled : ∀ x tests', AnswerAlike (c.predicate.test x).calls x tests tests' →
    ∃ c', compileGroups (RuleCompiler.placed tests') groups = .ok c' ∧
      c'.predicate.test x = c.predicate.test x

theorem linear_numberedAll {tests : Nat → Option (α → Bool)} {groups : List Group} (hne : groups ≠ [])
    {c : Compiled Nat α}
    (hc : compileGroups (RuleCompiler.placed tests) (Group.numberedAll 0 groups) = .ok c) :
    c.Linear tests (Group.numberedAll 0 groups) := by
  have hascending := Group.places_ascending groups
  have htried := triedRules_compileGroups hc
  have hcalls (x : α) : (c.predicate.test x).calls.Sublist
      ((Group.ruleListsAll (Group.numberedAll 0 groups)).flatMap
        ((RuleCompiler.placed tests).leaves x).listCalls) := by
    rw [compileGroups_test hc]
    exact calls_evaluateGroups _ _
  refine ⟨?_, fun x => ?_, fun x rules hrules e hfailed r hr hmem => ?_, fun x tests' halike => ?_⟩
  · rw [htried]
    exact hascending.sublist ((RuleCompiler.flatMap_reached_sublist _ _).map Rule.place)
  · rw [htried]
    exact (hcalls x).trans (RuleCompiler.flatMap_listCalls_placed tests x _)
  · have hnodup := hascending.imp fun h => Nat.ne_of_lt h
    exact RuleCompiler.place_notMem_listCalls tests x hnodup hrules hfailed hr ((hcalls x).subset hmem)
  · have hne' : Group.numberedAll 0 groups ≠ [] := by
      cases groups with
      | nil => exact hne
      | cons first rest => exact List.cons_ne_nil _ _
    obtain ⟨c', hc'⟩ := compileGroups_isOk (RuleCompiler.placed tests') hne'
    refine ⟨c', hc', ?_⟩
    rw [compileGroups_test hc x] at halike ⊢
    rw [compileGroups_test hc' x]
    exact evaluateGroups_keptWithin halike.leaves _ (List.Subset.refl _)

/-- Leaves are used in order and at most once. Whatever the leaf in each place of a filter is, the calls for an entity
ascend through the places that were tried, leave out the lists that fail, and do not depend on leaves that are not
called. Any rule compiler makes of the filter itself what its answers make of the numbered one, call by call. -/
theorem compileGroups_calls (compile : RuleCompiler ε α) (first : Group) (rest : List Group) :
    let groups := first :: rest
    let rules := (Group.ruleListsAll groups).flatten
    (∀ tests : Nat → Option (α → Bool),
      ∃ p, compileGroups (RuleCompiler.placed tests) (Group.numberedAll 0 groups) = .ok p ∧
        p.Linear tests (Group.numberedAll 0 groups)) ∧
    ∃ c p, compileGroups compile groups = .ok c ∧
      compileGroups (RuleCompiler.placed (compile.testsOf rules)) (Group.numberedAll 0 groups) = .ok p ∧
      List.Forall₂ (Rule.StandsFor rules) (triedRules c.steps) (triedRules p.steps) ∧
      ∀ x, c.predicate.test x = (p.predicate.test x).relabel (compile.callsOf rules x) := by
  intro groups rules
  have hne : groups ≠ [] := List.cons_ne_nil first rest
  have hok (tests : Nat → Option (α → Bool)) :
      ∃ p, compileGroups (RuleCompiler.placed tests) (Group.numberedAll 0 groups) = .ok p :=
    compileGroups_isOk _ (List.cons_ne_nil _ _)
  have hlift : List.Forall₂ (Group.Lift (Rule.StandsFor rules)) groups (Group.numberedAll 0 groups) :=
    Group.standsFor_numberedAll 0 groups (List.prefix_refl _)
  refine ⟨fun tests => ?_, ?_⟩
  · obtain ⟨p, hp⟩ := hok tests
    exact ⟨p, hp, linear_numberedAll hne hp⟩
  · obtain ⟨c, hc⟩ := compileGroups_isOk compile hne
    obtain ⟨p, hp⟩ := hok (compile.testsOf rules)
    refine ⟨c, p, hc, hp, ?_, fun x => ?_⟩
    · rw [triedRules_compileGroups hc, triedRules_compileGroups hp]
      exact List.rel_flatMap (Group.Lift.ruleListsAll hlift) fun _ _ h => compile.forall₂_reached rules h
    · rw [compileGroups_test hc, compileGroups_test hp]
      exact evaluateGroups_rel (Verdict.compatible_relabel _) (compile.relate_placed rules x) hlift

/-- A rule that occurs three times, a list that fails in its second place, and a last group that is not called, so that
its leaf may as well answer the opposite. -/
theorem compileGroups_calls_repeated :
    let compile : RuleCompiler String Nat := fun r =>
      if r.operator = .isNull then .ok (.leaf r.field fun n => n < r.field.length) else .error .emptyField
    let rule (field : String) : Rule := ⟨field, .isNull, .null, .or⟩
    let first : Group := .mk [rule "bb", rule "a", rule "a"] [] .and
    let rest : List Group :=
      [.mk [rule "ccc", ⟨"dddd", .equal, .null, .or⟩] [] .or, .mk [rule "dddd"] [] .or, .mk [rule "a"] [] .or]
    let tests := compile.testsOf (Group.ruleListsAll (first :: rest)).flatten
    let opposite : Nat → Option (Nat → Bool) := Function.update tests 6 (some fun n => !decide (n < "a".length))
    let numbered := Group.numberedAll 0 (first :: rest)
    ∃ p p', compileGroups (RuleCompiler.placed tests) numbered = .ok p ∧
      compileGroups (RuleCompiler.placed opposite) numbered = .ok p' ∧
      (triedRules p.steps).map Rule.place = [0, 1, 2, 3, 4, 5, 6] ∧
      p.predicate.test 3 = ⟨true, [0, 1, 2, 5]⟩ ∧ p'.predicate.test 3 = ⟨true, [0, 1, 2, 5]⟩ := by
  intro compile rule first rest tests opposite numbered
  obtain ⟨p, hp, hlinear⟩ := (compileGroups_calls compile first rest).1 tests
  have htest : p.predicate.test 3 = ⟨true, [0, 1, 2, 5]⟩ := by
    cases hp
    decide
  have halike : AnswerAlike (p.predicate.test 3).calls 3 tests opposite := by
    rw [htest]
    exact answerAlike_update rfl (by decide) 3 _
  obtain ⟨p', hp', hsame⟩ := hlinear.uncalled 3 opposite halike
  refine ⟨p, p', hp, hp', ?_, htest, hsame.trans htest⟩
  cases hp
  decide

end RuleTree
