import Mathlib.Data.List.TakeWhile
import RuleTree.Proofs.Tree.Evaluation

/-! The steps of a compilation. Groups are visited in pre-order; every rule list is tried up to its first
rule that does not compile, and leaves one line in the log. -/

namespace RuleTree

variable {ε α : Type}

/-! ### Pre-order -/

namespace Group

mutual

/-- The rule lists of a tree in pre-order, a group's own list before those of its children. -/
def ruleLists : Group → List (List Rule)
  | mk rules groups _ => rules :: ruleListsAll groups

def ruleListsAll : List Group → List (List Rule)
  | [] => []
  | g :: rest => ruleLists g ++ ruleListsAll rest

end

theorem depthAll_eq (groups : List Group) : depthAll groups = (groups.map depth).foldr max 0 := by
  induction groups with
  | nil => rfl
  | cons g rest ih => rw [depthAll, ih]; rfl

theorem ruleCountAll_eq (groups : List Group) :
    ruleCountAll groups = (groups.map ruleCount).foldr (· + ·) 0 := by
  induction groups with
  | nil => rfl
  | cons g rest ih => rw [ruleCountAll, ih, List.map_cons, List.foldr_cons]

mutual

theorem length_ruleLists : ∀ g, (ruleLists g).flatten.length = ruleCount g
  | mk rules groups c => by
    rw [ruleLists, ruleCount, List.flatten_cons, List.length_append, length_ruleListsAll groups]

theorem length_ruleListsAll : ∀ groups, (ruleListsAll groups).flatten.length = ruleCountAll groups
  | [] => rfl
  | g :: rest => by
    rw [ruleListsAll, ruleCountAll, List.flatten_append, List.length_append, length_ruleLists g,
      length_ruleListsAll rest]

end

end Group

/-! ### One rule list -/

namespace RuleCompiler

def compiles (compile : RuleCompiler ε α) (r : Rule) : Bool := (compile r).isOk

/-- The rules of a list that are tried: those before the first one that does not compile, and that one. -/
def reached (compile : RuleCompiler ε α) (rules : List Rule) : List Rule :=
  rules.takeWhile compile.compiles ++ (rules.dropWhile compile.compiles).take 1

/-- The error of the first rule that does not compile. -/
def firstError? (compile : RuleCompiler ε α) (rules : List Rule) : Option RuleError :=
  rules.findSome? fun r => match compile r with
    | .ok _ => none
    | .error e => some e

theorem reached_of_ok {compile : RuleCompiler ε α} {r : Rule} {p : Predicate ε α}
    (h : compile r = .ok p) (rest : List Rule) :
    compile.reached (r :: rest) = r :: compile.reached rest := by
  simp [reached, compiles, h, Except.isOk, Except.toBool]

theorem reached_of_error {compile : RuleCompiler ε α} {r : Rule} {e : RuleError}
    (h : compile r = .error e) (rest : List Rule) : compile.reached (r :: rest) = [r] := by
  simp [reached, compiles, h, Except.isOk, Except.toBool]

theorem reached_eq_self {compile : RuleCompiler ε α} {rules : List Rule}
    (h : ∀ r ∈ rules, compile.compiles r = true) : compile.reached rules = rules := by
  rw [reached, List.takeWhile_eq_self_iff.2 h, List.dropWhile_eq_nil_iff.2 h, List.take_nil,
    List.append_nil]

theorem firstError?_of_ok {compile : RuleCompiler ε α} {r : Rule} {p : Predicate ε α}
    (h : compile r = .ok p) (rest : List Rule) :
    compile.firstError? (r :: rest) = compile.firstError? rest := by
  simp [firstError?, h]

theorem firstError?_of_error {compile : RuleCompiler ε α} {r : Rule} {e : RuleError}
    (h : compile r = .error e) (rest : List Rule) :
    compile.firstError? (r :: rest) = some e := by
  simp [firstError?, h]

end RuleCompiler

/-- What is reported of a rule list that is not empty. -/
def listEvent (compile : RuleCompiler ε α) (rules : List Rule) : CompileEvent :=
  match compile.firstError? rules with
  | none => .listCompiled rules.length
  | some e => .listFailed e rules

def listSteps (compile : RuleCompiler ε α) (rules : List Rule) : List Step :=
  if rules.isEmpty then []
  else (compile.reached rules).map .tried ++ [.event (listEvent compile rules)]

theorem foldRules_steps (compile : RuleCompiler ε α) (rules : List Rule) (acc : Predicate ε α) :
    (foldRules compile acc rules).2 = (compile.reached rules).map .tried := by
  induction rules generalizing acc with
  | nil => rfl
  | cons r rest ih =>
    cases h : compile r with
    | error e => simp [foldRules, h, RuleCompiler.reached_of_error h]
    | ok p => simp [foldRules, h, ih, RuleCompiler.reached_of_ok h]

theorem firstError?_foldRules (compile : RuleCompiler ε α) (rules : List Rule)
    (acc : Predicate ε α) :
    compile.firstError? rules = match (foldRules compile acc rules).1 with
      | .ok _ => none
      | .error e => some e := by
  induction rules generalizing acc with
  | nil => rfl
  | cons r rest ih =>
    rw [foldRules_fst_cons]
    cases h : compile r with
    | error e => rw [RuleCompiler.firstError?_of_error h]; rfl
    | ok p => rw [RuleCompiler.firstError?_of_ok h]; exact ih _

/-- The first error is the one that a list fails with. -/
theorem tryRules_error_iff (compile : RuleCompiler ε α) (rules : List Rule) (e : RuleError) :
    (tryRules compile rules).1 = .error e ↔ compile.firstError? rules = some e := by
  cases rules with
  | nil => simp [tryRules, RuleCompiler.firstError?]
  | cons first rest =>
    rw [tryRules_fst_cons]
    cases h : compile first with
    | error e' => simp [RuleCompiler.firstError?_of_error h, Except.bind]
    | ok p =>
      rw [RuleCompiler.firstError?_of_ok h, firstError?_foldRules compile rest p]
      simp only [Except.bind]
      cases (foldRules compile p rest).1 <;> simp

theorem compileRules_steps (compile : RuleCompiler ε α) (rules : List Rule) :
    (compileRules compile rules).steps = listSteps compile rules := by
  cases rules with
  | nil => rfl
  | cons first rest =>
    cases h : compile first with
    | error e =>
      simp [compileRules, tryRules, h, listSteps, listEvent, RuleCompiler.reached_of_error h,
        RuleCompiler.firstError?_of_error h]
    | ok p =>
      have hsteps := foldRules_steps compile rest p
      have herror := firstError?_foldRules compile rest p
      rw [← RuleCompiler.firstError?_of_ok h] at herror
      cases hr : foldRules compile p rest with
      | mk result steps =>
        rw [hr] at hsteps herror
        cases result <;>
          simp_all [compileRules, tryRules, listSteps, listEvent, RuleCompiler.reached_of_ok h]

/-! ### Trees -/

mutual

theorem compileGroup_steps (compile : RuleCompiler ε α) :
    ∀ g, (compileGroup compile g).steps = g.ruleLists.flatMap (listSteps compile)
  | .mk rules [] c => by
    rw [compileGroup, compileRules_steps, Group.ruleLists, Group.ruleListsAll, List.flatMap_cons,
      List.flatMap_nil, List.append_nil]
  | .mk rules (first :: others) c => by
    have hhead := compileGroup_steps compile first
    have hchildren := compileOnto_steps compile others (compileGroup compile first).predicate
    rw [Group.ruleLists, Group.ruleListsAll, List.flatMap_cons, List.flatMap_append, ← hhead,
      ← hchildren]
    cases rules with
    | nil => rfl
    | cons r rest => rw [← compileRules_steps]; rfl

theorem compileOnto_steps (compile : RuleCompiler ε α) :
    ∀ groups acc, (compileOnto compile acc groups).steps =
      (Group.ruleListsAll groups).flatMap (listSteps compile)
  | [], acc => rfl
  | g :: rest, acc => by
    rw [compileOnto, Group.ruleListsAll, List.flatMap_append]
    rw [compileGroup_steps compile g, compileOnto_steps compile rest]

end

/-- The steps of a filter: its announcement, and then those of every rule list in pre-order. -/
theorem compileGroups_steps {compile : RuleCompiler ε α} {groups : List Group} {c : Compiled ε α}
    (h : compileGroups compile groups = .ok c) :
    c.steps = .event (.filterBegun groups.length (Group.depthAll groups) (Group.ruleCountAll groups)) ::
      (Group.ruleListsAll groups).flatMap (listSteps compile) := by
  cases groups with
  | nil => cases h
  | cons first rest =>
    cases h
    rw [Group.ruleListsAll, List.flatMap_append, ← compileGroup_steps, ← compileOnto_steps]
    rfl

/-! ### Tried rules and log -/

theorem triedRules_append (s t : List Step) : triedRules (s ++ t) = triedRules s ++ triedRules t :=
  List.filterMap_append

theorem events_append (s t : List Step) : events (s ++ t) = events s ++ events t :=
  List.filterMap_append

theorem triedRules_map_tried (rules : List Rule) : triedRules (rules.map .tried) = rules := by
  rw [triedRules, List.filterMap_map]
  exact List.filterMap_some

theorem events_map_tried (rules : List Rule) : events (rules.map .tried) = [] := by
  rw [events, List.filterMap_map]
  exact List.filterMap_eq_nil_iff.2 fun _ _ => rfl

theorem triedRules_listSteps (compile : RuleCompiler ε α) (rules : List Rule) :
    triedRules (listSteps compile rules) = compile.reached rules := by
  cases rules with
  | nil => rfl
  | cons r rest =>
    rw [listSteps, List.isEmpty_cons, if_neg Bool.false_ne_true, triedRules_append, triedRules_map_tried]
    exact List.append_nil _

theorem events_listSteps (compile : RuleCompiler ε α) (rules : List Rule) :
    events (listSteps compile rules) = if rules.isEmpty then [] else [listEvent compile rules] := by
  cases rules with
  | nil => rfl
  | cons r rest =>
    rw [listSteps, List.isEmpty_cons, if_neg Bool.false_ne_true, events_append, events_map_tried]
    rfl

theorem triedRules_flatMap (compile : RuleCompiler ε α) (lists : List (List Rule)) :
    triedRules (lists.flatMap (listSteps compile)) = lists.flatMap compile.reached := by
  induction lists with
  | nil => rfl
  | cons rules rest ih =>
    rw [List.flatMap_cons, triedRules_append, triedRules_listSteps, ih, List.flatMap_cons]

theorem flatMap_reached {compile : RuleCompiler ε α} {lists : List (List Rule)}
    (h : ∀ rules ∈ lists, ∀ r ∈ rules, compile.compiles r = true) :
    lists.flatMap compile.reached = lists.flatten := by
  induction lists with
  | nil => rfl
  | cons rules rest ih =>
    rw [List.forall_mem_cons] at h
    rw [List.flatMap_cons, List.flatten_cons, RuleCompiler.reached_eq_self h.1, ih h.2]

theorem events_flatMap (compile : RuleCompiler ε α) (lists : List (List Rule)) :
    events (lists.flatMap (listSteps compile)) =
      (lists.filter fun rules => !rules.isEmpty).map (listEvent compile) := by
  induction lists with
  | nil => rfl
  | cons rules rest ih =>
    rw [List.flatMap_cons, events_append, events_listSteps, ih]
    cases rules <;> rfl

/-- The line that the log gets for a rule list that is not empty. -/
def listEntry (compile : RuleCompiler ε α) (rules : List Rule) : LogEntry :=
  match compile.firstError? rules with
  | none => ⟨.trace, "compiled rule list", [("rule_count", .count rules.length)]⟩
  | some e =>
    ⟨.warn, "rule list failed to compile, it will match nothing",
      [("error", .text e.message), ("rule_count", .count rules.length),
        ("rules", .text (displayRules rules))]⟩

theorem entry_listEvent (compile : RuleCompiler ε α) (rules : List Rule) :
    (listEvent compile rules).entry = listEntry compile rules := by
  unfold listEvent listEntry
  cases compile.firstError? rules <;> rfl

theorem triedRules_compileGroups {compile : RuleCompiler ε α} {groups : List Group} {c : Compiled ε α}
    (h : compileGroups compile groups = .ok c) :
    triedRules c.steps = (Group.ruleListsAll groups).flatMap compile.reached := by
  rw [compileGroups_steps h]
  exact triedRules_flatMap compile _

/-- The log of a filter: its size, and a line for every rule list that is not empty. -/
theorem entries_compileGroups {compile : RuleCompiler ε α} {groups : List Group} {c : Compiled ε α}
    (h : compileGroups compile groups = .ok c) :
    (events c.steps).map CompileEvent.entry =
      (CompileEvent.filterBegun groups.length (Group.depthAll groups) (Group.ruleCountAll groups)).entry ::
        ((Group.ruleListsAll groups).filter fun rules => !rules.isEmpty).map (listEntry compile) := by
  have hevents : events c.steps =
      .filterBegun groups.length (Group.depthAll groups) (Group.ruleCountAll groups) ::
        ((Group.ruleListsAll groups).filter fun rules => !rules.isEmpty).map (listEvent compile) := by
    rw [compileGroups_steps h, ← events_flatMap]
    rfl
  have hentries : CompileEvent.entry ∘ listEvent compile = listEntry compile :=
    funext (entry_listEvent compile)
  rw [hevents, List.map_cons, List.map_map, hentries]

/-- Compiling a filter tries every rule list in pre-order up to its first failure, so that a filter
without failures tries all its rules, each once. The log opens with the size of the filter and has one
line for every rule list that is not empty, which names the error that the list fails with. -/
theorem compileGroups_log (compile : RuleCompiler ε α) (first : Group) (rest : List Group) :
    let groups := first :: rest
    let lists := Group.ruleListsAll groups
    ∃ c, compileGroups compile groups = .ok c ∧
      triedRules c.steps = lists.flatMap compile.reached ∧
      ((∀ rules ∈ lists, ∀ r ∈ rules, compile.compiles r = true) →
        (triedRules c.steps).length = (groups.map Group.ruleCount).foldr (· + ·) 0) ∧
      (events c.steps).map CompileEvent.entry =
        ⟨.debug, "compiling filter", [("group_count", .count groups.length),
          ("depth", .count ((groups.map Group.depth).foldr max 0)),
          ("rule_count", .count ((groups.map Group.ruleCount).foldr (· + ·) 0))]⟩ ::
        (lists.filter fun rules => !rules.isEmpty).map (listEntry compile) ∧
      ∀ rules e, (tryRules compile rules).1 = .error e ↔ compile.firstError? rules = some e := by
  intro groups lists
  obtain ⟨c, hc⟩ : ∃ c, compileGroups compile groups = .ok c := ⟨_, rfl⟩
  have htried : triedRules c.steps = lists.flatMap compile.reached := triedRules_compileGroups hc
  refine ⟨c, hc, htried, fun hall => ?_, ?_, tryRules_error_iff compile⟩
  · rw [htried, flatMap_reached hall, Group.length_ruleListsAll, Group.ruleCountAll_eq]
  · rw [entries_compileGroups hc, Group.depthAll_eq, Group.ruleCountAll_eq]
    rfl

/-- Two rules of a group and one of its child are tried once each. -/
theorem compileGroups_log_nested :
    let compile : RuleCompiler String Nat := fun r => .ok (.leaf r.field fun n => n = 0)
    let age : Rule := ⟨"age", .isNull, .null, .and⟩
    let name : Rule := ⟨"name", .isNull, .null, .or⟩
    let group : Group := .mk [age, name] [.mk [age] [] .or] .and
    (∀ rules ∈ Group.ruleListsAll [group], ∀ r ∈ rules, compile.compiles r = true) ∧
      ∃ c, compileGroups compile [group] = .ok c ∧ (triedRules c.steps).length = 3 := by
  intro compile age name group
  have hall : ∀ rules ∈ Group.ruleListsAll [group], ∀ r ∈ rules, compile.compiles r = true :=
    fun _ _ _ _ => rfl
  obtain ⟨c, hc, _, hcount, _⟩ := compileGroups_log compile group []
  exact ⟨hall, c, hc, hcount hall⟩

end RuleTree
