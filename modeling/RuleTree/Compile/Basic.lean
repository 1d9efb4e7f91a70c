import RuleTree.Compile.Event
import RuleTree.Contract
import RuleTree.Predicate.Basic

/-! Compiling rule trees. Siblings fold from left to right, each joined by its own connective to what
stands before it. A list with a rule that does not compile matches nothing, and only that list. -/

namespace RuleTree

/-- Compiles one leaf rule. -/
abbrev RuleCompiler (ε α : Type) := Rule → Except RuleError (Predicate ε α)

/-- A step of a compilation: a rule handed to the rule compiler, or an event. -/
inductive Step where
  | tried (r : Rule)
  | event (e : CompileEvent)

/-- A predicate with the steps that made it. -/
structure Compiled (ε α : Type) where
  predicate : Predicate ε α
  steps : List Step

/-- The rules that were handed to the rule compiler, in order. -/
def triedRules (steps : List Step) : List Rule :=
  steps.filterMap fun
    | .tried r => some r
    | .event _ => none

def events (steps : List Step) : List CompileEvent :=
  steps.filterMap fun
    | .tried _ => none
    | .event e => some e

variable {ε α : Type}

/-- Joins further rules onto `acc`, up to the first one that does not compile. -/
def foldRules (compile : RuleCompiler ε α) (acc : Predicate ε α) :
    List Rule → Except RuleError (Predicate ε α) × List Step
  | [] => (.ok acc, [])
  | r :: rest =>
    match compile r with
    | .error e => (.error e, [.tried r])
    | .ok p =>
      let (result, steps) := foldRules compile (acc.join r.connective p) rest
      (result, .tried r :: steps)

/-- Compiles a rule list, or gives the first error. The empty list matches everything. -/
def tryRules (compile : RuleCompiler ε α) (rules : List Rule) :
    Except RuleError (Predicate ε α) × List Step :=
  match rules with
  | [] => (.ok (.always true), [])
  | first :: rest =>
    match compile first with
    | .error e => (.error e, [.tried first])
    | .ok p =>
      match foldRules compile p rest with
      | (.ok p, steps) => (.ok p, .tried first :: steps ++ [.event (.listCompiled rules.length)])
      | (.error e, steps) => (.error e, .tried first :: steps)

/-- Compiles a rule list; one that fails matches nothing. -/
def compileRules (compile : RuleCompiler ε α) (rules : List Rule) : Compiled ε α :=
  match tryRules compile rules with
  | (.ok p, steps) => ⟨p, steps⟩
  | (.error e, steps) => ⟨.always false, steps ++ [.event (.listFailed e rules)]⟩

mutual

/-- Compiles a group: its own rules, joined to its children by the connective of the first child. A group
with children and no rules is its children alone. -/
def compileGroup (compile : RuleCompiler ε α) : Group → Compiled ε α
  | .mk rules groups _ =>
    match groups with
    | [] => compileRules compile rules
    | first :: others =>
      let head := compileGroup compile first
      let children := compileOnto compile head.predicate others
      let steps := head.steps ++ children.steps
      if rules.isEmpty then ⟨children.predicate, steps⟩
      else
        let own := compileRules compile rules
        ⟨own.predicate.join first.connective children.predicate, own.steps ++ steps⟩

/-- Joins further groups onto `acc`. -/
def compileOnto (compile : RuleCompiler ε α) (acc : Predicate ε α) : List Group → Compiled ε α
  | [] => ⟨acc, []⟩
  | g :: rest =>
    let next := compileGroup compile g
    let whole := compileOnto compile (acc.join g.connective next.predicate) rest
    ⟨whole.predicate, next.steps ++ whole.steps⟩

end

/-- Compiles a filter, which has at least one group. -/
def compileGroups (compile : RuleCompiler ε α) (groups : List Group) :
    Except Violation (Compiled ε α) :=
  match groups with
  | [] => .error .noGroups
  | first :: rest =>
    let head := compileGroup compile first
    let whole := compileOnto compile head.predicate rest
    let begun := .filterBegun groups.length (Group.depthAll groups) (Group.ruleCountAll groups)
    .ok ⟨whole.predicate, .event begun :: head.steps ++ whole.steps⟩

end RuleTree
