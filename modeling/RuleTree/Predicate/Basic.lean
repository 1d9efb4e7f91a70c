import RuleTree.Connective

/-! Predicates: tests of an entity that say which leaf tests they called, in order. -/

namespace RuleTree

/-- The outcome of a test, with the labels of the leaf tests called for it. -/
structure Verdict (ε : Type) where
  holds : Bool
  calls : List ε
deriving DecidableEq, Repr

/-- A test of entities of type `α` whose leaves have labels of type `ε`. -/
structure Predicate (ε α : Type) where
  test : α → Verdict ε

namespace Predicate

variable {ε α β : Type}

/-- A leaf that records its label whenever it is called. -/
def leaf (label : ε) (f : α → Bool) : Predicate ε α := ⟨fun x => ⟨f x, [label]⟩⟩

/-- A test that calls no recorded leaf. -/
def ofBool (f : α → Bool) : Predicate ε α := ⟨fun x => ⟨f x, []⟩⟩

/-- A test that looks at nothing. -/
def always (b : Bool) : Predicate ε α := ⟨fun _ => ⟨b, []⟩⟩

/-- Calls the right side only where the left one fails. -/
def or (p q : Predicate ε α) : Predicate ε α :=
  ⟨fun x =>
    let v := p.test x
    if v.holds then v
    else
      let w := q.test x
      ⟨w.holds, v.calls ++ w.calls⟩⟩

/-- Calls the right side only where the left one holds. -/
def and (p q : Predicate ε α) : Predicate ε α :=
  ⟨fun x =>
    let v := p.test x
    if v.holds then
      let w := q.test x
      ⟨w.holds, v.calls ++ w.calls⟩
    else v⟩

def not (p : Predicate ε α) : Predicate ε α :=
  ⟨fun x =>
    let v := p.test x
    ⟨!v.holds, v.calls⟩⟩

/-- Joins two tests by a connective. -/
def join (c : Connective) (p q : Predicate ε α) : Predicate ε α :=
  match c with
  | .and => p.and q
  | .or => p.or q

/-- Tests what `f` makes of an entity. -/
def comap (f : β → α) (p : Predicate ε α) : Predicate ε β := ⟨fun x => p.test (f x)⟩

end Predicate

end RuleTree
