import RuleTree.Contract
import RuleTree.Predicate.Basic

/-! Predicates that can be told apart. Each one made has a serial number of its own; a copy keeps the
number, and joining with an absent side gives back the side that is there. -/

namespace RuleTree

structure Shared (ε α : Type) where
  serial : Nat
  predicate : Predicate ε α

namespace Shared

variable {ε α : Type}

/-- Makes a predicate with the next serial number. -/
def make (p : Predicate ε α) : StateM Nat (Shared ε α) := fun next => (⟨next, p⟩, next + 1)

/-- Are the two the same predicate, not merely equal ones? -/
def isSame (a b : Shared ε α) : Bool := a.serial == b.serial

/-- A copy is the same predicate. -/
def copy (a : Shared ε α) : Shared ε α := a

def not (a : Shared ε α) : StateM Nat (Shared ε α) := make a.predicate.not

def join (c : Connective) (a b : Shared ε α) : StateM Nat (Shared ε α) :=
  make (a.predicate.join c b.predicate)

/-- Joins two predicates of which one may be absent. -/
def joinPresent (c : Connective) :
    Option (Shared ε α) → Option (Shared ε α) → ExceptT Violation (StateM Nat) (Shared ε α)
  | some a, some b => ExceptT.lift (a.join c b)
  | some a, none => pure a
  | none, some b => pure b
  | none, none => throw (.noOperand c)

/-- Joins `next` onto what is there already. -/
def combine (c : Connective) (acc next : Shared ε α) : ExceptT Violation (StateM Nat) (Shared ε α) :=
  joinPresent c (some acc) (some next)

/-- The text that stands for every predicate in diagnostics. -/
def debugText (_ : Shared ε α) : String := "Predicate \x7b .. \x7d"

end Shared

end RuleTree
