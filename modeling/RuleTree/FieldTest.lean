import RuleTree.FieldValue
import RuleTree.Rule.Basic
import RuleTree.Rule.Error
import RuleTree.Text.Search

/-! Field tests: a rule's operator with its operand checked and prepared. Which texts are patterns, and what they
match, is left to whoever prepares the tests. -/

namespace RuleTree

/-- What a text matches as a pattern, or why it is none. -/
abbrev Patterns := String → Except String (String → Bool)

/-- A single operand. -/
inductive Scalar where
  | text (s : String)
  | number (n : Number)
  | flag (b : Bool)
deriving DecidableEq

namespace Scalar

def kindName : Scalar → String
  | text _ => "string"
  | number _ => "number"
  | flag _ => "bool"

/-- The operand as a scalar; a timestamp counts milliseconds. -/
def ofOperand : Operand → Except RuleError Scalar
  | .text s => .ok (text s)
  | .flag b => .ok (flag b)
  | .number n => .ok (number n)
  | .timestamp t => .ok (number t.toNumber)
  | o => .error (.wrongOperand "a scalar value" o.kindName)

/-- Can the field be compared with the scalar at all? -/
def comparable (s : Scalar) (v : FieldValue) : Bool :=
  match s with
  | text _ => v.text?.isSome
  | number _ => v.numeric?.isSome
  | flag _ => v.flag?.isSome

def equals (s : Scalar) (v : FieldValue) : Bool :=
  match s with
  | text t => v.text? == some t
  | flag b => v.flag? == some b
  | number n => match v.numeric? with
    | some m => m.compare n == some .eq
    | none => false

end Scalar

/-- A prepared operand. -/
inductive Prepared where
  | nothing
  | scalar (s : Scalar)
  | pattern (isMatch : String → Bool)
  | set (members : List Scalar)
  | range (low high : Number)

structure FieldTest where
  operator : Operator
  operand : Prepared

namespace FieldTest

/-- Prepares the operand of a unary operator. -/
def unary (patterns : Patterns) (op : Operator) (o : Operand) : Except RuleError Prepared := do
  let s ← Scalar.ofOperand o
  if op.textOnly then
    match s with
    | .text t =>
      if op = .regex then
        match patterns t with
        | .ok isMatch => return .pattern isMatch
        | .error why => throw (.invalidPattern why)
      else return .scalar (.text t)
    | s => throw (.wrongOperator op s.kindName)
  else if op.ordering then
    match s with
    | .number n => return .scalar (.number n)
    | s => throw (.wrongOperator op s.kindName)
  else return .scalar s

/-- Prepares the operand of a set operator; a scalar stands for the list of itself. -/
def setOf : Operand → Except RuleError Prepared
  | .list items => do return .set (← items.mapM Scalar.ofOperand)
  | .null => .error (.wrongOperand "a list" "null")
  | o => do return .set [← Scalar.ofOperand o]

/-- Prepares the bounds of a range operator. -/
def rangeOf (op : Operator) : Operand → Except RuleError Prepared
  | .list [low, high] =>
    match low.number?, high.number? with
    | some l, some h => .ok (.range l h)
    | none, _ => .error (.wrongOperand "number" low.kindName)
    | _, none => .error (.wrongOperand "number" high.kindName)
  | .list items => .error (.wrongRange op items.length)
  | o => .error (.wrongOperand "a list of two numbers" o.kindName)

/-- Checks the operand of a rule against its operator. -/
def ofRule (patterns : Patterns) (r : Rule) : Except RuleError FieldTest := do
  let operand ← match r.operator.arity with
    | .nullary => pure .nothing
    | .unary => unary patterns r.operator r.operand
    | .set => setOf r.operand
    | .range => rangeOf r.operator r.operand
  return { operator := r.operator, operand }

/-- The scalars that the operand is made of. -/
def scalars (t : FieldTest) : List Scalar :=
  match t.operand with
  | .scalar s => [s]
  | .set members => members
  | _ => []

/-- Tests a text against a text operand. -/
def passesText (op : Operator) (field operand : String) : Bool :=
  match op with
  | .equal => field == operand
  | .notEqual => field != operand
  | .beginsWith => beginsWith field operand
  | .notBeginsWith => !beginsWith field operand
  | .endsWith => endsWith field operand
  | .notEndsWith => !endsWith field operand
  | .contains => containsText field operand
  | .notContains => !containsText field operand
  | _ => false

/-- Tests a number against a bound or an expected number; no order, no match. -/
def passesNumber (op : Operator) (field operand : Number) : Bool :=
  match field.compare operand with
  | some o => op.passes o
  | none => false

/-- Tests a field against a scalar; a field of another kind never passes. -/
def passesScalar (op : Operator) (s : Scalar) (v : FieldValue) : Bool :=
  match s with
  | .text t => match v.text? with
    | some field => passesText op field t
    | none => false
  | .number n => match v.numeric? with
    | some field => passesNumber op field n
    | none => false
  | .flag b => match v.flag? with
    | some field =>
      match op with
      | .equal => field == b
      | .notEqual => field != b
      | _ => false
    | none => false

/-- Tests a field against a set. A field that no member can be compared with never passes, but the
empty set says nothing about kinds. -/
def passesSet (op : Operator) (members : List Scalar) (v : FieldValue) : Bool :=
  if !members.isEmpty && !members.any (·.comparable v) then false
  else
    let hit := members.any (·.equals v)
    if op = .memberOf then hit else !hit

/-- Tests a field against a range, both ends included. A NaN is neither inside nor outside. -/
def passesRange (op : Operator) (low high : Number) (v : FieldValue) : Bool :=
  match v.numeric? with
  | none => false
  | some n =>
    let inside := match n.compare low, n.compare high with
      | some l, some h => l.isGE && h.isLE
      | _, _ => false
    if op = .between then inside else !inside && (n.compare low).isSome

/-- Tests a field. A missing field passes only the operators that ask for its absence. -/
def passes (t : FieldTest) (v : FieldValue) : Bool :=
  match t.operator with
  | .isNull => v.isMissing
  | .isNotNull => !v.isMissing
  | .isEmpty => v.isEmpty
  | .isNotEmpty => !v.isEmpty
  | op =>
    if v.isMissing then false
    else match t.operand with
      | .nothing => false
      | .scalar s => passesScalar op s v
      | .pattern isMatch => match v.text? with
        | some field => isMatch field
        | none => false
      | .set members => passesSet op members v
      | .range low high => passesRange op low high v

end FieldTest

end RuleTree
