import RuleTree.Timestamp

/-! What a field of an entity holds when a rule is tested against it. -/

namespace RuleTree

inductive FieldValue where
  | text (s : String)
  | number (n : Number)
  | timestamp (t : Timestamp)
  | choice (index : UInt32)
  | flag (b : Bool)
  | missing
deriving DecidableEq, Inhabited

namespace FieldValue

def isMissing : FieldValue → Bool
  | missing => true
  | _ => false

/-- Missing fields and empty texts are empty; zero and false are not. -/
def isEmpty : FieldValue → Bool
  | missing => true
  | text s => s.isEmpty
  | _ => false

def text? : FieldValue → Option String
  | text s => some s
  | _ => none

def number? : FieldValue → Option Number
  | number n => some n
  | _ => none

def flag? : FieldValue → Option Bool
  | flag b => some b
  | _ => none

/-- The number that a field compares as: timestamps count milliseconds, and a choice is its index. -/
def numeric? : FieldValue → Option Number
  | number n => some n
  | timestamp t => some t.toNumber
  | choice i => some (.unsigned i.toUInt64)
  | _ => none

def kindName : FieldValue → String
  | text _ => "string"
  | number _ => "number"
  | timestamp _ => "timestamp"
  | choice _ => "enum"
  | flag _ => "bool"
  | missing => "null"

/-- Sameness of kind and value, under which no NaN is the same as itself. -/
def same : FieldValue → FieldValue → Bool
  | text a, text b => a == b
  | number a, number b => a.same b
  | timestamp a, timestamp b => a == b
  | choice a, choice b => a == b
  | flag a, flag b => a == b
  | missing, missing => true
  | _, _ => false

end FieldValue

end RuleTree
