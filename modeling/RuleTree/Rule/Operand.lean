import RuleTree.Timestamp
import RuleTree.Text.Quoted

/-! The operand of a rule. -/

namespace RuleTree

inductive Operand where
  | null
  | flag (b : Bool)
  | number (n : Number)
  | text (s : String)
  | list (items : List Operand)
  | timestamp (t : Timestamp)
deriving Inhabited

namespace Operand

def kindName : Operand → String
  | null => "null"
  | flag _ => "bool"
  | number _ => "number"
  | text _ => "string"
  | list _ => "list"
  | timestamp _ => "timestamp"

def isNull : Operand → Bool
  | null => true
  | _ => false

/-- The numeric reading of an operand; a timestamp counts milliseconds. -/
def number? : Operand → Option Number
  | number n => some n
  | timestamp t => some t.toNumber
  | _ => none

def text? : Operand → Option String
  | text s => some s
  | _ => none

mutual

/-- The operand as it is shown to a reader. -/
def display : Operand → String
  | null => "null"
  | flag b => if b then "true" else "false"
  | number n => n.display
  | text s => quoted s
  | timestamp t => "@" ++ toString t.millis.toInt
  | list items => "[" ++ displayItems items ++ "]"

/-- Shown operands with commas between them. -/
def displayItems : List Operand → String
  | [] => ""
  | [item] => display item
  | item :: rest => display item ++ ", " ++ displayItems rest

end

mutual

/-- Sameness of kind and value, under which no NaN is the same as itself. -/
def same : Operand → Operand → Bool
  | null, null => true
  | flag a, flag b => a == b
  | number a, number b => a.same b
  | text a, text b => a == b
  | list xs, list ys => sameItems xs ys
  | timestamp a, timestamp b => a == b
  | _, _ => false

def sameItems : List Operand → List Operand → Bool
  | [], [] => true
  | x :: xs, y :: ys => same x y && sameItems xs ys
  | _, _ => false

end

end Operand

end RuleTree
