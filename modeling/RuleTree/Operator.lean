import RuleTree.Text.Blank

/-! The operators of leaf rules: their names, the operand each expects, and the fields each applies to. -/

namespace RuleTree

inductive Operator where
  | equal
  | notEqual
  | greater
  | greaterOrEqual
  | less
  | lessOrEqual
  | between
  | notBetween
  | memberOf
  | notMemberOf
  | beginsWith
  | notBeginsWith
  | endsWith
  | notEndsWith
  | contains
  | notContains
  | regex
  | before
  | after
  | isNull
  | isNotNull
  | isEmpty
  | isNotEmpty
deriving DecidableEq, Repr, Inhabited

/-- The operand that an operator expects: none, one scalar, a list of candidates, or two bounds. -/
inductive Arity where
  | nullary
  | unary
  | set
  | range
deriving DecidableEq, Repr

namespace Operator

/-- Every operator, in the order of their declaration. -/
def all : List Operator :=
  [equal, notEqual, greater, greaterOrEqual, less, lessOrEqual, between, notBetween, memberOf,
    notMemberOf, beginsWith, notBeginsWith, endsWith, notEndsWith, contains, notContains, regex,
    before, after, isNull, isNotNull, isEmpty, isNotEmpty]

def name : Operator → String
  | equal => "equal"
  | notEqual => "not_equal"
  | greater => "greater"
  | greaterOrEqual => "greater_or_equal"
  | less => "less"
  | lessOrEqual => "less_or_equal"
  | between => "between"
  | notBetween => "not_between"
  | memberOf => "in"
  | notMemberOf => "not_in"
  | beginsWith => "begins_with"
  | notBeginsWith => "not_begins_with"
  | endsWith => "ends_with"
  | notEndsWith => "not_ends_with"
  | contains => "contains"
  | notContains => "not_contains"
  | regex => "regex"
  | before => "before"
  | after => "after"
  | isNull => "is_null"
  | isNotNull => "is_not_null"
  | isEmpty => "is_empty"
  | isNotEmpty => "is_not_empty"

/-- Further spellings that are read as the operator. -/
def aliases : Operator → List String
  | equal => ["eq", "=", "=="]
  | notEqual => ["ne", "!=", "<>"]
  | greater => ["gt", ">"]
  | greaterOrEqual => ["gte", ">="]
  | less => ["lt", "<"]
  | lessOrEqual => ["lte", "<="]
  | beginsWith => ["startswith", "starts_with"]
  | notBeginsWith => ["not_starts_with"]
  | endsWith => ["endswith"]
  | regex => ["matches"]
  | _ => []

/-- Reads an operator, whatever its case and the blanks around it. -/
def parse? (s : String) : Option Operator :=
  all.find? fun op => (op.name :: op.aliases).contains (keyword s)

def arity : Operator → Arity
  | isNull | isNotNull | isEmpty | isNotEmpty => .nullary
  | memberOf | notMemberOf => .set
  | between | notBetween => .range
  | _ => .unary

/-- Operators that only look at whether a field is there. -/
def presence (op : Operator) : Bool := op.arity == .nullary

/-- Operators that need a text operand. -/
def textOnly : Operator → Bool
  | beginsWith | notBeginsWith | endsWith | notEndsWith | contains | notContains | regex => true
  | _ => false

/-- Operators that order the field against the operand. -/
def ordering : Operator → Bool
  | greater | greaterOrEqual | less | lessOrEqual | before | after => true
  | _ => false

def onBool (op : Operator) : Bool :=
  op.presence || match op with
    | equal | notEqual => true
    | _ => false

def onEnum (op : Operator) : Bool :=
  op.onBool || match op with
    | memberOf | notMemberOf => true
    | _ => false

def onText (op : Operator) : Bool := op.textOnly || op.onEnum

def onNumber (op : Operator) : Bool :=
  op.onEnum || match op with
    | greater | greaterOrEqual | less | lessOrEqual | between | notBetween => true
    | _ => false

def onTimestamp (op : Operator) : Bool :=
  op.onNumber || match op with
    | before | after => true
    | _ => false

/-- Does a field pass that stands in the given order to the operand? Operators that do not order never
pass. -/
def passes (op : Operator) (o : Ordering) : Bool :=
  match op with
  | equal => o.isEq
  | notEqual => o.isNe
  | greater | after => o.isGT
  | greaterOrEqual => o.isGE
  | less | before => o.isLT
  | lessOrEqual => o.isLE
  | _ => false

end Operator

end RuleTree
