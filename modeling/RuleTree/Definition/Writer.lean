import RuleTree.Group
import RuleTree.Json.Writer

/-! The JSON form of rules and groups: members in a fixed order, and a timestamp as its milliseconds. -/

namespace RuleTree

open Json

mutual

def Operand.json : Operand → String
  | .null => "null"
  | .flag b => if b then "true" else "false"
  | .number n => writeNumber n
  | .text s => writeText s
  | .list items => writeArray (Operand.jsonItems items)
  | .timestamp t => toString t.millis.toInt

def Operand.jsonItems : List Operand → List String
  | [] => []
  | o :: rest => o.json :: Operand.jsonItems rest

end

def Operator.json (op : Operator) : String := writeText op.name

def Connective.json (c : Connective) : String := writeText c.name

def Rule.json (r : Rule) : String :=
  writeObject [("field", writeText r.field), ("operator", r.operator.json),
    ("value", r.operand.json), ("logical_operation", r.connective.json)]

mutual

def Group.json : Group → String
  | .mk rules groups connective =>
    writeObject [("rules", writeArray (rules.map Rule.json)),
      ("groups", writeArray (Group.jsonAll groups)), ("logical_operation", connective.json)]

def Group.jsonAll : List Group → List String
  | [] => []
  | g :: rest => g.json :: Group.jsonAll rest

end

end RuleTree
