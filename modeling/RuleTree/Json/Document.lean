import RuleTree.Number

/-! JSON documents. An object is a list of members in ascending order of their keys, each key once. -/

namespace RuleTree.Json

inductive Document where
  | null
  | flag (b : Bool)
  | number (n : Number)
  | text (s : String)
  | array (items : List Document)
  | object (members : List (String × Document))
deriving Inhabited

/-- Puts a member at its place among ascending keys; a member of the same key gives way. -/
def insertMember {α : Type} (key : String) (value : α) : List (String × α) → List (String × α)
  | [] => [(key, value)]
  | (k, v) :: rest =>
    if key < k then (key, value) :: (k, v) :: rest
    else if key = k then (key, value) :: rest
    else (k, v) :: insertMember key value rest

/-- Members put one after the other, so that the last of a key stays. -/
def ofMembers {α : Type} (members : List (String × α)) : List (String × α) :=
  members.foldl (fun sorted m => insertMember m.1 m.2 sorted) []

namespace Document

/-- The kind of a document with its article. -/
def kindName : Document → String
  | null => "null"
  | flag _ => "a boolean"
  | number _ => "a number"
  | text _ => "a string"
  | array _ => "an array"
  | object _ => "an object"

end Document

end RuleTree.Json
