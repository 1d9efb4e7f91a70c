import RuleTree.Group
import RuleTree.Json.Decode

/-! Reading rules and groups. An object gives its members by name, in any order and under any of their
names; a list gives them in the order in which they are written. Members with a default may be left out. -/

namespace RuleTree

open Json

/-- Decodes an operator from its name or an alias. -/
def Operator.decode (n : Node) : Except Fault Operator := do
  let s ← n.text
  match Operator.parse? s with
  | some op => return op
  | none => throw (.unplaced (.unknownOperator s))

def Connective.decode (n : Node) : Except Fault Connective := do
  let s ← n.text
  match Connective.parse? s with
  | some c => return c
  | none => throw (.unplaced (.unknownConnective s))

/-- Decodes a number. -/
def Number.decode (n : Node) : Except Fault Number := do
  match ← n.document with
  | .number n => return n
  | _ => throw (.unplaced (.noMatch "Number"))

/-- Decodes a timestamp from whole milliseconds. -/
def Timestamp.decode (n : Node) : Except Fault Timestamp :=
  match n.content with
  | .number (.signed i) => .ok ⟨i⟩
  | .number (.unsigned i) => .error ⟨.wrongValue (.number (.unsigned i)) "i64", n.stop⟩
  | _ => n.refuse "i64"

mutual

/-- A document as an operand; objects are none. -/
def Operand.ofDocument? : Document → Option Operand
  | .null => some .null
  | .flag b => some (.flag b)
  | .number n => some (.number n)
  | .text s => some (.text s)
  | .array items => (Operand.ofDocuments? items).map .list
  | .object _ => none

def Operand.ofDocuments? : List Document → Option (List Operand)
  | [] => some []
  | d :: rest => do
    let o ← Operand.ofDocument? d
    let os ← Operand.ofDocuments? rest
    return o :: os

end

/-- Decodes an operand. -/
def Operand.decode (n : Node) : Except Fault Operand := do
  match Operand.ofDocument? (← n.document) with
  | some o => return o
  | none => throw (.unplaced (.noMatch "RuleValue"))

/-- Reads the next item of a list that stands for a record. Gives nothing when the list has ended. -/
def Json.Items.next? {α : Type} (decode : Node → Except Fault α) :
    Items → Except Fault (Option α × Items)
  | .nil close => .ok (none, .nil close)
  | .bad _ f => .error f
  | .cons _ head tail => do
    let a ← placeAt tail.close.stop (decode head)
    return (some a, tail)

/-- Refuses a list that ended before the member with the given index. -/
def Json.Items.require {α : Type} (items : Items) (index : Nat) (expected : String) :
    Option α → Except Fault α
  | some a => .ok a
  | none => .error ⟨.wrongLength index expected, items.close.stop⟩

/-- Refuses items beyond the last member. -/
def Json.Items.finish (items : Items) : Except Fault Unit :=
  match items with
  | .nil _ => .ok ()
  | _ => match items.close.fault with
    | some f => .error f
    | none => .ok ()

/-- Decodes every item of a list. -/
def Json.Items.decodeAll {α : Type} (decode : Node → Except Fault α) :
    Items → Except Fault (List α)
  | .nil _ => .ok []
  | .bad _ f => .error f
  | .cons _ head tail => do
    let a ← placeAt tail.close.stop (decode head)
    return a :: (← tail.decodeAll decode)

/-- Decodes a list. -/
def Json.Node.list {α : Type} (decode : Node → Except Fault α) (n : Node) : Except Fault (List α) :=
  match n.content with
  | .array items => items.decodeAll decode
  | _ => n.refuse "a sequence"

/-- The members of a rule. -/
inductive RuleMember where
  | field
  | operator
  | operand
  | connective
deriving DecidableEq

namespace RuleMember

def ofKey? : String → Option RuleMember
  | "field" => some field
  | "operator" | "op" => some operator
  | "value" => some operand
  | "logical_operation" | "condition" | "logic" => some connective
  | _ => none

def name : RuleMember → String
  | field => "field"
  | operator => "operator"
  | operand => "value"
  | connective => "logical_operation"

end RuleMember

/-- The members of a rule read so far. -/
structure PartialRule where
  field? : Option String := none
  operator? : Option Operator := none
  operand? : Option Operand := none
  connective? : Option Connective := none

namespace PartialRule

def has (r : PartialRule) : RuleMember → Bool
  | .field => r.field?.isSome
  | .operator => r.operator?.isSome
  | .operand => r.operand?.isSome
  | .connective => r.connective?.isSome

/-- Decodes one member. -/
def put (r : PartialRule) (n : Node) : RuleMember → Except Fault PartialRule
  | .field => do return { r with field? := some (← n.text) }
  | .operator => do return { r with operator? := some (← Operator.decode n) }
  | .operand => do return { r with operand? := some (← Operand.decode n) }
  | .connective => do return { r with connective? := some (← Connective.decode n) }

/-- The rule, if nothing that it needs is missing; `stop` is where its object ends. -/
def toRule (r : PartialRule) (stop : Mark) : Except Fault Rule := do
  let some field := r.field? | throw ⟨.missingField "field", stop⟩
  let some operator := r.operator? | throw ⟨.missingField "operator", stop⟩
  return { field, operator, operand := r.operand?.getD .null, connective := r.connective?.getD .and }

end PartialRule

def Rule.decodeMembers (r : PartialRule) : Members → Except Fault Rule
  | .nil close => r.toRule close.stop
  | .bad _ f => .error f
  | .cons _ key afterKey value tail =>
    match RuleMember.ofKey? key with
    | none => Rule.decodeMembers r tail
    | some m =>
      if r.has m then .error ⟨.duplicateField m.name, afterKey.stop⟩
      else do
        let r ← placeAt tail.close.stop (r.put value m)
        Rule.decodeMembers r tail

def Rule.decodeItems (items : Items) : Except Fault Rule := do
  let expected := "struct Rule with 4 elements"
  let (field, items) ← items.next? Node.text
  let field ← items.require 0 expected field
  let (operator, items) ← items.next? Operator.decode
  let operator ← items.require 1 expected operator
  let (operand, items) ← items.next? Operand.decode
  let (connective, items) ← items.next? Connective.decode
  items.finish
  return { field, operator, operand := operand.getD .null, connective := connective.getD .and }

/-- Decodes a rule. -/
def Rule.decode (n : Node) : Except Fault Rule :=
  match n.content with
  | .array items => Rule.decodeItems items
  | .object _ members => Rule.decodeMembers {} members
  | _ => n.refuse "struct Rule"

/-- The members of a group. -/
inductive GroupMember where
  | rules
  | groups
  | connective
deriving DecidableEq

namespace GroupMember

def ofKey? : String → Option GroupMember
  | "rules" => some rules
  | "groups" | "children" => some groups
  | "logical_operation" | "condition" | "logic" => some connective
  | _ => none

def name : GroupMember → String
  | rules => "rules"
  | groups => "groups"
  | connective => "logical_operation"

end GroupMember

/-- The members of a group read so far. -/
structure PartialGroup where
  rules? : Option (List Rule) := none
  groups? : Option (List Group) := none
  connective? : Option Connective := none

namespace PartialGroup

def has (g : PartialGroup) : GroupMember → Bool
  | .rules => g.rules?.isSome
  | .groups => g.groups?.isSome
  | .connective => g.connective?.isSome

def toGroup (g : PartialGroup) : Group :=
  .mk (g.rules?.getD []) (g.groups?.getD []) (g.connective?.getD .and)

end PartialGroup

mutual

/-- Decodes a group. -/
def Group.decode : Node → Except Fault Group
  | .mk start stop content =>
    match content with
    | .array items => Group.decodeItems items
    | .object _ members => Group.decodeMembers {} members
    | content => (Node.mk start stop content).refuse "struct Group"

/-- Decodes a list of groups. -/
def Group.decodeList : Node → Except Fault (List Group)
  | .mk start stop content =>
    match content with
    | .array items => Group.decodeAll items
    | content => (Node.mk start stop content).refuse "a sequence"

def Group.decodeAll : Items → Except Fault (List Group)
  | .nil _ => .ok []
  | .bad _ f => .error f
  | .cons _ head tail => do
    let g ← placeAt tail.close.stop (Group.decode head)
    return g :: (← Group.decodeAll tail)

/-- A group as a list of its members: rules, groups, connective. -/
def Group.decodeItems : Items → Except Fault Group
  | .nil _ => .ok (.empty .and)
  | .bad _ f => .error f
  | .cons _ first tail => do
    let rules ← placeAt tail.close.stop (first.list Rule.decode)
    match tail with
    | .nil _ => return .mk rules [] .and
    | .bad _ f => throw f
    | .cons _ second tail =>
      let groups ← placeAt tail.close.stop (Group.decodeList second)
      let (connective, tail) ← tail.next? Connective.decode
      tail.finish
      return .mk rules groups (connective.getD .and)

def Group.decodeMembers (g : PartialGroup) : Members → Except Fault Group
  | .nil _ => .ok g.toGroup
  | .bad _ f => .error f
  | .cons _ key afterKey value tail =>
    match GroupMember.ofKey? key with
    | none => Group.decodeMembers g tail
    | some m =>
      if g.has m then .error ⟨.duplicateField m.name, afterKey.stop⟩
      else match m with
        | .rules => do
          let rules ← placeAt tail.close.stop (value.list Rule.decode)
          Group.decodeMembers { g with rules? := some rules } tail
        | .groups => do
          let groups ← placeAt tail.close.stop (Group.decodeList value)
          Group.decodeMembers { g with groups? := some groups } tail
        | .connective => do
          let connective ← placeAt tail.close.stop (Connective.decode value)
          Group.decodeMembers { g with connective? := some connective } tail

end

/-- Why a filter definition or a schema is refused. -/
inductive DefinitionError where
  | json (f : Fault)
  | empty
deriving DecidableEq

def DefinitionError.message : DefinitionError → String
  | json f => "invalid filter definition: " ++ f.message
  | empty => "filter definition contains no groups"

/-- Reads one group from a text. -/
def Group.parse (text : String) : Except DefinitionError Group :=
  (decodeText Group.decode text).mapError .json

/-- Reads the groups that a document describes: a list of groups, or a single one. -/
def Group.ofDocument (d : Document) : Except Fault (List Group) :=
  match d with
  | .array _ => decodeDocument Group.decodeList d
  | _ => (decodeDocument Group.decode d).map fun g => [g]

/-- Reads a filter definition: a list of at least one group, or a single group. -/
def parseGroups (text : String) : Except DefinitionError (List Group) := do
  let d ← (Document.parse text).mapError .json
  let groups ← (Group.ofDocument d).mapError .json
  if groups.isEmpty then throw .empty
  return groups

end RuleTree
