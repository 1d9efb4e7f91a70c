import RuleTree.Definition.Reader
import RuleTree.Json.Writer

/-! Schemas: the fields that rules may refer to, with the kind of each. -/

namespace RuleTree

open Json

inductive FieldKind where
  | text
  | number
  | timestamp
  | choice
  | flag
deriving DecidableEq, Repr

namespace FieldKind

/-- Every kind, in the order of their declaration. -/
def all : List FieldKind := [text, number, timestamp, choice, flag]

def name : FieldKind → String
  | text => "string"
  | number => "number"
  | timestamp => "timestamp"
  | choice => "enum"
  | flag => "bool"

def ofName? (s : String) : Option FieldKind := all.find? fun k => k.name = s

/-- Can the operator be applied to fields of this kind? -/
def accepts (k : FieldKind) (op : Operator) : Bool :=
  match k with
  | text => op.onText
  | number => op.onNumber
  | timestamp => op.onTimestamp
  | choice => op.onEnum
  | flag => op.onBool

def ofVariant (name : String) (m : Mark) : Except Fault FieldKind :=
  match ofName? name with
  | some k => .ok k
  | none => .error ⟨.unknownVariant name (all.map FieldKind.name), m⟩

/-- Decodes the content of a kind, which has none: null. -/
def decodeNothing (n : Node) : Except Fault Unit :=
  match n.content with
  | .null => .ok ()
  | _ => n.refuse "unit"

/-- Decodes a kind from an object with the name of the kind as its only key. -/
def decodeObject (lead : Node) (members : Members) : Except Fault FieldKind :=
  match members with
  | .cons _ key _ value tail => do
    let k ← ofVariant key lead.stop
    decodeNothing value
    match tail with
    | .nil _ => return k
    | .bad close f => throw (if f.cause = .endInObject then f else ⟨.expectedValue, close.here⟩)
    | .cons close .. => throw ⟨.expectedValue, close.here⟩
  | .bad _ f =>
    match lead.content with
    | .text s => do
      let _ ← ofVariant s lead.stop
      throw f
    | _ => lead.refuse "variant identifier"
  | .nil _ => lead.refuse "variant identifier"

/-- Decodes a kind from its name. -/
def decode : Node → Except Fault FieldKind
  | .mk start stop content =>
    match content with
    | .text s => ofVariant s stop
    | .object lead members => decodeObject lead members
    | .badText f | .absent f => .error f
    | _ => .error ⟨.expectedValue, start⟩

end FieldKind

/-- Declared fields in ascending order of their names. -/
structure Schema where
  fields : List (String × FieldKind)
deriving DecidableEq

namespace Schema

def empty : Schema := ⟨[]⟩

/-- Declares a field; an earlier declaration of the name gives way. -/
def declare (s : Schema) (name : String) (kind : FieldKind) : Schema :=
  ⟨insertMember name kind s.fields⟩

def kind? (s : Schema) (name : String) : Option FieldKind := s.fields.lookup name

def size (s : Schema) : Nat := s.fields.length

def isEmpty (s : Schema) : Bool := s.fields.isEmpty

def decodeMembers : Members → Except Fault (List (String × FieldKind))
  | .nil _ => .ok []
  | .bad _ f => .error f
  | .cons _ key _ value tail => do
    let k ← placeAt tail.close.stop (FieldKind.decode value)
    return (key, k) :: (← decodeMembers tail)

/-- Decodes a schema. -/
def decode (n : Node) : Except Fault Schema :=
  match n.content with
  | .object _ members => do return ⟨ofMembers (← decodeMembers members)⟩
  | _ => n.refuse "a map"

/-- Reads a schema from a text. -/
def parse (text : String) : Except DefinitionError Schema := (decodeText decode text).mapError .json

def json (s : Schema) : String :=
  writeObject (s.fields.map fun (name, kind) => (name, writeText kind.name))

end Schema

end RuleTree
