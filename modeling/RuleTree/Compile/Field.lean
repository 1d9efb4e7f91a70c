import RuleTree.Compile.Basic
import RuleTree.FieldTest
import RuleTree.Schema

/-! Compiling rules that test a field of an entity, optionally against a schema. -/

namespace RuleTree

/-- Can a field of this kind be compared with the scalar? -/
def FieldKind.admits : FieldKind → Scalar → Bool
  | .text, .text _ => true
  | .number, .number _ | .timestamp, .number _ | .choice, .number _ => true
  | .flag, .flag _ => true
  | _, _ => false

/-- Checks a test against the declared kind of its field. -/
def Schema.check (s : Schema) (field : String) (t : FieldTest) : Except RuleError Unit :=
  match s.kind? field with
  | none => .error (.unknownField field)
  | some kind =>
    if !kind.accepts t.operator then .error (.wrongOperator t.operator kind.name)
    else match t.scalars.find? fun s => !kind.admits s with
      | some s => .error (.wrongOperand kind.name s.kindName)
      | none => .ok ()

/-- Checks a rule and prepares its test. -/
def prepareRule (patterns : Patterns) (schema : Option Schema) (r : Rule) : Except RuleError FieldTest := do
  if allBlank r.field then throw .emptyField
  let t ← FieldTest.ofRule patterns r
  if let some s := schema then s.check r.field t
  return t

/-- Compiles a rule into a test of the field that `read` finds in an entity. -/
def compileField {ε α : Type} (patterns : Patterns) (read : α → String → FieldValue) (schema : Option Schema) :
    RuleCompiler ε α := fun r => do
  let t ← prepareRule patterns schema r
  return .ofBool fun x => t.passes (read x r.field)

end RuleTree
