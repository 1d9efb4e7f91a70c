import RuleTree.Number
import RuleTree.Text.Quoted

/-! What can be wrong with a JSON text, or with the values in it, and how it is reported. -/

namespace RuleTree.Json

/-- A place in a text: the line, counted from one, and how many bytes of that line come before it. -/
structure Place where
  line : Nat
  column : Nat
deriving DecidableEq, Repr, Inhabited

/-- A place, where the value at hand comes from a text. -/
abbrev Mark := Option Place

/-- A value that was met where another kind was expected. -/
inductive Found where
  | null
  | flag (b : Bool)
  | number (n : Number)
  | text (s : String)
  | sequence
  | map
deriving DecidableEq

inductive Cause where
  | endInList
  | endInObject
  | endInText
  | endInValue
  | expectedColon
  | expectedListCommaOrEnd
  | expectedObjectCommaOrEnd
  | expectedWord
  | expectedValue
  | invalidEscape
  | invalidNumber
  | numberOutOfRange
  | controlCharacter
  | keyMustBeText
  | loneSurrogate
  | trailingComma
  | trailingCharacters
  | unexpectedEndOfEscape
  | nestingLimit
  | wrongKind (found : Found) (expected : String)
  | wrongValue (found : Found) (expected : String)
  | wrongLength (length : Nat) (expected : String)
  | noMatch (type : String)
  | unknownVariant (name : String) (known : List String)
  | missingField (name : String)
  | duplicateField (name : String)
  | unknownOperator (name : String)
  | unknownConnective (name : String)
deriving DecidableEq

namespace Found

def describe : Found → String
  | null => "null"
  | flag b => "boolean `" ++ (if b then "true" else "false") ++ "`"
  | number (.real x) => "floating point `" ++ x.write .json ++ "`"
  | number n => "integer `" ++ n.display ++ "`"
  | text s => "string " ++ quoted s
  | sequence => "sequence"
  | map => "map"

end Found

/-- Names as alternatives, each in backticks. -/
def alternatives (names : List String) : String :=
  let shown := names.map fun n => "`" ++ n ++ "`"
  match shown with
  | [] => "there are no variants"
  | [a] => "expected " ++ a
  | [a, b] => "expected " ++ a ++ " or " ++ b
  | _ => "expected one of " ++ ", ".intercalate shown

namespace Cause

def message : Cause → String
  | endInList => "EOF while parsing a list"
  | endInObject => "EOF while parsing an object"
  | endInText => "EOF while parsing a string"
  | endInValue => "EOF while parsing a value"
  | expectedColon => "expected `:`"
  | expectedListCommaOrEnd => "expected `,` or `]`"
  | expectedObjectCommaOrEnd => "expected `,` or `\x7d`"
  | expectedWord => "expected ident"
  | expectedValue => "expected value"
  | invalidEscape => "invalid escape"
  | invalidNumber => "invalid number"
  | numberOutOfRange => "number out of range"
  | controlCharacter => "control character (\\u0000-\\u001F) found while parsing a string"
  | keyMustBeText => "key must be a string"
  | loneSurrogate => "lone leading surrogate in hex escape"
  | trailingComma => "trailing comma"
  | trailingCharacters => "trailing characters"
  | unexpectedEndOfEscape => "unexpected end of hex escape"
  | nestingLimit => "recursion limit exceeded"
  | wrongKind found expected => "invalid type: " ++ found.describe ++ ", expected " ++ expected
  | wrongValue found expected => "invalid value: " ++ found.describe ++ ", expected " ++ expected
  | wrongLength length expected => "invalid length " ++ toString length ++ ", expected " ++ expected
  | noMatch type => "data did not match any variant of untagged enum " ++ type
  | unknownVariant name known => "unknown variant `" ++ name ++ "`, " ++ alternatives known
  | missingField name => "missing field `" ++ name ++ "`"
  | duplicateField name => "duplicate field `" ++ name ++ "`"
  | unknownOperator name => "unknown operator '" ++ name ++ "'"
  | unknownConnective name => "unknown logical operation '" ++ name ++ "'"

end Cause

structure Fault where
  cause : Cause
  place : Mark
deriving DecidableEq

namespace Fault

/-- A fault of the data, which takes its place from the value around it. -/
def unplaced (cause : Cause) : Fault := ⟨cause, none⟩

/-- The fault with a place, unless it has one. -/
def placed (m : Mark) (f : Fault) : Fault := { f with place := f.place.or m }

def message (f : Fault) : String :=
  match f.place with
  | none => f.cause.message
  | some p => f.cause.message ++ " at line " ++ toString p.line ++ " column " ++ toString p.column

end Fault

/-- Places a fault that has no place yet. -/
def placeAt {α : Type} (m : Mark) (r : Except Fault α) : Except Fault α := r.mapError (Fault.placed m)

end RuleTree.Json
