import RuleTree.FieldValue
import RuleTree.Json.Document

/-! Reading a field of a document by its path. A key of the document that is the whole path comes first;
otherwise the path is split at its points, and numbers count items of arrays. -/

namespace RuleTree.Json

/-- Reads a count below 2 ^ 64: digits, which a plus may precede. -/
def parseCount? (s : List Char) : Option Nat :=
  let digits := match s with
    | '+' :: rest => rest
    | _ => s
  if digits.isEmpty || !digits.all Char.isDigit then none
  else
    let n := digits.foldl (fun n c => 10 * n + (c.toNat - '0'.toNat)) 0
    if n < UInt64.size then some n else none

namespace Document

/-- The value of a document as a field; arrays and objects are none. -/
def leaf : Document → FieldValue
  | text s => .text s
  | flag b => .flag b
  | number n => .number n
  | _ => .missing

/-- The part of a document that one segment of a path names. -/
def child? (d : Document) (segment : String) : Option Document :=
  match d with
  | object members => members.lookup segment
  | array items => (parseCount? segment.toList).bind (items[·]?)
  | _ => none

/-- The part of a document at the end of a path. -/
def follow? (d : Document) : List String → Option Document
  | [] => some d
  | segment :: rest => (d.child? segment).bind (follow? · rest)

/-- The segments of a path. -/
def segments (path : String) : List String := (path.toList.splitOn '.').map String.ofList

/-- The field of a document at a path; missing where nothing is there. -/
def field (d : Document) (path : String) : FieldValue :=
  let whole := match d with
    | object members => members.lookup path
    | _ => none
  match whole.or (d.follow? (segments path)) with
  | some part => part.leaf
  | none => .missing

end Document

end RuleTree.Json
