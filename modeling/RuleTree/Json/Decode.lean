import RuleTree.Json.Node

/-! Decoding nodes. A fault of the data that has no place of its own gets one from the value around it. -/

namespace RuleTree.Json

/-- Refuses the kind of a node; a fault of the text comes first. -/
def Node.refuse {α : Type} (expected : String) : Node → Except Fault α
  | .mk _ stop content =>
    match content with
    | .badText f | .absent f | .bad f => .error f
    | .null => .error ⟨.wrongKind .null expected, stop⟩
    | .flag b => .error ⟨.wrongKind (.flag b) expected, stop⟩
    | .number n => .error ⟨.wrongKind (.number n) expected, stop⟩
    | .text s => .error ⟨.wrongKind (.text s) expected, stop⟩
    | .array _ => .error ⟨.wrongKind .sequence expected, stop⟩
    | .object .. => .error ⟨.wrongKind .map expected, stop⟩

/-- Decodes a text. -/
def Node.text (n : Node) : Except Fault String :=
  match n.content with
  | .text s => .ok s
  | _ => n.refuse "a string"

mutual

/-- Decodes a document. -/
def Node.document : Node → Except Fault Document
  | .mk _ _ content => content.document

def Content.document : Content → Except Fault Document
  | .null => .ok .null
  | .flag b => .ok (.flag b)
  | .number n => .ok (.number n)
  | .text s => .ok (.text s)
  | .array items => do return .array (← items.documents)
  | .object _ members => do return .object (ofMembers (← members.documents))
  | .badText f | .absent f | .bad f => .error f

def Items.documents : Items → Except Fault (List Document)
  | .nil _ => .ok []
  | .bad _ f => .error f
  | .cons _ head tail => do
    let d ← head.document
    return d :: (← tail.documents)

def Members.documents : Members → Except Fault (List (String × Document))
  | .nil _ => .ok []
  | .bad _ f => .error f
  | .cons _ key _ value tail => do
    let d ← value.document
    return (key, d) :: (← tail.documents)

end

/-- Reads the document that a text holds. -/
def Document.parse (text : String) : Except Fault Document := decodeText Node.document text

end RuleTree.Json
