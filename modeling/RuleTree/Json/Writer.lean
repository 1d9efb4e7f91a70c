import RuleTree.Json.Document

/-! Writing JSON, on one line or indented by two spaces. -/

namespace RuleTree.Json

/-- One character inside a JSON text: quotes, backslashes and controls are escaped. -/
def escapedChar (c : Char) : List Char :=
  if c = '"' then ['\\', '"']
  else if c = '\\' then ['\\', '\\']
  else if c = '\x08' then ['\\', 'b']
  else if c = '\x0c' then ['\\', 'f']
  else if c = '\n' then ['\\', 'n']
  else if c = '\r' then ['\\', 'r']
  else if c = '\t' then ['\\', 't']
  else if c.toNat < 32 then
    ['\\', 'u', '0', '0', Nat.digitChar (c.toNat / 16), Nat.digitChar (c.toNat % 16)]
  else [c]

def writeText (s : String) : String :=
  String.ofList ('"' :: s.toList.flatMap escapedChar ++ ['"'])

/-- A number; the values that JSON cannot write are null. -/
def writeNumber : Number → String
  | .real x => if x.isFinite then x.write .json else "null"
  | n => n.display

/-- The member of an object on one line. -/
def writeMember (key value : String) : String := writeText key ++ ":" ++ value

def writeObject (members : List (String × String)) : String :=
  "\x7b" ++ ",".intercalate (members.map fun (k, v) => writeMember k v) ++ "\x7d"

def writeArray (items : List String) : String := "[" ++ ",".intercalate items ++ "]"

/-- Written items in brackets, each on a line of its own at the given depth. -/
def layOut (opening closing : String) (depth : Nat) (items : List String) : String :=
  let indent := fun (n : Nat) => String.ofList (List.replicate (2 * n) ' ')
  match items with
  | [] => opening ++ closing
  | _ =>
    opening ++ "\n" ++ indent (depth + 1) ++ (",\n" ++ indent (depth + 1)).intercalate items ++ "\n" ++
      indent depth ++ closing

namespace Document

mutual

/-- The document on one line. -/
def write : Document → String
  | null => "null"
  | flag b => if b then "true" else "false"
  | number n => writeNumber n
  | text s => writeText s
  | array items => writeArray (writeItems items)
  | object members => writeObject (writeMembers members)

def writeItems : List Document → List String
  | [] => []
  | d :: rest => write d :: writeItems rest

def writeMembers : List (String × Document) → List (String × String)
  | [] => []
  | (k, d) :: rest => (k, write d) :: writeMembers rest

end

mutual

/-- The document over several lines, nested parts indented. -/
def writePretty (depth : Nat) : Document → String
  | array items => layOut "[" "]" depth (prettyItems (depth + 1) items)
  | object members => layOut "\x7b" "\x7d" depth (prettyMembers (depth + 1) members)
  | d => d.write

def prettyItems (depth : Nat) : List Document → List String
  | [] => []
  | d :: rest => writePretty depth d :: prettyItems depth rest

def prettyMembers (depth : Nat) : List (String × Document) → List String
  | [] => []
  | (k, d) :: rest => (writeText k ++ ": " ++ writePretty depth d) :: prettyMembers depth rest

end

end Document

end RuleTree.Json
