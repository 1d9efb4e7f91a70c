import RuleTree.Json.Fault

/-! Reading positions in a JSON text. Columns count bytes, so a character is as wide as its UTF-8 form. -/

namespace RuleTree.Json

/-- What is left of a text, and the place it begins at. -/
structure Cursor where
  rest : List Char
  line : Nat := 1
  column : Nat := 0
deriving Inhabited

namespace Cursor

def ofText (s : String) : Cursor := { rest := s.toList }

def place (c : Cursor) : Place := ⟨c.line, c.column⟩

/-- The place behind the next byte, which is where a byte that was looked at is blamed. -/
def peekPlace (c : Cursor) : Place :=
  match c.rest with
  | [] => c.place
  | ch :: _ => if ch = '\n' then ⟨c.line + 1, 0⟩ else ⟨c.line, c.column + 1⟩

/-- Behind the next character. -/
def next (c : Cursor) : Cursor :=
  match c.rest with
  | [] => c
  | ch :: rest =>
    if ch = '\n' then ⟨rest, c.line + 1, 0⟩ else ⟨rest, c.line, c.column + ch.utf8Size⟩

/-- The characters that JSON allows between its parts. -/
def isSpace (c : Char) : Bool := c = ' ' || c = '\n' || c = '\t' || c = '\r'

/-- Behind the characters from the front for which `ok` holds. -/
def skipWhile (ok : Char → Bool) (rest : List Char) (line column : Nat) : Cursor :=
  match rest with
  | [] => ⟨[], line, column⟩
  | ch :: more =>
    if ok ch then
      if ch = '\n' then skipWhile ok more (line + 1) 0
      else skipWhile ok more line (column + ch.utf8Size)
    else ⟨ch :: more, line, column⟩

def skipSpace (c : Cursor) : Cursor := skipWhile isSpace c.rest c.line c.column

def skipDigits (c : Cursor) : Cursor := skipWhile Char.isDigit c.rest c.line c.column

/-- The digits at the front. -/
def digits (c : Cursor) : List Char := c.rest.takeWhile Char.isDigit

/-- The place so many bytes further on; it may lie inside a character. -/
def placeAfter (c : Cursor) : Nat → Place := go c.rest c.line c.column
where
  go : List Char → Nat → Nat → Nat → Place
    | [], line, column, _ => ⟨line, column⟩
    | ch :: rest, line, column, bytes =>
      if bytes < ch.utf8Size then ⟨line, column + bytes⟩
      else if ch = '\n' then go rest (line + 1) 0 (bytes - 1)
      else go rest line (column + ch.utf8Size) (bytes - ch.utf8Size)

/-- How many bytes are left. -/
def bytes (c : Cursor) : Nat := c.rest.foldr (fun ch n => ch.utf8Size + n) 0

/-- A fault at the cursor. -/
def fault (c : Cursor) (cause : Cause) : Fault := ⟨cause, some c.place⟩

/-- A fault at the byte behind the cursor. -/
def peekFault (c : Cursor) (cause : Cause) : Fault := ⟨cause, some c.peekPlace⟩

end Cursor

end RuleTree.Json
