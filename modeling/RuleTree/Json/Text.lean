import RuleTree.Json.Cursor

/-! Reading JSON texts: what stands between two double quotes. -/

namespace RuleTree.Json

/-- The value of a hexadecimal digit. -/
def hexValue? (c : Char) : Option Nat :=
  if '0' ≤ c ∧ c ≤ '9' then some (c.toNat - '0'.toNat)
  else if 'a' ≤ c ∧ c ≤ 'f' then some (c.toNat - 'a'.toNat + 10)
  else if 'A' ≤ c ∧ c ≤ 'F' then some (c.toNat - 'A'.toNat + 10)
  else none

/-- Reads four hexadecimal digits. -/
def readHex (c : Cursor) : Except Fault (Nat × Cursor) :=
  if c.bytes < 4 then .error ⟨.endInText, some (c.placeAfter c.bytes)⟩
  else match c.rest with
    | h₁ :: h₂ :: h₃ :: h₄ :: _ =>
      match hexValue? h₁, hexValue? h₂, hexValue? h₃, hexValue? h₄ with
      | some v₁, some v₂, some v₃, some v₄ =>
        .ok (((v₁ * 16 + v₂) * 16 + v₃) * 16 + v₄, c.next.next.next.next)
      | _, _, _, _ => .error ⟨.invalidEscape, some (c.placeAfter 4)⟩
    | _ => .error ⟨.invalidEscape, some (c.placeAfter 4)⟩

/-- Steps over `ch`, which continues a pair of escapes. -/
def expectPaired (ch : Char) (c : Cursor) : Except Fault Cursor :=
  match c.rest with
  | [] => .error (c.fault .endInText)
  | found :: _ => if found = ch then .ok c.next else .error (c.peekFault .unexpectedEndOfEscape)

/-- Reads a character written as one hexadecimal escape or as a pair of surrogates; `c` is behind the
letter. -/
def readUnicodeEscape (c : Cursor) : Except Fault (Char × Cursor) := do
  let (n, c) ← readHex c
  if 0xDC00 ≤ n && n ≤ 0xDFFF then throw (c.fault .loneSurrogate)
  else if n < 0xD800 || 0xDBFF < n then return (.ofNat n, c)
  else
    let c ← expectPaired '\\' c
    let c ← expectPaired 'u' c
    let (m, c) ← readHex c
    if m < 0xDC00 || 0xDFFF < m then throw (c.fault .loneSurrogate)
    else return (.ofNat (0x10000 + (n - 0xD800) * 0x400 + (m - 0xDC00)), c)

/-- What a one-letter escape stands for. -/
def simpleEscape? : Char → Option Char
  | '"' => some '"'
  | '\\' => some '\\'
  | '/' => some '/'
  | 'b' => some '\x08'
  | 'f' => some '\x0c'
  | 'n' => some '\n'
  | 'r' => some '\r'
  | 't' => some '\t'
  | _ => none

/-- Reads the characters up to the closing quote. -/
def readChars : Nat → Cursor → List Char → Except Fault (String × Cursor)
  | 0, c, _ => .error (c.fault .endInText)
  | fuel + 1, c, acc =>
    match c.rest with
    | [] => .error (c.fault .endInText)
    | '"' :: _ => .ok (String.ofList acc.reverse, c.next)
    | '\\' :: escape =>
      let c := c.next
      match escape with
      | [] => .error (c.fault .endInText)
      | 'u' :: _ => do
        let (ch, c) ← readUnicodeEscape c.next
        readChars fuel c (ch :: acc)
      | e :: _ =>
        match simpleEscape? e with
        | some ch => readChars fuel c.next (ch :: acc)
        | none => .error (c.peekFault .invalidEscape)
    | ch :: _ =>
      if ch.toNat < 32 then .error (c.peekFault .controlCharacter)
      else readChars fuel c.next (ch :: acc)

/-- Reads a text; `c` is behind its opening quote. -/
def readText (c : Cursor) : Except Fault (String × Cursor) := readChars (c.rest.length + 1) c []

/-- Passes over the characters up to the closing quote. Surrogates need not be paired here. -/
def skipChars : Nat → Cursor → Except Fault Cursor
  | 0, c => .error (c.fault .endInText)
  | fuel + 1, c =>
    match c.rest with
    | [] => .error (c.fault .endInText)
    | '"' :: _ => .ok c.next
    | '\\' :: escape =>
      let c := c.next
      match escape with
      | [] => .error (c.fault .endInText)
      | 'u' :: _ => do
        let (_, c) ← readHex c.next
        skipChars fuel c
      | e :: _ =>
        if (simpleEscape? e).isSome then skipChars fuel c.next
        else .error (c.peekFault .invalidEscape)
    | ch :: _ =>
      if ch.toNat < 32 then .error (c.fault .controlCharacter) else skipChars fuel c.next

def skipText (c : Cursor) : Except Fault Cursor := skipChars (c.rest.length + 1) c

end RuleTree.Json
