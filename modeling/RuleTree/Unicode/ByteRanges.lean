import RuleTree.Unicode.CodeRanges

/-! The UTF-8 forms of a set of code points. A range of code points is cut until the forms of each piece
are all that a sequence of byte ranges describes. -/

namespace RuleTree.Unicode

/-- Bytes from the first to the second. -/
abbrev ByteRange := Nat × Nat

/-- The bytes that write a code point. -/
def utf8Bytes (code : Nat) : List Nat :=
  let continuation := fun n => 0x80 + n % 64
  if code < 0x80 then [code]
  else if code < 0x800 then [0xC0 + code / 64, continuation code]
  else if code < 0x10000 then [0xE0 + code / 64 / 64, continuation (code / 64), continuation code]
  else [0xF0 + code / 64 / 64 / 64, continuation (code / 64 / 64), continuation (code / 64),
    continuation code]

/-- Where a range first has to be cut so that the last bytes of its forms, which take `block` values
together, run through all of them in every piece: behind the given code point. -/
def cutInBlocks (first last block : Nat) : Option Nat :=
  if first / block = last / block then none
  else if first % block ≠ 0 then some (first / block * block + block - 1)
  else if last % block ≠ block - 1 then some (last / block * block - 1)
  else none

/-- Where a range has to be cut, if anywhere. The forms of a piece have the same length. -/
def cut? (first last : Nat) : Option Nat :=
  match [0x7F, 0x7FF, 0xFFFF].find? fun n => first ≤ n ∧ n < last with
  | some n => some n
  | none =>
    if last < 0x80 then none
    else [64, 64 * 64, 64 * 64 * 64].findSome? (cutInBlocks first last)

/-- The pieces of a range, as sequences of byte ranges. Thirty-two cuts are more than any range needs. -/
def byteForms (cuts first last : Nat) : List (List ByteRange) :=
  match cuts, cut? first last with
  | cuts + 1, some n => byteForms cuts first n ++ byteForms cuts (n + 1) last
  | _, _ => [(utf8Bytes first).zip (utf8Bytes last)]

/-- Code points that no text holds. -/
def surrogates : CodeRanges := ⟨[(0xD800, 0xDFFF)]⟩

/-- The UTF-8 forms of a set, in ascending order. -/
def formsOf (s : CodeRanges) : List (List ByteRange) :=
  (s.diff surrogates).ranges.flatMap fun (first, last) => byteForms 32 first last

end RuleTree.Unicode
