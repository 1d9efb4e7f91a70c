import RuleTree.Pattern.Reader

/-! Single characters of a pattern and escapes. -/

namespace RuleTree.Pattern

open Reader

/-- Characters with a meaning of their own. -/
def isMeta (c : Char) : Bool := "\\.+*?()|[]\x7b\x7d^$#&-~".toList.contains c

/-- Characters that a backslash leaves as they are. -/
def isEscapable (c : Char) : Bool :=
  isMeta c || (c.toNat < 128 && !c.isAlphanum && c != '<' && c != '>')

def isHex (c : Char) : Bool := c.isDigit || ('a' ≤ c && c ≤ 'f') || ('A' ≤ c && c ≤ 'F')

def hexDigit (c : Char) : Nat :=
  if c.isDigit then c.toNat - '0'.toNat
  else if 'a' ≤ c then c.toNat - 'a'.toNat + 10
  else c.toNat - 'A'.toNat + 10

def hexValue (cs : List Char) : Nat := cs.foldl (fun n c => 16 * n + hexDigit c) 0

/-- The character with a code point, if there is one. -/
def charOf? (code : Nat) : Option Char := if code.isValidChar then some (.ofNat code) else none

/-- What one character or one escape stands for. -/
inductive Primitive where
  | literal (l : Literal)
  | assertion (span : Span) (kind : Assertion)
  | dot (span : Span)
  | shorthand (span : Span) (negated : Bool) (kind : Shorthand)
  | property (span : Span) (negated : Bool) (query : Query)

namespace Primitive

def span : Primitive → Span
  | literal l => l.span
  | assertion s _ | dot s | shorthand s .. | property s .. => s

def toSyntax : Primitive → Syntax
  | literal l => .literal l
  | assertion s k => .assertion s k
  | dot s => .dot s
  | shorthand s n k => .shorthand s n k
  | property s n q => .property s n q

def toItem : Primitive → Reader ClassItem
  | literal l => return .literal l
  | shorthand s n k => return .shorthand s n k
  | property s n q => return .property s n q
  | p => fail .classEscapeInvalid p.span

def toLiteral : Primitive → Reader Literal
  | literal l => return l
  | p => fail .classRangeLiteral p.span

end Primitive

/-- The digits of `\x`, `\u` or `\U` without braces. -/
def hexDigits : Nat → List Char → Reader (List Char)
  | 0, acc => return acc.reverse
  | more + 1, acc => do
    if !acc.isEmpty then
      if !(← bumpSkip) then fail .escapeUnexpectedEnd (← pointSpan)
    let c ← current
    if !isHex c then fail .escapeHexInvalidDigit (← charSpan)
    hexDigits more (c :: acc)

/-- The digits between the braces of a hexadecimal escape; reading stands before the first one. -/
def hexBrace : Nat → List Char → Reader (List Char)
  | 0, acc => return acc.reverse
  | fuel + 1, acc => do
    if !(← bumpSkip) then return acc.reverse
    let c ← current
    if c = '\x7d' then return acc.reverse
    if !isHex c then fail .escapeHexInvalidDigit (← charSpan)
    hexBrace fuel (c :: acc)

/-- A hexadecimal escape, from the letter behind the backslash at `start`. -/
def parseHex (start : Position) : Reader Primitive := do
  let count := match ← current with
    | 'x' => 2
    | 'u' => 4
    | _ => 8
  if !(← bumpSkip) then fail .escapeUnexpectedEnd (← pointSpan)
  if (← current) = '\x7b' then
    let brace ← place
    let first := (← charSpan).stop
    let digits ← hexBrace (← budget) []
    if ← atEnd then fail .escapeUnexpectedEnd (← spanFrom brace)
    let stop ← place
    let _ ← bumpSkip
    if digits.isEmpty then fail .escapeHexEmpty (← spanFrom brace)
    match charOf? (hexValue digits) with
    | none => fail .escapeHexInvalid ⟨first, stop⟩
    | some char => return .literal { span := ← spanFrom start, char }
  else
    let first ← place
    let digits ← hexDigits count []
    let _ ← bumpSkip
    let stop ← place
    match charOf? (hexValue digits) with
    | none => fail .escapeHexInvalid ⟨first, stop⟩
    | some char => return .literal { span := ⟨start, stop⟩, char, byte := count = 2 }

/-- Splits at the first place where `word` stands. -/
def cutAt? (word : List Char) : List Char → Option (List Char × List Char)
  | [] => if word.isEmpty then some ([], []) else none
  | c :: rest =>
    if word.isPrefixOf (c :: rest) then some ([], (c :: rest).drop word.length)
    else (cutAt? word rest).map fun (before, behind) => (c :: before, behind)

/-- What stands between the braces of a property class. -/
def queryOf (text : List Char) : Query :=
  match cutAt? ['!', '='] text with
  | some (name, value) => .value (String.ofList name) (String.ofList value) true
  | none =>
    match (cutAt? [':'] text).or (cutAt? ['='] text) with
    | some (name, value) => .value (String.ofList name) (String.ofList value) false
    | none => .name (String.ofList text)

/-- The characters up to the closing brace of a property class; reading stands on the opening one. -/
def braceText : Nat → List Char → Reader (List Char)
  | 0, acc => return acc.reverse
  | fuel + 1, acc => do
    if !(← bumpSkip) then return acc.reverse
    let c ← current
    if c = '\x7d' then return acc.reverse
    braceText fuel (c :: acc)

/-- A property class, from the letter behind the backslash at `start`. -/
def parseProperty (start : Position) : Reader Primitive := do
  let negated := (← current) = 'P'
  if !(← bumpSkip) then fail .escapeUnexpectedEnd (← pointSpan)
  let c ← current
  if c = '\x7b' then
    let text ← braceText (← budget) []
    if ← atEnd then fail .escapeUnexpectedEnd (← pointSpan)
    let _ ← bump
    return .property (← spanFrom start) negated (queryOf text)
  else
    if c = '\\' then fail .unicodeClassInvalid (← charSpan)
    let _ ← bumpSkip
    return .property (← spanFrom start) negated (.letter c)

/-- The braces behind `\b`, if they name a kind of word boundary; otherwise they are left for a
repetition. -/
def parseBoundaryKind? (start : Position) : Reader (Option Assertion) := do
  let before ← get
  let brace ← place
  if !(← bumpSkip) then fail .wordBoundaryUnexpectedEnd (← spanFrom start)
  let contents ← place
  let ok := fun (c : Char) => c.isAlpha || c = '-'
  if !ok (← current) then
    set before
    return none
  let word ← collect ok (← budget) []
  if (← peek?) != some '\x7d' then fail .wordBoundaryUnclosed (← spanFrom brace)
  let stop ← place
  let _ ← bump
  match String.ofList word with
  | "start" => return some .wordStart
  | "end" => return some .wordEnd
  | "start-half" => return some .wordStartHalf
  | "end-half" => return some .wordEndHalf
  | _ => fail .wordBoundaryUnrecognized ⟨contents, stop⟩

/-- An escape; reading stands on the backslash. -/
def parseEscape : Reader Primitive := do
  let start ← place
  if !(← bump) then fail .escapeUnexpectedEnd (← spanFrom start)
  let c ← current
  if c.isDigit then fail .backreference ⟨start, (← charSpan).stop⟩
  if c = 'x' || c = 'u' || c = 'U' then return ← parseHex start
  if c = 'p' || c = 'P' then return ← parseProperty start
  let _ ← bump
  let span ← spanFrom start
  let special := fun (char : Char) => (pure (.literal { span, char }) : Reader Primitive)
  if isMeta c || isEscapable c then return .literal { span, char := c }
  match c with
  | 'd' => return .shorthand span false .digit
  | 'D' => return .shorthand span true .digit
  | 's' => return .shorthand span false .space
  | 'S' => return .shorthand span true .space
  | 'w' => return .shorthand span false .word
  | 'W' => return .shorthand span true .word
  | 'a' => special '\x07'
  | 'f' => special '\x0c'
  | 't' => special '\t'
  | 'n' => special '\n'
  | 'r' => special '\r'
  | 'v' => special '\x0b'
  | 'A' => return .assertion span .startText
  | 'z' => return .assertion span .endText
  | 'b' =>
    if (← peek?) = some '\x7b' then
      match ← parseBoundaryKind? start with
      | some kind => return .assertion (← spanFrom start) kind
      | none => return .assertion span .wordBoundary
    else return .assertion span .wordBoundary
  | 'B' => return .assertion span .notWordBoundary
  | '<' => return .assertion span .wordStart
  | '>' => return .assertion span .wordEnd
  | _ => fail .escapeUnrecognized span

/-- What stands at the place outside a class. -/
def parsePrimitive : Reader Primitive := do
  match ← current with
  | '\\' => parseEscape
  | c =>
    let span ← charSpan
    let _ ← bump
    match c with
    | '.' => return .dot span
    | '^' => return .assertion span .startLine
    | '$' => return .assertion span .endLine
    | _ => return .literal { span, char := c }

end RuleTree.Pattern
