import RuleTree.Pattern.Expr
import RuleTree.Pattern.Property

/-! From the syntax of a pattern to what it matches. Flags set inside a group hold up to its end, across
its alternatives. -/

namespace RuleTree.Pattern

/-- The flags in force. -/
structure Modes where
  caseInsensitive : Bool := false
  multiLine : Bool := false
  dotMatchesNewline : Bool := false
  unicode : Bool := true
  carriageReturn : Bool := false

namespace Modes

def apply (m : Modes) (items : FlagItems) : Modes :=
  { caseInsensitive := (flagState? items .caseInsensitive).getD m.caseInsensitive
    multiLine := (flagState? items .multiLine).getD m.multiLine
    dotMatchesNewline := (flagState? items .dotMatchesNewline).getD m.dotMatchesNewline
    unicode := (flagState? items .unicode).getD m.unicode
    carriageReturn := (flagState? items .carriageReturn).getD m.carriageReturn }

end Modes

/-- Adds the other cases of the letters from A to Z. -/
def foldAscii (s : CodeRanges) : CodeRanges :=
  let upper := s.inter ⟨[(65, 90)]⟩
  let lower := s.inter ⟨[(97, 122)]⟩
  .unionAll [s, ⟨upper.ranges.map fun (a, b) => (a + 32, b + 32)⟩,
    ⟨lower.ranges.map fun (a, b) => (a - 32, b - 32)⟩]

/-- Adds the other cases of the members, where case does not matter. Without Unicode only the letters
from A to Z have another case. -/
def foldWhere (m : Modes) (s : CodeRanges) : CodeRanges :=
  if !m.caseInsensitive then s else if m.unicode then s.foldCase else foldAscii s

/-- Folds and negates a class. Without Unicode a class is a set of bytes, and one that holds more than
ASCII could match a part of a character. -/
def finishClass (m : Modes) (span : Span) (negated : Bool) (s : CodeRanges) :
    Except Fault CodeRanges :=
  let s := foldWhere m s
  let s := if negated then s.complement else s
  if m.unicode || s.isAscii then .ok s else .error ⟨.invalidText, span⟩

def propertyClass (m : Modes) (span : Span) (negated : Bool) (q : Query) :
    Except Fault CodeRanges :=
  if !m.unicode then .error ⟨.unicodeNotAllowed, span⟩
  else match q.codes? with
    | .error cause => .error ⟨cause, span⟩
    | .ok s => finishClass m span (negated != q.differs) s

def blankCodes : CodeRanges := Unicode.codesOf Unicode.properties ["wspace"]

def digitCodes : CodeRanges := Unicode.codesOf Unicode.categories ["nd"]

/-- The set of a shorthand class. It holds its letters in every case already. -/
def shorthandClass (m : Modes) (span : Span) (negated : Bool) (k : Shorthand) :
    Except Fault CodeRanges :=
  let s := match k with
    | .digit => if m.unicode then digitCodes else ⟨[(48, 57)]⟩
    | .space => if m.unicode then blankCodes else ⟨[(9, 13), (32, 32)]⟩
    | .word => if m.unicode then wordCodes else asciiWordCodes
  let s := if negated then s.complement else s
  if m.unicode || s.isAscii then .ok s else .error ⟨.invalidText, span⟩

/-- The code point of a literal. Without Unicode, two hexadecimal digits write a byte, and a byte above
127 is only a part of a character. -/
def literalCode (m : Modes) (l : Literal) : Except Fault Nat :=
  if !m.unicode && l.byte && 127 < l.char.toNat then .error ⟨.invalidText, l.span⟩
  else .ok l.char.toNat

/-- The code point of a literal inside a class. -/
def classCode (m : Modes) (l : Literal) : Except Fault Nat := do
  let code ← literalCode m l
  if !m.unicode && 127 < code then throw ⟨.unicodeNotAllowed, l.span⟩
  return code

mutual

def ClassItem.codes (m : Modes) : ClassItem → Except Fault CodeRanges
  | .empty _ => .ok .empty
  | .literal l => return .single (← classCode m l)
  | .range _ first last => do
    let low ← classCode m first
    let high ← classCode m last
    return ⟨[(low, high)]⟩
  | .posix span negated ranges => finishClass m span negated ⟨ranges⟩
  | .property span negated q => propertyClass m span negated q
  | .shorthand span negated k => shorthandClass m span negated k
  | .bracketed span negated set => do finishClass m span negated (← set.codes m)
  | .union _ items => ClassItem.allCodes m items

def ClassItem.allCodes (m : Modes) : List ClassItem → Except Fault CodeRanges
  | [] => .ok .empty
  | i :: rest => do return (← i.codes m).union (← ClassItem.allCodes m rest)

def ClassSet.codes (m : Modes) : ClassSet → Except Fault CodeRanges
  | .item i => i.codes m
  | .op _ kind left right => do
    let left := foldWhere m (← left.codes m)
    let right := foldWhere m (← right.codes m)
    return match kind with
      | .inter => left.inter right
      | .diff => left.diff right
      | .symmDiff => left.symmDiff right

end

def Assertion.look (m : Modes) : Assertion → Look
  | .startLine => if m.multiLine then if m.carriageReturn then .lineStartCr else .lineStart else .textStart
  | .endLine => if m.multiLine then if m.carriageReturn then .lineEndCr else .lineEnd else .textEnd
  | .startText => .textStart
  | .endText => .textEnd
  | .wordBoundary => .wordBoundary m.unicode
  | .notWordBoundary => .notWordBoundary m.unicode
  | .wordStart => .wordStart m.unicode
  | .wordEnd => .wordEnd m.unicode
  | .wordStartHalf => .wordStartHalf m.unicode
  | .wordEndHalf => .wordEndHalf m.unicode

/-- The set of the dot. -/
def dotCodes (m : Modes) : CodeRanges :=
  if m.dotMatchesNewline then .all
  else if m.carriageReturn then (⟨[(10, 10), (13, 13)]⟩ : CodeRanges).complement
  else (CodeRanges.single 10).complement

/-- A literal with its other cases, where case does not matter. -/
def literalCodes (m : Modes) (code : Nat) : CodeRanges :=
  if !m.unicode && 127 < code then .single code else foldWhere m (.single code)

mutual

/-- What a part of a pattern matches, and the flags in force behind it. -/
def Syntax.meaning (m : Modes) : Syntax → Except Fault (Expr × Modes)
  | .empty _ => .ok (.empty, m)
  | .flags _ items => .ok (.empty, m.apply items)
  | .literal l => do return (.set (literalCodes m (← literalCode m l)), m)
  | .dot span => if m.unicode then .ok (.set (dotCodes m), m) else .error ⟨.invalidText, span⟩
  | .assertion _ kind => .ok (.look (kind.look m), m)
  | .property span negated q => do return (.set (← propertyClass m span negated q), m)
  | .shorthand span negated k => do return (.set (← shorthandClass m span negated k), m)
  | .bracketed span negated set => do return (.set (← finishClass m span negated (← set.codes m)), m)
  | .repetition _ least most body => do
    let (e, m') ← body.meaning m
    return (.repetition least most e, m')
  | .group _ kind body => do
    match kind with
    | .capture => do
      let (e, _) ← body.meaning m
      return (.capture e, m)
    | .plain items => do
      let (e, _) ← body.meaning (m.apply items)
      return (e, m)
  | .concat _ parts => Syntax.concatMeaning m parts
  | .alternation _ branches => Syntax.eitherMeaning m branches

def Syntax.concatMeaning (m : Modes) : List Syntax → Except Fault (Expr × Modes)
  | [] => .ok (.empty, m)
  | [s] => s.meaning m
  | s :: rest => do
    let (e, m') ← s.meaning m
    let (es, m'') ← Syntax.concatMeaning m' rest
    return (.concat e es, m'')

def Syntax.eitherMeaning (m : Modes) : List Syntax → Except Fault (Expr × Modes)
  | [] => .ok (.empty, m)
  | [s] => s.meaning m
  | s :: rest => do
    let (e, m') ← s.meaning m
    let (es, m'') ← Syntax.eitherMeaning m' rest
    return (.either e es, m'')

end

end RuleTree.Pattern
