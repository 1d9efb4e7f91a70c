/-! What can be wrong with a pattern, and how it is reported: the pattern again, with the place marked
by carets. -/

namespace RuleTree.Pattern

/-- A place in a pattern. Lines and columns count from one, columns in characters. -/
structure Position where
  offset : Nat := 0
  line : Nat := 1
  column : Nat := 1
deriving DecidableEq, Repr, Inhabited

namespace Position

/-- The place behind a character. -/
def after (p : Position) (c : Char) : Position :=
  if c = '\n' then ⟨p.offset + 1, p.line + 1, 1⟩ else ⟨p.offset + 1, p.line, p.column + 1⟩

end Position

structure Span where
  start : Position
  stop : Position
deriving DecidableEq, Repr, Inhabited

namespace Span

def point (p : Position) : Span := ⟨p, p⟩

def oneLine (s : Span) : Bool := s.start.line == s.stop.line

end Span

inductive Cause where
  | classEscapeInvalid
  | classRangeInvalid
  | classRangeLiteral
  | classUnclosed
  | decimalEmpty
  | decimalInvalid
  | escapeHexEmpty
  | escapeHexInvalid
  | escapeHexInvalidDigit
  | escapeUnexpectedEnd
  | escapeUnrecognized
  | flagDanglingNegation
  | flagDuplicate (first : Span)
  | flagRepeatedNegation (first : Span)
  | flagUnexpectedEnd
  | flagUnrecognized
  | groupNameDuplicate (first : Span)
  | groupNameEmpty
  | groupNameInvalid
  | groupNameUnexpectedEnd
  | groupUnclosed
  | groupUnopened
  | nestLimitExceeded (limit : Nat)
  | repetitionCountInvalid
  | repetitionCountDecimalEmpty
  | repetitionCountUnclosed
  | repetitionMissing
  | wordBoundaryUnclosed
  | wordBoundaryUnrecognized
  | wordBoundaryUnexpectedEnd
  | unicodeClassInvalid
  | backreference
  | lookAround
  | unicodeNotAllowed
  | invalidText
  | propertyNotFound
  | propertyValueNotFound
deriving DecidableEq, Repr, Inhabited

namespace Cause

def message : Cause → String
  | classEscapeInvalid => "invalid escape sequence found in character class"
  | classRangeInvalid => "invalid character class range, the start must be <= the end"
  | classRangeLiteral => "invalid range boundary, must be a literal"
  | classUnclosed => "unclosed character class"
  | decimalEmpty => "decimal literal empty"
  | decimalInvalid => "decimal literal invalid"
  | escapeHexEmpty => "hexadecimal literal empty"
  | escapeHexInvalid => "hexadecimal literal is not a Unicode scalar value"
  | escapeHexInvalidDigit => "invalid hexadecimal digit"
  | escapeUnexpectedEnd => "incomplete escape sequence, reached end of pattern prematurely"
  | escapeUnrecognized => "unrecognized escape sequence"
  | flagDanglingNegation => "dangling flag negation operator"
  | flagDuplicate _ => "duplicate flag"
  | flagRepeatedNegation _ => "flag negation operator repeated"
  | flagUnexpectedEnd => "expected flag but got end of regex"
  | flagUnrecognized => "unrecognized flag"
  | groupNameDuplicate _ => "duplicate capture group name"
  | groupNameEmpty => "empty capture group name"
  | groupNameInvalid => "invalid capture group character"
  | groupNameUnexpectedEnd => "unclosed capture group name"
  | groupUnclosed => "unclosed group"
  | groupUnopened => "unopened group"
  | nestLimitExceeded limit =>
    "exceed the maximum number of nested parentheses/brackets (" ++ toString limit ++ ")"
  | repetitionCountInvalid => "invalid repetition count range, the start must be <= the end"
  | repetitionCountDecimalEmpty => "repetition quantifier expects a valid decimal"
  | repetitionCountUnclosed => "unclosed counted repetition"
  | repetitionMissing => "repetition operator missing expression"
  | wordBoundaryUnclosed =>
    "special word boundary assertion is either unclosed or contains an invalid character"
  | wordBoundaryUnrecognized =>
    "unrecognized special word boundary assertion, valid choices are: start, end, start-half or end-half"
  | wordBoundaryUnexpectedEnd =>
    "found either the beginning of a special word boundary or a bounded repetition on a \\b with an opening brace, but no closing brace"
  | unicodeClassInvalid => "invalid Unicode character class"
  | backreference => "backreferences are not supported"
  | lookAround => "look-around, including look-ahead and look-behind, is not supported"
  | unicodeNotAllowed => "Unicode not allowed here"
  | invalidText => "pattern can match invalid UTF-8"
  | propertyNotFound => "Unicode property not found"
  | propertyValueNotFound => "Unicode property value not found"

/-- The place of an earlier definition that the cause refers to. -/
def first? : Cause → Option Span
  | flagDuplicate s | flagRepeatedNegation s | groupNameDuplicate s => some s
  | _ => none

end Cause

/-- A fault with the place it was found at. -/
structure Fault where
  cause : Cause
  span : Span
deriving DecidableEq, Repr, Inhabited

/-- The lines of a text; a line break at the end opens no further line, and a carriage return before a
line break is not part of the line. -/
def linesOf (s : String) : List (List Char) :=
  let parts := s.toList.splitOn '\n'
  let parts := match parts.reverse with
    | [] :: before => before.reverse
    | _ => parts
  let closed := s.toList.getLast? == some '\n'
  parts.mapIdx fun i line =>
    if (closed || i + 1 < parts.length) && line.getLast? == some '\r' then line.dropLast else line

/-- Carets under the given spans of one line, which are in order. -/
def carets (spans : List Span) : List Char :=
  (spans.foldl (fun (marks : List Char) s =>
    let padding := s.start.column - 1 - marks.length
    let width := max 1 (s.stop.column - s.start.column)
    marks ++ List.replicate padding ' ' ++ List.replicate width '^') [])

namespace Fault

/-- The spans to mark, in order. -/
def spans (f : Fault) : List Span :=
  match f.cause.first? with
  | none => [f.span]
  | some s => if s.start.offset ≤ f.span.start.offset then [s, f.span] else [f.span, s]

/-- The lines of the pattern with carets below those that hold a whole span. A `width` of zero indents
by four, any other writes line numbers of that width. -/
def annotate (f : Fault) (lines : List (List Char)) (width : Nat) : List (List Char) :=
  (lines.mapIdx fun i line =>
    let number := (toString (i + 1)).toList
    let margin :=
      if width = 0 then List.replicate 4 ' '
      else List.replicate (width - number.length) ' ' ++ number ++ [':', ' ']
    let marked := f.spans.filter fun s => s.oneLine && s.start.line == i + 1
    if marked.isEmpty then [margin ++ line]
    else [margin ++ line, List.replicate (if width = 0 then 4 else 2 + width) ' ' ++ carets marked]).flatten

/-- The report: the pattern, the marks, and the message. Over several lines the pattern is framed, and
a span that crosses lines is described in words. -/
def report (f : Fault) (pattern : String) : String :=
  let lines := linesOf pattern
  let several := pattern.toList.contains '\n'
  let count := lines.length + (if pattern.toList.getLast? = some '\n' then 1 else 0)
  let width := if count ≤ 1 then 0 else (toString count).length
  let body := String.join ((f.annotate lines width).map fun l => String.ofList l ++ "\n")
  if several then
    let divider := String.ofList (List.replicate 79 '~') ++ "\n"
    let notes := (f.spans.filter fun s => !s.oneLine).map fun s =>
      "on line " ++ toString s.start.line ++ " (column " ++ toString s.start.column ++ ") through line " ++
        toString s.stop.line ++ " (column " ++ toString (s.stop.column - 1) ++ ")"
    let notes := if notes.isEmpty then "" else "\n".intercalate notes ++ "\n"
    "regex parse error:\n" ++ divider ++ body ++ divider ++ notes ++ "error: " ++ f.cause.message
  else "regex parse error:\n" ++ body ++ "error: " ++ f.cause.message

end Fault

/-- Why a pattern is refused. -/
inductive Refusal where
  | malformed (f : Fault)
  | tooLarge (limit : Nat)
deriving DecidableEq, Repr

/-- The words for a refused pattern. -/
def Refusal.message (pattern : String) : Refusal → String
  | malformed f => f.report pattern
  | tooLarge limit => "Compiled regex exceeds size limit of " ++ toString limit ++ " bytes."

end RuleTree.Pattern
