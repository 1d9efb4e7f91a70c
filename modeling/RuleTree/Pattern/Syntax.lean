import RuleTree.Pattern.Error

/-! The syntax of patterns as written, each part with its place. -/

namespace RuleTree.Pattern

inductive Flag where
  | caseInsensitive
  | multiLine
  | dotMatchesNewline
  | swapGreed
  | unicode
  | carriageReturn
  | ignoreBlanks
deriving DecidableEq, Repr

/-- One item of a flag group; a negation turns off all flags after it. -/
inductive FlagItem where
  | negation
  | flag (f : Flag)
deriving DecidableEq, Repr

abbrev FlagItems := List (Span × FlagItem)

/-- Is `f` among the items, and does it stand before or behind the negation? -/
def flagStateFrom (negated : Bool) (f : Flag) : FlagItems → Option Bool
  | [] => none
  | (_, .negation) :: rest => flagStateFrom true f rest
  | (_, .flag g) :: rest => if g = f then some (!negated) else flagStateFrom negated f rest

/-- Does the flag group turn `f` on or off? -/
def flagState? (items : FlagItems) (f : Flag) : Option Bool := flagStateFrom false f items

inductive Assertion where
  | startLine
  | endLine
  | startText
  | endText
  | wordBoundary
  | notWordBoundary
  | wordStart
  | wordEnd
  | wordStartHalf
  | wordEndHalf
deriving DecidableEq, Repr

/-- A literal character; `byte` marks one written with two hexadecimal digits. -/
structure Literal where
  span : Span
  char : Char
  byte : Bool := false
deriving DecidableEq, Repr, Inhabited

/-- The classes with a letter of their own: `\d`, `\s` and `\w`. -/
inductive Shorthand where
  | digit
  | space
  | word
deriving DecidableEq, Repr

/-- What a property class asks for. -/
inductive Query where
  | letter (c : Char)
  | name (name : String)
  | value (name value : String) (differs : Bool)
deriving DecidableEq, Repr

inductive SetOp where
  | inter
  | diff
  | symmDiff
deriving DecidableEq, Repr

mutual

/-- A member of a bracketed class. -/
inductive ClassItem where
  | empty (span : Span)
  | literal (l : Literal)
  | range (span : Span) (first last : Literal)
  | posix (span : Span) (negated : Bool) (ranges : List (Nat × Nat))
  | property (span : Span) (negated : Bool) (query : Query)
  | shorthand (span : Span) (negated : Bool) (kind : Shorthand)
  | bracketed (span : Span) (negated : Bool) (set : ClassSet)
  | union (span : Span) (items : List ClassItem)

inductive ClassSet where
  | item (i : ClassItem)
  | op (span : Span) (kind : SetOp) (left right : ClassSet)

end

instance : Inhabited ClassItem := ⟨.empty default⟩
instance : Inhabited ClassSet := ⟨.item default⟩

inductive GroupKind where
  | capture
  | plain (flags : FlagItems)
deriving DecidableEq, Repr

inductive Syntax where
  | empty (span : Span)
  | flags (span : Span) (items : FlagItems)
  | literal (l : Literal)
  | dot (span : Span)
  | assertion (span : Span) (kind : Assertion)
  | property (span : Span) (negated : Bool) (query : Query)
  | shorthand (span : Span) (negated : Bool) (kind : Shorthand)
  | bracketed (span : Span) (negated : Bool) (set : ClassSet)
  | repetition (span : Span) (least : Nat) (most : Option Nat) (body : Syntax)
  | group (span : Span) (kind : GroupKind) (body : Syntax)
  | alternation (span : Span) (branches : List Syntax)
  | concat (span : Span) (parts : List Syntax)

instance : Inhabited Syntax := ⟨.empty default⟩

def ClassItem.span : ClassItem → Span
  | empty s | range s .. | posix s .. | property s .. | shorthand s .. | bracketed s .. | union s _ => s
  | literal l => l.span

def ClassSet.span : ClassSet → Span
  | item i => i.span
  | op s .. => s

def Syntax.span : Syntax → Span
  | empty s | flags s _ | dot s | assertion s _ | property s .. | shorthand s .. | bracketed s ..
  | repetition s .. | group s .. | alternation s _ | concat s _ => s
  | literal l => l.span

end RuleTree.Pattern
