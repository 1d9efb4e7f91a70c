import RuleTree.Cli.Arguments
import RuleTree.Cli.Folder
import RuleTree.Compile.Field
import RuleTree.Json.Decode
import RuleTree.Json.Path
import RuleTree.Json.Writer
import RuleTree.Pattern.Basic
import RuleTree.Predicate.Collection

/-! One pass over documents: read the filter, compile it, read the documents, and write those that
match. -/

namespace RuleTree.Cli

open Json

/-- The files that a pass reads. -/
inductive FileRole where
  | filter
  | schema
  | input
deriving DecidableEq, Repr

def FileRole.name : FileRole → String
  | filter => "filter"
  | schema => "schema"
  | input => "input"

/-- Why a pass fails. -/
inductive PassError where
  | unreadable (role : FileRole) (path : String) (why : ReadFailure)
  | unreadableStdin (why : ReadFailure)
  | badFilter (path : String) (why : DefinitionError)
  | badSchema (path : String) (why : DefinitionError)
  | badDocuments (why : Fault)
  | badLine (number : Nat) (why : Fault)
  | notArray (kind : String)
deriving DecidableEq

/-- A refused definition with its cause; a fault of the JSON is named once for the definition and once for
itself. -/
def definitionChain : DefinitionError → String
  | .json f => DefinitionError.message (.json f) ++ ": " ++ f.message
  | e => e.message

def PassError.message : PassError → String
  | unreadable role path why =>
    "failed to read " ++ role.name ++ " file " ++ path ++ ": " ++ why.message
  | unreadableStdin why => "failed to read stdin: " ++ why.message
  | badFilter path why => "failed to parse filter " ++ path ++ ": " ++ definitionChain why
  | badSchema path why => "failed to parse schema " ++ path ++ ": " ++ definitionChain why
  | badDocuments why => "invalid JSON input: " ++ why.message
  | badLine number why => "invalid JSON on line " ++ toString number ++ ": " ++ why.message
  | notArray kind => "expected an array of documents, found " ++ kind

/-- What a pass reports. -/
inductive PassEvent where
  | compile (e : CompileEvent)
  | documentsLoaded (count : Nat) (layout : Layout)
  | filterApplied (matched : Nat)

def PassEvent.entry : PassEvent → LogEntry
  | compile e => e.entry
  | documentsLoaded count layout =>
    ⟨.debug, "documents loaded", [("documents", .count count), ("format", .text layout.name)]⟩
  | filterApplied matched => ⟨.debug, "filter applied", [("matches", .count matched)]⟩

/-- The layout of an input: a bracket in front means an array. -/
def detectLayout (input : String) : Layout :=
  if (trimLeft input.toList).head? = some '[' then .json else .jsonl

/-- The lines of an input. A line ends in a line feed, which a carriage return may precede. -/
def inputLines (input : String) : List String :=
  let pieces := input.toList.splitOn '\n'
  let ended := pieces.dropLast.map fun line =>
    if line.getLast? = some '\r' then line.dropLast else line
  let unended := match pieces.getLast? with
    | none | some [] => []
    | some line => [line]
  (ended ++ unended).map String.ofList

/-- Reads one document from every line that is not blank; lines are numbered from `number`. -/
def readLines (number : Nat) : List String → Except PassError (List Document)
  | [] => .ok []
  | line :: rest =>
    if allBlank line then readLines (number + 1) rest
    else match Document.parse line with
      | .error f => .error (.badLine number f)
      | .ok d => do return d :: (← readLines (number + 1) rest)

/-- Reads the documents of an input. -/
def readDocuments (layout : Layout) (input : String) : Except PassError (List Document) :=
  match layout with
  | .json =>
    match Document.parse input with
    | .error f => .error (.badDocuments f)
    | .ok (.array items) => .ok items
    | .ok d => .error (.notArray d.kindName)
  | _ => readLines 1 (inputLines input)

/-- Writes documents in the layout that they were read in. -/
def writeDocuments (layout : Layout) (docs : List Document) : String :=
  match layout with
  | .json => (Document.array docs).writePretty 0 ++ "\n"
  | _ => String.join (docs.map fun d => d.write ++ "\n")

/-- What a pass has to work with. -/
structure Sources where
  file : String → Except ReadFailure ByteArray
  stdin : ByteArray

/-- What a pass leaves: its log, and its output or the reason why there is none. -/
structure Outcome where
  log : List PassEvent
  result : Except PassError String

def readFile (s : Sources) (role : FileRole) (path : String) : Except PassError String :=
  ((s.file path).bind textOf).mapError (.unreadable role path)

def readFilter (s : Sources) (r : Request) : Except PassError (List Group) := do
  (parseGroups (← readFile s .filter r.filter)).mapError (.badFilter r.filter)

def readSchema (s : Sources) (r : Request) : Except PassError (Option Schema) :=
  match r.schema with
  | none => .ok none
  | some path => do
    return some (← (Schema.parse (← readFile s .schema path)).mapError (.badSchema path))

def readInput (s : Sources) (r : Request) : Except PassError String :=
  match r.input with
  | some path => readFile s .input path
  | none => (textOf s.stdin).mapError .unreadableStdin

/-- The layout that an input is read in. -/
def Request.layoutOf (r : Request) (input : String) : Layout :=
  match r.layout with
  | .auto => detectLayout input
  | l => l

/-- The pass once the filter is compiled. -/
def passDocuments (s : Sources) (r : Request) (p : Predicate Empty Document) :
    List PassEvent × Except PassError String :=
  let read : Except PassError (Layout × List Document) := do
    let input ← readInput s r
    let layout := r.layoutOf input
    return (layout, ← readDocuments layout input)
  match read with
  | .error e => ([], .error e)
  | .ok (layout, docs) =>
    let loaded := PassEvent.documentsLoaded docs.length layout
    if r.count then ([loaded], .ok (toString (p.count docs).1 ++ "\n"))
    else
      let matched := (p.filter docs).1
      ([loaded, .filterApplied matched.length], .ok (writeDocuments layout matched))

/-- Runs one pass. A definition has at least one group, so compiling it cannot fail. -/
def run (s : Sources) (r : Request) : Except Violation Outcome :=
  let definition : Except PassError (List Group × Option Schema) := do
    return (← readFilter s r, ← readSchema s r)
  match definition with
  | .error e => .ok ⟨[], .error e⟩
  | .ok (groups, schema) => do
    let compiled ← compileGroups (compileField Pattern.search Document.field schema) groups
    let (log, result) := passDocuments s r compiled.predicate
    return ⟨(events compiled.steps).map .compile ++ log, result⟩

end RuleTree.Cli
