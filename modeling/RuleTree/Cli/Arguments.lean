/-! The command line: options, their values, and how arguments are read. A value may stand behind its
option or be attached to it; an option that waits for its value takes the next argument that is not an
option itself. -/

namespace RuleTree.Cli

/-- The layout of the documents that are read and written. -/
inductive Layout where
  | auto
  | json
  | jsonl
deriving DecidableEq, Repr

namespace Layout

def name : Layout → String
  | auto => "Auto"
  | json => "Json"
  | jsonl => "Jsonl"

/-- Reads the value of the layout option. -/
def ofValue? : String → Option Layout
  | "auto" => some auto
  | "json" => some json
  | "jsonl" => some jsonl
  | _ => none

end Layout

/-- What the command line asks for. -/
structure Request where
  filter : String
  schema : Option String
  count : Bool
  layout : Layout
  verbosity : Nat
  input : Option String
deriving DecidableEq, Repr

/-- The level of the log for a number of `-v` flags. -/
def logLevel : Nat → String
  | 0 => "warn"
  | 1 => "debug"
  | _ => "trace"

/-- Why arguments are not a request. -/
inductive UsageError where
  | argumentConflict
  | displayHelp
  | displayVersion
  | invalidValue
  | missingRequiredArgument
  | tooManyValues
  | unknownArgument
deriving DecidableEq, Repr

def UsageError.name : UsageError → String
  | argumentConflict => "ArgumentConflict"
  | displayHelp => "DisplayHelp"
  | displayVersion => "DisplayVersion"
  | invalidValue => "InvalidValue"
  | missingRequiredArgument => "MissingRequiredArgument"
  | tooManyValues => "TooManyValues"
  | unknownArgument => "UnknownArgument"

/-- An argument that takes a value; the input file is one without a name. -/
inductive Valued where
  | filter
  | schema
  | layout
  | input
deriving DecidableEq, Repr

/-- An option without a value. -/
inductive Switch where
  | count
  | verbose
  | help
  | version
deriving DecidableEq, Repr

/-- A named option. -/
inductive Named where
  | valued (v : Valued)
  | switch (s : Switch)
deriving DecidableEq, Repr

namespace Named

def ofLong? : String → Option Named
  | "filter" => some (valued .filter)
  | "schema" => some (valued .schema)
  | "format" => some (valued .layout)
  | "count" => some (switch .count)
  | "verbose" => some (switch .verbose)
  | "help" => some (switch .help)
  | "version" => some (switch .version)
  | _ => none

def ofShort? : Char → Option Named
  | 'f' => some (valued .filter)
  | 's' => some (valued .schema)
  | 'c' => some (switch .count)
  | 'v' => some (switch .verbose)
  | 'h' => some (switch .help)
  | 'V' => some (switch .version)
  | _ => none

end Named

/-- The values given so far. -/
structure Given where
  filter : Option String := none
  schema : Option String := none
  count : Bool := false
  layout : Option Layout := none
  verbosity : Nat := 0
  input : Option String := none
deriving Repr

namespace Given

/-- Takes a value. No value is empty, and no argument is given twice. -/
def put (g : Given) (v : Valued) (value : String) : Except UsageError Given :=
  match v with
  | .filter =>
    if g.filter.isSome then .error .argumentConflict
    else if value.isEmpty then .error .invalidValue
    else .ok { g with filter := some value }
  | .schema =>
    if g.schema.isSome then .error .argumentConflict
    else if value.isEmpty then .error .invalidValue
    else .ok { g with schema := some value }
  | .layout =>
    if g.layout.isSome then .error .argumentConflict
    else match Layout.ofValue? value with
      | some l => .ok { g with layout := some l }
      | none => .error .invalidValue
  | .input =>
    if g.input.isSome then .error .argumentConflict
    else if value.isEmpty then .error .invalidValue
    else .ok { g with input := some value }

/-- Takes a switch. The number of `-v` flags stays below 256. -/
def turnOn (g : Given) : Switch → Except UsageError Given
  | .count => if g.count then .error .argumentConflict else .ok { g with count := true }
  | .verbose => .ok { g with verbosity := min 255 (g.verbosity + 1) }
  | .help => .error .displayHelp
  | .version => .error .displayVersion

end Given

/-- Where reading stands: what was given, the argument whose value is not yet taken up, and whether `--`
has been met. -/
structure State where
  given : Given := {}
  /-- An argument and its value, if that has come. -/
  pending : Option (Valued × Option String) := none
  onlyInputs : Bool := false
  /-- Has an input file been named? -/
  hasInput : Bool := false

namespace State

/-- Takes up the value that waits. An option without its value is refused. -/
def settle (s : State) : Except UsageError State :=
  match s.pending with
  | none => .ok s
  | some (_, none) => .error .invalidValue
  | some (v, some value) => do
    let given ← s.given.put v value
    return { s with given, pending := none }

/-- Is an option waiting for the next argument? -/
def awaits? (s : State) : Option Valued :=
  match s.pending with
  | some (v, none) => some v
  | _ => none

/-- An option with a value attached to it, or waiting for one. -/
def giveOption (s : State) (v : Valued) (attached : Option String) : Except UsageError State := do
  let s ← s.settle
  match attached with
  | some value => return { s with given := ← s.given.put v value }
  | none => return { s with pending := some (v, none) }

def giveSwitch (s : State) (w : Switch) : Except UsageError State := do
  let s ← s.settle
  return { s with given := ← s.given.turnOn w }

/-- An argument that begins with two hyphens, without them. -/
def giveLong (s : State) (text : List Char) : Except UsageError State :=
  let name := text.takeWhile (· != '=')
  let attached := match text.drop name.length with
    | [] => none
    | _ :: value => some (String.ofList value)
  match Named.ofLong? (String.ofList name), attached with
  | none, _ => .error .unknownArgument
  | some (.valued v), attached => s.giveOption v attached
  | some (.switch w), none => s.giveSwitch w
  | some (.switch _), some _ => .error .tooManyValues

/-- An argument that begins with one hyphen, without it: switches, and at most one option, whose value is
all that follows. -/
def giveShort (s : State) : List Char → Except UsageError State
  | [] => .ok s
  | c :: rest =>
    match Named.ofShort? c with
    | none => .error .unknownArgument
    | some (.switch w) => do
      let s ← s.giveSwitch w
      s.giveShort rest
    | some (.valued v) =>
      match rest with
      | [] => s.giveOption v none
      | '=' :: value => s.giveOption v (some (String.ofList value))
      | value => s.giveOption v (some (String.ofList value))

/-- An argument without hyphens: the value of an option that waits for one, or the input file. -/
def givePlain (s : State) (text : String) : Except UsageError State :=
  match (if s.onlyInputs then none else s.awaits?) with
  | some v => .ok { s with pending := some (v, some text) }
  | none =>
    if s.hasInput then .error .unknownArgument
    else do
      let s ← s.settle
      return { s with pending := some (.input, some text), hasInput := true }

/-- Takes the next argument. -/
def give (s : State) (text : String) : Except UsageError State :=
  if s.onlyInputs then s.givePlain text
  else match text.toList with
    | ['-', '-'] => .ok { s with onlyInputs := true }
    | '-' :: '-' :: rest => s.giveLong rest
    | '-' :: c :: rest => s.giveShort (c :: rest)
    | _ => s.givePlain text

end State

/-- Values that the environment gives to options that the arguments leave out. -/
structure Defaults where
  filter : Option String := none
  schema : Option String := none

/-- Reads a command line. -/
def Request.ofArguments (defaults : Defaults) (arguments : List String) :
    Except UsageError Request := do
  let s ← arguments.foldlM State.give {}
  let s ← s.settle
  let fill (g : Given) (v : Valued) (present : Bool) : Option String → Except UsageError Given
    | some value => if present then .ok g else g.put v value
    | none => .ok g
  let g ← fill s.given .filter s.given.filter.isSome defaults.filter
  let g ← fill g .schema g.schema.isSome defaults.schema
  let some filter := g.filter | throw .missingRequiredArgument
  return { filter, schema := g.schema, count := g.count, layout := g.layout.getD .auto,
           verbosity := g.verbosity, input := g.input }

end RuleTree.Cli
