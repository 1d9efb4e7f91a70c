import RuleTree.Cli.Console

/-! The program: it fetches what a request names and runs the pass on the terminal. The log goes to standard
error. -/

namespace RuleTree.Cli

/-- The number of a system error, which some calls report negated. -/
def systemErrorNumber (code : UInt32) : UInt32 :=
  if code < 0x80000000 then code else 0 - code

/-- A failure that the system reports. -/
def ReadFailure.ofSystem : IO.Error → ReadFailure
  | .noFileOrDirectory .. => .notFound
  | .inappropriateType _ code details =>
    let n := systemErrorNumber code
    if n = 20 then .notFolder else if n = 21 then .isFolder else .other details
  | .permissionDenied _ code _ =>
    .other ("Permission denied (os error " ++ toString (systemErrorNumber code) ++ ")")
  | e => .other (toString e)

/-- A file with what reading it gives. -/
def fetch (path : String) : IO (String × Except ReadFailure ByteArray) := do
  try return (path, .ok (← IO.FS.readBinFile path))
  catch e => return (path, .error (.ofSystem e))

/-- Fetches every file of a request, and standard input where no input file is named. -/
def Sources.ofRequest (r : Request) : IO Sources := do
  let files ← ([r.filter] ++ r.schema.toList ++ r.input.toList).mapM fetch
  let stdin ← if r.input.isSome then pure ByteArray.empty else (← IO.getStdin).readBinToEnd
  return { file := fun path => (files.lookup path).getD (.error .notFound), stdin }

/-- The levels shown for a number of `-v` flags. -/
def shownLevels : Nat → List Level
  | 0 => [.warn]
  | 1 => [.warn, .debug]
  | _ => [.warn, .debug, .trace]

def LogValue.display : LogValue → String
  | .count n => toString n
  | .text s => s

def LogEntry.line (e : LogEntry) : String :=
  String.join ([e.level.name, " ", e.message] ++
    e.fields.flatMap fun (name, value) => [" ", name, "=", LogValue.display value])

/-- The terminal, where entries of the given levels are shown of the log. -/
def terminal (shown : List Level) : Console IO where
  report e := if shown.contains e.entry.level then IO.eprintln (LogEntry.line e.entry) else pure ()
  write text := IO.print text

def usage : String :=
  "Usage: ruletree [OPTIONS] --filter <FILE> [INPUT]\n\n" ++
  "  -f, --filter <FILE>    filter definition: a group or an array of groups\n" ++
  "  -s, --schema <FILE>    field schema: an object from field names to kinds\n" ++
  "  -c, --count            print the number of matching documents\n" ++
  "      --format <FORMAT>  layout of the documents: auto, json or jsonl\n" ++
  "  -v, --verbose          log more; may be repeated\n"

end RuleTree.Cli

open RuleTree.Cli in
def main (arguments : List String) : IO UInt32 := do
  let defaults : Defaults :=
    { filter := ← IO.getEnv "RULETREE_FILTER", schema := ← IO.getEnv "RULETREE_SCHEMA" }
  match Request.ofArguments defaults arguments with
  | .error .displayHelp | .error .displayVersion =>
    IO.print usage
    return 0
  | .error e =>
    IO.eprint ("error: " ++ e.name ++ "\n\n" ++ usage)
    return 2
  | .ok request =>
    let console := terminal (shownLevels request.verbosity)
    match ← (runOn console (← Sources.ofRequest request) request).run with
    | .error (.violation v) =>
      IO.eprintln v.message
      return 101
    | .error (.failure e) =>
      IO.eprintln ("Error: " ++ e.message)
      return 1
    | .ok () => return 0
