import RuleTree.Cli.Pass

/-! A pass on a console, which is told of what happens when it happens and is given the output in pieces, as each is
ready. What was written before a pass fails is then a matter of the order of its steps. -/

namespace RuleTree.Cli

open Json

/-- Where a pass reports to, and where its output goes. -/
structure Console (m : Type → Type) where
  report : PassEvent → m Unit
  write : String → m Unit

/-- Why a pass stops early: it breaks a demand, or it cannot have what it needs. -/
inductive Stop where
  | violation (v : Violation)
  | failure (e : PassError)
deriving DecidableEq

variable {m : Type → Type} [Monad m]

namespace Console

def reportAll (c : Console m) (es : List PassEvent) : m Unit := es.forM c.report

/-- Writes documents one after the other, or all of them as one array. -/
def writeDocuments (c : Console m) (layout : Layout) (docs : List Document) : m Unit :=
  match layout with
  | .json => do
    c.write ((Document.array docs).writePretty 0)
    c.write "\n"
  | _ => docs.forM fun d => do
    c.write d.write
    c.write "\n"

end Console

/-- Goes on with what there is, or stops for the reason that there is nothing. -/
def orStop {ε α : Type} (why : ε → Stop) (x : Except ε α) : ExceptT Stop m α :=
  .mk (pure (x.mapError why))

/-- The pass on a console once the filter is compiled. -/
def passDocumentsOn (c : Console m) (s : Sources) (r : Request) (p : Predicate Empty Document) :
    ExceptT Stop m Unit := do
  let input ← orStop .failure (readInput s r)
  let layout := r.layoutOf input
  let docs ← orStop .failure (readDocuments layout input)
  c.report (.documentsLoaded docs.length layout)
  if r.count then c.write (toString (p.count docs).1 ++ "\n")
  else
    let matched := (p.filter docs).1
    c.report (.filterApplied matched.length)
    c.writeDocuments layout matched

/-- Runs one pass on a console. -/
def runOn (c : Console m) (s : Sources) (r : Request) : ExceptT Stop m Unit := do
  let groups ← orStop .failure (readFilter s r)
  let schema ← orStop .failure (readSchema s r)
  let compiled ← orStop .violation (compileGroups (compileField Pattern.search Document.field schema) groups)
  c.reportAll ((events compiled.steps).map .compile)
  passDocumentsOn c s r compiled.predicate

end RuleTree.Cli
