import RuleTree.Cli.Console
import RuleTree.Proofs.Cli.Pass

/-! What a pass has written when it fails: nothing. Every step that can fail comes before the first that writes, and no
demand is broken, since a definition that is read has a group. On any console a pass reports its log, and then writes
the pieces of its output or stops. -/

namespace RuleTree.Cli

open Json

/-! ### Steps -/

section Steps

variable {m : Type → Type} [Monad m] [LawfulMonad m] {c : Console m} {α β : Type}

/-- On the console a computation reports this, then writes this, and then ends like this. -/
def Does (c : Console m) (p : ExceptT Stop m α) (log : List PassEvent) (pieces : List String)
    (result : Except Stop α) : Prop :=
  p.run = do
    c.reportAll log
    pieces.forM c.write
    return result

theorem does_orStop_error {ε : Type} (why : ε → Stop) (e : ε) :
    Does c (orStop why (.error e : Except ε α)) [] [] (.error (why e)) := by
  simp [Does, orStop, Console.reportAll, Except.mapError]

theorem does_orStop_ok {ε : Type} (why : ε → Stop) (a : α) :
    Does c (orStop why (.ok a : Except ε α)) [] [] (.ok a) := by
  simp [Does, orStop, Console.reportAll, Except.mapError]

theorem does_reportAll (log : List PassEvent) : Does c (c.reportAll log) log [] (.ok ()) := by
  simp [Does]

theorem does_report (e : PassEvent) : Does c (c.report e) [e] [] (.ok ()) := by
  simp [Does, Console.reportAll]

theorem does_write (text : String) : Does c (c.write text) [] [text] (.ok ()) := by
  simp [Does, Console.reportAll]

variable {p : ExceptT Stop m α} {k : α → ExceptT Stop m β} {log log' : List PassEvent}
  {pieces : List String}

/-- Nothing comes behind a computation that stops. -/
theorem Does.stop {why : Stop} (h : Does c p log pieces (.error why)) :
    Does c (p >>= k) log pieces (.error why) := by
  rw [Does] at h
  simp [Does, ExceptT.run_bind, h]

/-- A computation that only reports may come before any other. -/
theorem Does.reports {a : α} {result : Except Stop β} (h : Does c p log [] (.ok a))
    (hk : Does c (k a) log' pieces result) : Does c (p >>= k) (log ++ log') pieces result := by
  rw [Does] at h hk
  simp [Does, ExceptT.run_bind, h, hk, Console.reportAll]

/-- The pieces in which documents are written. -/
def piecesOf (layout : Layout) (docs : List Document) : List String :=
  match layout with
  | .json => [(Document.array docs).writePretty 0, "\n"]
  | _ => docs.flatMap fun d => [d.write, "\n"]

theorem join_piecesOf (layout : Layout) (docs : List Document) :
    String.join (piecesOf layout docs) = writeDocuments layout docs := by
  cases layout with
  | json => simp [piecesOf, writeDocuments]
  | auto | jsonl =>
    induction docs with
    | nil => rfl
    | cons d docs ih =>
      simp only [piecesOf, writeDocuments] at ih
      simp [piecesOf, writeDocuments, ih, String.append_assoc]

theorem writeDocuments_eq (c : Console m) (layout : Layout) (docs : List Document) :
    c.writeDocuments layout docs = (piecesOf layout docs).forM c.write := by
  cases layout with
  | json => simp [Console.writeDocuments, piecesOf]
  | auto | jsonl =>
    induction docs with
    | nil => rfl
    | cons d docs ih =>
      simp only [Console.writeDocuments, piecesOf, List.forM_eq_forM] at ih
      simp [Console.writeDocuments, piecesOf, ih]

theorem does_writeDocuments (layout : Layout) (docs : List Document) :
    Does c (c.writeDocuments layout docs) [] (piecesOf layout docs) (.ok ()) := by
  simp [Does, Console.reportAll, writeDocuments_eq]

/-! ### Passes -/

/-- How a pass on a console ends, with what it wrote: it stops for the failure with nothing written, or what it wrote
is the output. -/
inductive Ends : Except PassError String → List String → Except Stop Unit → Prop
  | failed (e : PassError) : Ends (.error e) [] (.error (.failure e))
  | finished (pieces : List String) : Ends (.ok (String.join pieces)) pieces (.ok ())

theorem Ends.of_join {pieces : List String} {text : String} (h : String.join pieces = text) :
    Ends (.ok text) pieces (.ok ()) :=
  h ▸ .finished pieces

theorem passDocumentsOn_does (c : Console m) (s : Sources) (r : Request) (p : Predicate Empty Document) :
    ∃ pieces result, Ends (passDocuments s r p).2 pieces result ∧
      Does c (passDocumentsOn c s r p) (passDocuments s r p).1 pieces result := by
  unfold passDocuments passDocumentsOn
  cases readInput s r with
  | error e => exact ⟨[], _, .failed e, (does_orStop_error ..).stop⟩
  | ok input =>
    simp only [bind, Except.bind]
    cases hdocs : readDocuments (r.layoutOf input) input with
    | error e =>
      refine ⟨[], _, .failed e, (does_orStop_ok ..).reports ?_⟩
      rw [hdocs]
      exact (does_orStop_error ..).stop
    | ok docs =>
      cases hcount : r.count with
      | true =>
        refine ⟨[toString (p.count docs).1 ++ "\n"], _, .of_join (by simp), (does_orStop_ok ..).reports ?_⟩
        rw [hdocs]
        exact (does_orStop_ok ..).reports ((does_report _).reports (does_write _))
      | false =>
        refine ⟨piecesOf (r.layoutOf input) (p.filter docs).1, _, .of_join (join_piecesOf ..),
          (does_orStop_ok ..).reports ?_⟩
        rw [hdocs]
        exact (does_orStop_ok ..).reports
          ((does_report _).reports ((does_report _).reports (does_writeDocuments ..)))

/-- On a console a pass does what its outcome says. -/
theorem runOn_does (c : Console m) (s : Sources) (r : Request) :
    ∃ outcome pieces result, run s r = .ok outcome ∧ Ends outcome.result pieces result ∧
      Does c (runOn c s r) outcome.log pieces result := by
  unfold runOn
  cases hfilter : readFilter s r with
  | error e => exact ⟨_, [], _, run_of_filter_error hfilter, .failed e, (does_orStop_error ..).stop⟩
  | ok groups =>
    cases hschema : readSchema s r with
    | error e =>
      exact ⟨_, [], _, run_of_schema_error hfilter hschema, .failed e,
        (does_orStop_ok ..).reports (does_orStop_error ..).stop⟩
    | ok schema =>
      obtain ⟨compiled, hcompiled⟩ :=
        compileGroups_isOk (compileField Pattern.search Document.field schema) (readFilter_ne_nil hfilter)
      obtain ⟨pieces, result, hends, hdoes⟩ := passDocumentsOn_does c s r compiled.predicate
      refine ⟨_, pieces, result, run_of_compiled hfilter hschema hcompiled, hends,
        (does_orStop_ok ..).reports ((does_orStop_ok ..).reports ?_)⟩
      rw [hcompiled]
      exact (does_orStop_ok ..).reports ((does_reportAll _).reports hdoes)

end Steps

/-! ### A writer that never fails -/

variable {ρ σ α : Type} {report : ρ → PassEvent → ρ} {write : σ → String → σ}

/-- The console that takes whatever it is given. What becomes of its reports and of its output is kept apart. -/
def Console.keeping (report : ρ → PassEvent → ρ) (write : σ → String → σ) : Console (StateM (ρ × σ)) where
  report e := modify fun kept => (report kept.1 e, kept.2)
  write text := modify fun kept => (kept.1, write kept.2 text)

theorem reportAll_keeping (es : List PassEvent) (log : ρ) (out : σ) :
    ((Console.keeping report write).reportAll es).run (log, out) = ((), es.foldl report log, out) := by
  induction es generalizing log with
  | nil => rfl
  | cons e es ih => exact ih (report log e)

theorem forM_write_keeping (pieces : List String) (log : ρ) (out : σ) :
    (pieces.forM (Console.keeping report write).write).run (log, out) = ((), log, pieces.foldl write out) := by
  induction pieces generalizing out with
  | nil => rfl
  | cons text pieces ih => exact ih (write out text)

theorem Does.kept {p : ExceptT Stop (StateM (ρ × σ)) α} {es : List PassEvent} {pieces : List String}
    {result : Except Stop α} (h : Does (.keeping report write) p es pieces result) (log : ρ) (out : σ) :
    p.run.run (log, out) = (result, es.foldl report log, pieces.foldl write out) := by
  rw [Does] at h
  rw [h, StateT.run_bind, reportAll_keeping]
  exact congrArg (fun kept : Unit × ρ × σ => (result, kept.2)) (forM_write_keeping pieces _ out)

/-- On a console that takes whatever it is given, a pass over any files finishes or fails. It breaks no demand, for
only a filter without groups would, and no definition is read as one. Where it fails the output is as it was before;
else the pieces that were written are the output. -/
theorem runOn_failure_unwritten (report : ρ → PassEvent → ρ) (write : σ → String → σ) (s : Sources) (r : Request)
    (log : ρ) (out : σ) :
    (∀ text, parseGroups text ≠ .ok []) ∧
      (∀ (compile : RuleCompiler Empty Document) (groups : List Group) (v : Violation),
        compileGroups compile groups = .error v ↔ groups = [] ∧ v = .noGroups) ∧
      ∃ outcome result out', run s r = .ok outcome ∧
        (runOn (.keeping report write) s r).run.run (log, out) =
          (result, outcome.log.foldl report log, out') ∧
        ((∃ e, outcome.result = .error e ∧ result = .error (.failure e) ∧ out' = out) ∨
          ∃ pieces, outcome.result = .ok (String.join pieces) ∧ result = .ok () ∧
            out' = pieces.foldl write out) := by
  refine ⟨fun text h => parseGroups_ne_nil h rfl, fun _ _ _ => compileGroups_eq_error_iff, ?_⟩
  obtain ⟨outcome, pieces, result, hrun, hends, hdoes⟩ := runOn_does (.keeping report write) s r
  refine ⟨outcome, result, _, hrun, hdoes.kept log out, ?_⟩
  generalize outcome.result = ending at hends ⊢
  cases hends with
  | failed e => exact .inl ⟨e, rfl, rfl, rfl⟩
  | finished pieces => exact .inr ⟨pieces, rfl, rfl, rfl⟩

/-- The first line could be printed, but the second cannot be read. -/
example :
    let s : Sources := { file := fun _ => .ok "\x7b\x7d".toUTF8, stdin := "1\n[".toUTF8 }
    let r : Request := ⟨"filter", none, false, .jsonl, 0, none⟩
    let c := Console.keeping (fun (_ : Unit) _ => ()) fun (out : List String) text => out ++ [text]
    ((runOn c s r).run.run ((), [])).2 = ((), []) := by
  decide +kernel

end RuleTree.Cli
