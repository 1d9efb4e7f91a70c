import RuleTree.Cli.Pass
import RuleTree.Proofs.Definition.Decoding
import RuleTree.Proofs.Json.Printable
import RuleTree.Proofs.Predicate.Collection
import RuleTree.Proofs.Tree.Evaluation

/-! What one pass over documents prints. A pass succeeds where its filter, its schema and its input can be read,
and prints the documents for which direct evaluation of the filter holds, in the order of the input. -/

namespace RuleTree

namespace Cli

open Json

/-! ### Reading -/

/-- The texts that a pass is given: its filter, its schema if one is asked for, and its input. -/
structure Supplies (s : Sources) (r : Request) (filter : String) (schema : Option String)
    (input : String) : Prop where
  filter : readFile s .filter r.filter = .ok filter
  schema : Option.Rel (fun path text => readFile s .schema path = .ok text) r.schema schema
  input : readInput s r = .ok input

/-- The input in this layout has these documents: the items of one array, or one document on every line that is
not blank. -/
def Layout.Holds (layout : Layout) (input : String) (docs : List Document) : Prop :=
  match layout with
  | .json => Document.parse input = .ok (.array docs)
  | _ => List.Forall₂ (fun line d => Document.parse line = .ok d)
      ((inputLines input).filter fun line => !allBlank line) docs

theorem textOf_toUTF8 (text : String) : textOf text.toUTF8 = .ok text := by
  have hread : String.fromUTF8? text.toUTF8 = some text := dif_pos text.isValidUTF8
  rw [textOf, hread]

theorem readFile_of_toUTF8 {s : Sources} {path text : String} (role : FileRole)
    (h : s.file path = .ok text.toUTF8) : readFile s role path = .ok text := by
  rw [readFile, h, mapError_eq_ok_iff]
  exact textOf_toUTF8 text

theorem readLines_eq_ok_iff {number : Nat} {lines : List String} {docs : List Document} :
    readLines number lines = .ok docs ↔ List.Forall₂ (fun line d => Document.parse line = .ok d)
      (lines.filter fun line => !allBlank line) docs := by
  induction lines generalizing number docs with
  | nil => simp [readLines, eq_comm]
  | cons line rest ih =>
    rw [readLines, List.filter_cons]
    cases allBlank line with
    | true => simpa using ih
    | false =>
      simp only [Bool.false_eq_true, if_false, Bool.not_false, if_true,
        List.forall₂_cons_left_iff]
      cases hline : Document.parse line with
      | error f => simp
      | ok d =>
        simp only [bind_eq_ok_iff, ih, pure, Except.pure, Except.ok.injEq]
        grind

theorem readDocuments_eq_ok_iff {layout : Layout} {input : String} {docs : List Document} :
    readDocuments layout input = .ok docs ↔ layout.Holds input docs := by
  unfold readDocuments Layout.Holds
  cases layout with
  | auto | jsonl => exact readLines_eq_ok_iff
  | json =>
    cases Document.parse input with
    | error f => simp
    | ok d => cases d <;> simp

variable {s : Sources} {r : Request} {filter input : String} {schemaText : Option String}

theorem readFilter_eq_ok_iff (h : Supplies s r filter schemaText input) {groups : List Group} :
    readFilter s r = .ok groups ↔ parseGroups filter = .ok groups := by
  rw [readFilter, h.filter]
  exact mapError_eq_ok_iff

theorem readSchema_eq_ok_iff (h : Supplies s r filter schemaText input) {schema : Option Schema} :
    readSchema s r = .ok schema ↔
      Option.Rel (fun text s => Schema.parse text = .ok s) schemaText schema := by
  have hrel := h.schema
  unfold readSchema
  cases hpath : r.schema with
  | none =>
    rw [hpath] at hrel
    cases hrel
    cases schema with
    | none => exact ⟨fun _ => .none, fun _ => rfl⟩
    | some s => exact ⟨nofun, nofun⟩
  | some path =>
    rw [hpath] at hrel
    cases hrel with
    | @some _ text htext =>
      simp only [htext, bind_eq_ok_iff, Except.ok.injEq, exists_eq_left', mapError_eq_ok_iff, pure,
        Except.pure]
      constructor
      · rintro ⟨s, hs, rfl⟩
        exact .some hs
      · rintro ⟨hs⟩
        exact ⟨_, hs, rfl⟩

theorem readFilter_ne_nil {s : Sources} {r : Request} {groups : List Group}
    (h : readFilter s r = .ok groups) : groups ≠ [] := by
  obtain ⟨text, -, hgroups⟩ := bind_eq_ok_iff.1 h
  exact parseGroups_ne_nil (mapError_eq_ok_iff.1 hgroups)

/-! ### Printing -/

/-- What a pass prints for the documents that match. -/
def printed (count : Bool) (layout : Layout) (matched : List Document) : String :=
  if count then toString matched.length ++ "\n"
  else match layout with
    | .json => (Document.array matched).writePretty 0 ++ "\n"
    | _ => String.join (matched.map fun d => d.write ++ "\n")

theorem printed_false (layout : Layout) (matched : List Document) :
    printed false layout matched = writeDocuments layout matched := by
  cases layout <;> rfl

theorem passDocuments_eq_ok_iff (h : Supplies s r filter schemaText input)
    (p : Predicate Empty Document) {output : String} :
    (passDocuments s r p).2 = .ok output ↔ ∃ docs, (r.layoutOf input).Holds input docs ∧
      output = printed r.count (r.layoutOf input) (docs.filter fun d => (p.test d).holds) := by
  unfold passDocuments
  simp only [h.input, bind, Except.bind, ← readDocuments_eq_ok_iff]
  cases readDocuments (r.layoutOf input) input with
  | error e => simp
  | ok docs =>
    simp only [pure, Except.pure, Except.ok.injEq, exists_eq_left']
    cases r.count with
    | true => simp [printed, Predicate.count_eq, eq_comm]
    | false => simp [printed_false, Predicate.filter_eq, eq_comm]

/-- Direct evaluation of the filter on the fields of a document. -/
def selects (schema : Option Schema) (groups : List Group) (d : Document) : Bool :=
  (evaluateGroups ((compileField Pattern.search Document.field schema : RuleCompiler Empty Document).leaves d)
    groups).holds

theorem run_of_filter_error {e : PassError} (hfilter : readFilter s r = .error e) :
    run s r = .ok ⟨[], .error e⟩ := by
  simp only [run, hfilter, bind, Except.bind]

theorem run_of_schema_error {groups : List Group} {e : PassError} (hfilter : readFilter s r = .ok groups)
    (hschema : readSchema s r = .error e) : run s r = .ok ⟨[], .error e⟩ := by
  simp only [run, hfilter, hschema, bind, Except.bind]

theorem run_of_compiled {groups : List Group} {schema : Option Schema} {c : Compiled Empty Document}
    (hfilter : readFilter s r = .ok groups) (hschema : readSchema s r = .ok schema)
    (hc : compileGroups (compileField Pattern.search Document.field schema) groups = .ok c) :
    run s r = .ok ⟨(events c.steps).map .compile ++ (passDocuments s r c.predicate).1,
      (passDocuments s r c.predicate).2⟩ := by
  simp only [run, hfilter, hschema, bind, Except.bind, pure, Except.pure, hc]

/-- A definition that is read has a group, so that compiling it breaks no demand. -/
theorem exists_run (s : Sources) (r : Request) : ∃ outcome, run s r = .ok outcome := by
  cases hfilter : readFilter s r with
  | error e => exact ⟨_, run_of_filter_error hfilter⟩
  | ok groups =>
    cases hschema : readSchema s r with
    | error e => exact ⟨_, run_of_schema_error hfilter hschema⟩
    | ok schema =>
      obtain ⟨c, hc⟩ :=
        compileGroups_isOk (compileField Pattern.search Document.field schema) (readFilter_ne_nil hfilter)
      exact ⟨_, run_of_compiled hfilter hschema hc⟩

/-- Once the filter and the schema are read, a pass does not fail but for its input. -/
theorem run_of_definition (h : Supplies s r filter schemaText input) {groups : List Group}
    {schema : Option Schema} (hgroups : parseGroups filter = .ok groups)
    (hschema : readSchema s r = .ok schema) :
    ∃ outcome, run s r = .ok outcome ∧ ∀ output, outcome.result = .ok output ↔
      ∃ docs, (r.layoutOf input).Holds input docs ∧
        output = printed r.count (r.layoutOf input) (docs.filter (selects schema groups)) := by
  have hfilter := (readFilter_eq_ok_iff h).2 hgroups
  obtain ⟨c, hc⟩ := compileGroups_isOk (compileField Pattern.search Document.field schema) (readFilter_ne_nil hfilter)
  refine ⟨_, run_of_compiled hfilter hschema hc, fun output => ?_⟩
  have hselects (d : Document) : (c.predicate.test d).holds = selects schema groups d := by
    rw [compileGroups_test hc, selects]
  simp only [passDocuments_eq_ok_iff h, hselects]

/-- A pass that prints has read its filter and its schema. -/
theorem definition_of_run (h : Supplies s r filter schemaText input) {outcome : Outcome}
    (hrun : run s r = .ok outcome) {output : String} (hresult : outcome.result = .ok output) :
    ∃ groups schema, parseGroups filter = .ok groups ∧ readSchema s r = .ok schema := by
  cases hfilter : readFilter s r with
  | error e =>
    cases (run_of_filter_error hfilter).symm.trans hrun
    cases hresult
  | ok groups =>
    cases hschema : readSchema s r with
    | error e =>
      cases (run_of_schema_error hfilter hschema).symm.trans hrun
      cases hresult
    | ok schema => exact ⟨groups, schema, (readFilter_eq_ok_iff h).1 hfilter, rfl⟩

/-- A pass over given texts never breaks a demand. It succeeds if and only if the filter, the schema if there is
one, and the input in its layout can be read; and it prints the documents of the input that the filter selects,
each on a line of its own, as one array, or as their number. -/
theorem run_prints_selected (h : Supplies s r filter schemaText input) :
    (∃ outcome, run s r = .ok outcome ∧ ∀ output, outcome.result = .ok output ↔
      ∃ groups schema docs, parseGroups filter = .ok groups ∧
        Option.Rel (fun text s => Schema.parse text = .ok s) schemaText schema ∧
        (r.layoutOf input).Holds input docs ∧
        output = printed r.count (r.layoutOf input) (docs.filter (selects schema groups))) ∧
      ∀ d : Document, '\n' ∉ d.write.toList := by
  refine ⟨?_, Document.newline_not_mem_write⟩
  simp only [← readSchema_eq_ok_iff h]
  cases hgroups : parseGroups filter with
  | error e =>
    have hfilter : readFilter s r = .error (.badFilter r.filter e) := by
      rw [readFilter, h.filter]
      simp [bind, Except.bind, hgroups, Except.mapError]
    refine ⟨⟨[], .error (.badFilter r.filter e)⟩, ?_, fun output => ?_⟩
    · simp only [run, hfilter, bind, Except.bind]
    · simp
  | ok groups =>
    cases hschema : readSchema s r with
    | error e =>
      have hfilter := (readFilter_eq_ok_iff h).2 hgroups
      refine ⟨⟨[], .error e⟩, ?_, fun output => ?_⟩
      · simp only [run, hfilter, hschema, bind, Except.bind]
      · simp
    | ok schema =>
      obtain ⟨outcome, hrun, hresult⟩ := run_of_definition h hgroups hschema
      refine ⟨outcome, hrun, fun output => ?_⟩
      rw [hresult]
      simp

/-- The same document twice, with another one and a blank line between the two. -/
theorem run_prints_selected_twice :
    let filter := "[[[[\"a\",\">\",1]]]]"
    let schema := "\x7b\"a\":\"number\"\x7d"
    let input := "\x7b\"a\":2\x7d\n\n\x7b\"a\":1\x7d\n\x7b\"a\":2\x7d"
    let s : Sources :=
      { file := fun path => .ok (if path = "filter" then filter.toUTF8 else schema.toUTF8)
        stdin := input.toUTF8 }
    let r : Request := ⟨"filter", some "schema", false, .auto, 0, none⟩
    Supplies s r filter (some schema) input ∧ ∃ outcome, run s r = .ok outcome ∧
      outcome.result = .ok "\x7b\"a\":2\x7d\n\x7b\"a\":2\x7d\n" := by
  intro filter schema input s r
  have hsupplies : Supplies s r filter (some schema) input := by
    refine ⟨readFile_of_toUTF8 .filter rfl, .some (readFile_of_toUTF8 .schema rfl), ?_⟩
    exact mapError_eq_ok_iff.2 (textOf_toUTF8 input)
  obtain ⟨⟨outcome, hrun, hresult⟩, -⟩ := run_prints_selected hsupplies
  refine ⟨hsupplies, outcome, hrun, (hresult _).2 ?_⟩
  let small : Document := .object [("a", .number (.signed 1))]
  let large : Document := .object [("a", .number (.signed 2))]
  have hlayout : r.layoutOf input = .jsonl := by decide +kernel
  have hlines : (inputLines input).filter (fun line => !allBlank line) =
      [large.write, small.write, large.write] := by decide +kernel
  have hlarge : Document.parse large.write = .ok large :=
    Document.parse_write ⟨⟨_, isWord_toInt 2, by decide⟩, trivial⟩ (by decide)
  have hsmall : Document.parse small.write = .ok small :=
    Document.parse_write ⟨⟨_, isWord_toInt 1, by decide⟩, trivial⟩ (by decide)
  have hdocs : Layout.jsonl.Holds input [large, small, large] := by
    change List.Forall₂ _ _ _
    rw [hlines]
    exact .cons hlarge (.cons hsmall (.cons hlarge .nil))
  have hread : (parseGroups filter).toOption.bind (fun groups =>
      (Schema.parse schema).toOption.map fun s =>
        printed false .jsonl ([large, small, large].filter (selects (some s) groups))) =
          some "\x7b\"a\":2\x7d\n\x7b\"a\":2\x7d\n" := by decide +kernel
  obtain ⟨groups, hgroups, hread⟩ := Option.bind_eq_some_iff.1 hread
  obtain ⟨declared, hdeclared, hread⟩ := Option.map_eq_some_iff.1 hread
  refine ⟨groups, some declared, _, toOption_eq_some_iff.1 hgroups,
    .some (toOption_eq_some_iff.1 hdeclared), hlayout ▸ hdocs, ?_⟩
  rw [hlayout]
  exact hread.symm

end Cli

end RuleTree
