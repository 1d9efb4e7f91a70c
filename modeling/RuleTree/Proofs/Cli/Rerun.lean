import RuleTree.Proofs.Cli.Lines
import RuleTree.Proofs.Cli.Pass
import RuleTree.Proofs.Json.Pretty

/-! A pass over its own output. What a pass prints of documents without doubles is found again in the layout that it
was written in. Where the layout is to be told from the text, lines that begin with an array are taken for one array
instead, and a pass over them prints something else. -/

namespace RuleTree

open Json

theorem Json.Document.Kept.of_subset {depth : Nat} {ds ds' : List Document}
    (h : (Document.array ds).Kept depth) (hsubset : ∀ d ∈ ds', d ∈ ds) :
    (Document.array ds').Kept depth := by
  cases h with
  | array hds => exact .array fun d hd => hds d (hsubset d hd)

namespace Cli

variable {layout : Layout} {input output : String} {docs : List Document}

/-! ### Documents in a layout -/

/-- The documents can have been read in the layout. -/
def Layout.Kept (layout : Layout) (docs : List Document) : Prop :=
  match layout with
  | .json => (Document.array docs).Kept nestingLimit
  | _ => ∀ d ∈ docs, d.Kept nestingLimit

theorem Layout.Holds.kept (h : layout.Holds input docs) : layout.Kept docs := by
  have hlines : ∀ {lines : List String},
      List.Forall₂ (fun line d => Document.parse line = .ok d) lines docs →
        ∀ d ∈ docs, d.Kept nestingLimit := by
    intro lines hdocs d hd
    obtain ⟨line, -, hline⟩ := forall₂_mem_right hdocs hd
    exact Document.kept_parse hline
  cases layout with
  | json => exact Document.kept_parse h
  | auto | jsonl => exact hlines h

theorem Layout.Holds.unique {docs' : List Document} (h : layout.Holds input docs)
    (h' : layout.Holds input docs') : docs = docs' := by
  rw [← readDocuments_eq_ok_iff] at h h'
  exact Except.ok.inj (h.symm.trans h')

/-- Fewer documents. -/
theorem Layout.Kept.of_subset {docs' : List Document} (h : layout.Kept docs)
    (hsubset : ∀ d ∈ docs', d ∈ docs) : layout.Kept docs' := by
  cases layout with
  | json => exact Document.Kept.of_subset h hsubset
  | auto | jsonl => exact fun d hd => h d (hsubset d hd)

theorem printed_jsonl (docs : List Document) :
    printed false .jsonl docs = unlines (docs.map Document.write) := by
  simp only [printed, unlines, List.map_map, Function.comp_def, Bool.false_eq_true, if_false]

/-- What is printed of documents without doubles has these documents, in the layout that they are printed in. -/
theorem Layout.Kept.holds_printed (h : layout.Kept docs) (hauto : layout ≠ .auto)
    (hintegral : ∀ d ∈ docs, d.integral = true) : layout.Holds (printed false layout docs) docs := by
  cases layout with
  | auto => exact absurd rfl hauto
  | json => exact Document.Kept.parse_pretty h (Document.integralItems_iff.2 hintegral)
  | jsonl =>
    have hprintable : ∀ line ∈ docs.map Document.write, Printable line.toList := by
      intro line hline
      obtain ⟨d, -, rfl⟩ := List.mem_map.1 hline
      exact d.printable_write
    have hfull : ∀ line ∈ docs.map Document.write, (!allBlank line) = true := by
      intro line hline
      obtain ⟨d, -, rfl⟩ := List.mem_map.1 hline
      rw [d.allBlank_write]
      rfl
    unfold Layout.Holds
    dsimp only
    rw [printed_jsonl, inputLines_unlines hprintable, List.filter_eq_self.2 hfull,
      List.forall₂_map_left_iff, List.forall₂_same]
    exact fun d hd => Document.Kept.parse_write (h d hd) (hintegral d hd)

/-! ### The layout of what is printed -/

theorem printed_json_cons (d : Document) (rest : List Document) :
    ∃ more, (printed false .json (d :: rest)).toList = '[' :: '\n' :: more := by
  have hopen : "[".toList = ['['] := rfl
  have hclose : "]".toList = [']'] := rfl
  simp only [printed, Bool.false_eq_true, if_false, String.toList_append, Document.writePretty,
    Document.prettyItems, layOut_cons hopen hclose, breakLine, List.cons_append]
  exact ⟨_, rfl⟩

theorem printed_jsonl_cons (d : Document) (rest : List Document) :
    (printed false .jsonl (d :: rest)).toList =
      d.write.toList ++ '\n' :: (printed false .jsonl rest).toList := by
  rw [printed_jsonl, printed_jsonl, unlines_toList, unlines_toList]
  simp

/-- The layout is the one that was printed in, unless lines begin with an array. -/
theorem detectLayout_printed (hauto : layout ≠ .auto)
    (hfirst : layout = .jsonl → ∀ items, docs.head? ≠ some (.array items)) :
    detectLayout (printed false layout docs) = layout := by
  cases layout with
  | auto => exact absurd rfl hauto
  | json =>
    cases docs with
    | nil => rfl
    | cons d rest =>
      obtain ⟨more, hmore⟩ := printed_json_cons d rest
      rw [detectLayout_cons hmore rfl, if_pos rfl]
  | jsonl =>
    cases docs with
    | nil => rfl
    | cons d rest =>
      obtain ⟨c, more, hc, hblank, -, harray⟩ := d.write_head
      have hbracket : c ≠ '[' := by
        rw [ne_eq, harray]
        rintro ⟨items, rfl⟩
        exact hfirst rfl items rfl
      have htext := printed_jsonl_cons d rest
      rw [hc, List.cons_append] at htext
      rw [detectLayout_cons htext hblank, if_neg hbracket]

theorem printed_jsonl_array (items rest : List Document) :
    ∃ more, (printed false .jsonl (.array items :: rest)).toList = '[' :: more := by
  obtain ⟨more, hmore⟩ := writeArray_head (Document.writeItems items)
  refine ⟨more ++ '\n' :: (printed false .jsonl rest).toList, ?_⟩
  rw [printed_jsonl_cons, Document.write, hmore, List.cons_append]

theorem detectLayout_printed_array (items rest : List Document) :
    detectLayout (printed false .jsonl (.array items :: rest)) = .json := by
  obtain ⟨more, hmore⟩ := printed_jsonl_array items rest
  rw [detectLayout_cons hmore rfl, if_pos rfl]

/-- Lines that begin with an array are the text of one array only where they are the empty one alone. -/
theorem printed_array_eq_iff {items rest docs' : List Document} :
    printed false .jsonl (.array items :: rest) = printed false .json docs' ↔
      items = [] ∧ rest = [] ∧ docs' = [] := by
  constructor
  · intro h
    have htext := congrArg String.toList h
    rw [printed_jsonl_cons] at htext
    cases items with
    | nil =>
      cases docs' with
      | nil =>
        refine ⟨rfl, ?_, rfl⟩
        cases rest with
        | nil => rfl
        | cons d rest =>
          have hempty := (List.cons.inj (List.cons.inj (List.cons.inj htext).2).2).2
          rw [printed_jsonl_cons] at hempty
          simp at hempty
      | cons d' rest' =>
        obtain ⟨more, hmore⟩ := printed_json_cons d' rest'
        rw [hmore] at htext
        exact absurd (List.cons.inj (List.cons.inj htext).2).1 (by decide)
    | cons d ds =>
      obtain ⟨c, more, hc, hblank, hclose, -⟩ := d.write_head
      rw [Document.write, Document.writeItems, writeArray_cons, hc] at htext
      cases docs' with
      | nil => exact absurd (List.cons.inj (List.cons.inj htext).2).1 hclose
      | cons d' rest' =>
        obtain ⟨more', hmore'⟩ := printed_json_cons d' rest'
        rw [hmore'] at htext
        rw [(List.cons.inj (List.cons.inj htext).2).1] at hblank
        cases hblank
  · rintro ⟨rfl, rfl, rfl⟩
    rfl

/-- What is printed of documents that are all to be kept is printed again from itself, unless it is lines that begin
with an array and are not the empty array alone. -/
theorem reprinted_iff {keep : Document → Bool} (h : layout.Kept docs) (hauto : layout ≠ .auto)
    (hintegral : ∀ d ∈ docs, d.integral = true) (hkeep : ∀ d ∈ docs, keep d = true)
    (houtput : output = printed false layout docs) :
    (∃ docs', (detectLayout output).Holds output docs' ∧
      output = printed false (detectLayout output) (docs'.filter keep)) ↔
        (layout = .jsonl → ∀ items, docs.head? = some (.array items) → docs = [.array []]) := by
  subst houtput
  by_cases harray : layout = .jsonl ∧ ∃ items, docs.head? = some (.array items)
  · obtain ⟨rfl, items, hitems⟩ := harray
    obtain ⟨rest, rfl⟩ := List.head?_eq_some_iff.1 hitems
    rw [detectLayout_printed_array]
    constructor
    · rintro ⟨docs', -, hprinted⟩ - - -
      obtain ⟨rfl, rfl, -⟩ := printed_array_eq_iff.1 hprinted
      rfl
    · intro honly
      cases honly rfl items rfl
      have hempty : Layout.json.Kept [] := Document.Kept.array (List.forall_mem_nil _)
      have hsame : printed false .jsonl [.array []] = printed false .json [] :=
        printed_array_eq_iff.2 ⟨rfl, rfl, rfl⟩
      rw [hsame]
      exact ⟨[], hempty.holds_printed nofun (List.forall_mem_nil _), rfl⟩
  · have hfirst : layout = .jsonl → ∀ items, docs.head? ≠ some (.array items) :=
      fun hlayout items hitems => harray ⟨hlayout, items, hitems⟩
    rw [detectLayout_printed hauto hfirst]
    constructor
    · intro _ hlayout items hitems
      exact absurd hitems (hfirst hlayout items)
    · intro _
      refine ⟨docs, h.holds_printed hauto hintegral, ?_⟩
      rw [List.filter_eq_self.2 hkeep]

/-! ### Passes over given texts -/

variable {s s' : Sources} {r r' : Request} {filter : String} {schemaText : Option String}

/-- The filter for documents whose first item, or whose member of the name "0", is one. -/
def zeroIsOne : String := "[[[[\"0\",\"=\",1]]]]"

/-- One file, and documents on standard input. -/
def Sources.given (filter input : String) : Sources :=
  { file := fun _ => .ok filter.toUTF8, stdin := input.toUTF8 }

theorem Sources.given_supplies (filter input : String) (layout : Layout) :
    Supplies (.given filter input) ⟨"filter", none, false, layout, 0, none⟩ filter none input :=
  ⟨readFile_of_toUTF8 .filter rfl, .none, mapError_eq_ok_iff.2 (textOf_toUTF8 input)⟩

theorem supplies_given (filter input : String) :
    Supplies (.given filter input) ⟨"filter", none, false, .auto, 0, none⟩ filter none input :=
  Sources.given_supplies filter input .auto

theorem exists_outcome {text : String}
    (h : (run s r).toOption.bind (fun outcome => outcome.result.toOption) = some text) :
    ∃ outcome, run s r = .ok outcome ∧ outcome.result = .ok text := by
  obtain ⟨outcome, hrun, hresult⟩ := Option.bind_eq_some_iff.1 h
  exact ⟨outcome, toOption_eq_some_iff.1 hrun, toOption_eq_some_iff.1 hresult⟩

theorem exists_integral
    (h : (readDocuments layout input).toOption.map (fun docs => docs.all Document.integral) = some true) :
    ∃ docs, layout.Holds input docs ∧ ∀ d ∈ docs, d.integral = true := by
  obtain ⟨docs, hdocs, hall⟩ := Option.map_eq_some_iff.1 h
  exact ⟨docs, readDocuments_eq_ok_iff.1 (toOption_eq_some_iff.1 hdocs), List.all_eq_true.1 hall⟩

/-! ### The second pass -/

/-- A pass that tells the layout from the text, over what such a pass printed of documents without doubles: it succeeds
and prints the same again, unless the input was lines and the first document that matches is an array. What was printed
then begins as an array does and is taken for one, and the same is printed only where the empty array is all of it. -/
theorem rerun_iff (h : Supplies s r filter schemaText input)
    (h' : Supplies s' r' filter schemaText output) (hauto : r.layout = .auto)
    (hauto' : r'.layout = .auto) (hcount : r.count = false) (hcount' : r'.count = false)
    (hdocs : (detectLayout input).Holds input docs) (hintegral : ∀ d ∈ docs, d.integral = true)
    {outcome : Outcome} (hrun : run s r = .ok outcome) (hresult : outcome.result = .ok output) :
    ∃ groups schema, parseGroups filter = .ok groups ∧
      Option.Rel (fun text s => Schema.parse text = .ok s) schemaText schema ∧
      (detectLayout input = .jsonl → ∀ items, (docs.filter (selects schema groups)).head? = some (.array items) →
        output.toList.head? = some '[' ∧ detectLayout output = .json) ∧
      ∃ outcome', run s' r' = .ok outcome' ∧ (outcome'.result = .ok output ↔
        (detectLayout input = .jsonl → ∀ items,
          (docs.filter (selects schema groups)).head? = some (.array items) →
            docs.filter (selects schema groups) = [.array []])) := by
  obtain ⟨groups, schema, hgroups, hschema⟩ := definition_of_run h hrun hresult
  have hrel := (readSchema_eq_ok_iff h).1 hschema
  obtain ⟨first, hfirst, hprints⟩ := run_of_definition h hgroups hschema
  cases hfirst.symm.trans hrun
  obtain ⟨read, hread, houtput⟩ := (hprints output).1 hresult
  rw [layoutOf_auto hauto] at hread houtput
  rw [hread.unique hdocs, hcount] at houtput
  obtain ⟨outcome', hrun', hprints'⟩ := run_of_definition h' hgroups ((readSchema_eq_ok_iff h').2 hrel)
  refine ⟨groups, schema, hgroups, hrel, fun hlines items hitems => ?_, outcome', hrun', ?_⟩
  · obtain ⟨rest, hrest⟩ := List.head?_eq_some_iff.1 hitems
    rw [hlines, hrest] at houtput
    obtain ⟨more, hmore⟩ := printed_jsonl_array items rest
    rw [houtput, hmore]
    exact ⟨rfl, detectLayout_printed_array items rest⟩
  have hsubset : ∀ d ∈ docs.filter (selects schema groups), d ∈ docs :=
    fun d hd => List.mem_of_mem_filter hd
  have hkeep : ∀ d ∈ docs.filter (selects schema groups), selects schema groups d = true :=
    fun d hd => List.of_mem_filter hd
  rw [hprints', layoutOf_auto hauto', hcount']
  exact reprinted_iff (hdocs.kept.of_subset hsubset) (detectLayout_ne_auto input)
    (fun d hd => hintegral d (hsubset d hd)) hkeep houtput

/-- An array of documents, an array first among those that match. -/
theorem rerun_iff_array :
    let r : Request := ⟨"filter", none, false, .auto, 0, none⟩
    let input := "[[2],[1],\x7b\"0\":1\x7d]"
    let output := "[\n  [\n    1\n  ],\n  \x7b\n    \"0\": 1\n  \x7d\n]\n"
    r.layout = .auto ∧ r.count = false ∧ Supplies (.given zeroIsOne input) r zeroIsOne none input ∧
      Supplies (.given zeroIsOne output) r zeroIsOne none output ∧
      (∃ docs, (detectLayout input).Holds input docs ∧ ∀ d ∈ docs, d.integral = true) ∧
      (∃ outcome, run (.given zeroIsOne input) r = .ok outcome ∧ outcome.result = .ok output) ∧
      ∃ outcome, run (.given zeroIsOne output) r = .ok outcome ∧ outcome.result = .ok output := by
  intro r input output
  have hinput := supplies_given zeroIsOne input
  have houtput := supplies_given zeroIsOne output
  obtain ⟨docs, hdocs, hintegral⟩ :
      ∃ docs, (detectLayout input).Holds input docs ∧ ∀ d ∈ docs, d.integral = true :=
    exists_integral (by decide +kernel)
  obtain ⟨outcome, hrun, hresult⟩ :
      ∃ outcome, run (.given zeroIsOne input) r = .ok outcome ∧ outcome.result = .ok output :=
    exists_outcome (by decide +kernel)
  obtain ⟨groups, schema, -, -, -, outcome', hrun', hagain⟩ :=
    rerun_iff hinput houtput rfl rfl rfl rfl hdocs hintegral hrun hresult
  have hlayout : detectLayout input ≠ .jsonl := by decide +kernel
  exact ⟨rfl, rfl, hinput, houtput, ⟨docs, hdocs, hintegral⟩, ⟨outcome, hrun, hresult⟩, outcome', hrun',
    hagain.2 fun hlines => absurd hlines hlayout⟩

/-- So it is not the case that a pass over its own output changes nothing: of the lines of an object and of an array
the array alone matches, and what is printed of it is then taken for an array of one document, which does not. -/
theorem rerun_changes : ¬ ∀ (s s' : Sources) (r : Request) (filter : String) (schemaText : Option String)
    (input output : String) (docs : List Document) (outcome : Outcome),
    Supplies s r filter schemaText input → Supplies s' r filter schemaText output →
      r.layout = .auto → r.count = false → (detectLayout input).Holds input docs →
      (∀ d ∈ docs, d.integral = true) → run s r = .ok outcome → outcome.result = .ok output →
      ∃ outcome', run s' r = .ok outcome' ∧ outcome'.result = .ok output := by
  intro h
  let r : Request := ⟨"filter", none, false, .auto, 0, none⟩
  let input := "\x7b\x7d\n[1]\n"
  obtain ⟨docs, hdocs, hintegral⟩ :
      ∃ docs, (detectLayout input).Holds input docs ∧ ∀ d ∈ docs, d.integral = true :=
    exists_integral (by decide +kernel)
  obtain ⟨outcome, hrun, hresult⟩ :
      ∃ outcome, run (.given zeroIsOne input) r = .ok outcome ∧ outcome.result = .ok "[1]\n" :=
    exists_outcome (by decide +kernel)
  obtain ⟨second, hsecond, hempty⟩ :
      ∃ outcome, run (.given zeroIsOne "[1]\n") r = .ok outcome ∧ outcome.result = .ok "[]\n" :=
    exists_outcome (by decide +kernel)
  obtain ⟨outcome', hrun', hsame⟩ := h _ _ r _ _ _ _ docs outcome (supplies_given zeroIsOne input)
    (supplies_given zeroIsOne "[1]\n") rfl rfl hdocs hintegral hrun hresult
  cases hrun'.symm.trans hsecond
  exact absurd (hsame.symm.trans hempty) (by decide)

end Cli

end RuleTree
