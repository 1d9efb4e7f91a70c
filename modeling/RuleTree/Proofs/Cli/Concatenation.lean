import RuleTree.Proofs.Cli.Layouts

/-! Inputs one after the other. The documents on the lines of two texts with a line feed between them are those of the
first and then those of the second, whatever the texts end in, so that a pass over lines may be cut at any line feed:
it prints what the passes over both parts print, or the sum of their numbers. -/

namespace RuleTree.Cli

open Json

/-! ### Documents -/

theorem linesRead_append {lines rest : List String} {docs : List Document} :
    LinesRead (lines ++ rest) docs ↔
      ∃ ds ds', LinesRead lines ds ∧ LinesRead rest ds' ∧ docs = ds ++ ds' := by
  simp only [LinesRead, List.filter_append]
  constructor
  · intro h
    have htake := List.forall₂_take (lines.filter fun line => !allBlank line).length h
    have hdrop := List.forall₂_drop (lines.filter fun line => !allBlank line).length h
    rw [List.take_left] at htake
    rw [List.drop_left] at hdrop
    exact ⟨_, _, htake, hdrop, (List.take_append_drop _ docs).symm⟩
  · rintro ⟨ds, ds', hds, hds', rfl⟩
    exact List.rel_append hds hds'

theorem holds_append_iff {first second : String} {docs : List Document} :
    Layout.jsonl.Holds (first ++ "\n" ++ second) docs ↔
      ∃ ds ds', Layout.jsonl.Holds first ds ∧ Layout.jsonl.Holds second ds' ∧ docs = ds ++ ds' := by
  simp only [holds_jsonl_iff, feedParts_append, linesRead_append]

/-! ### What is printed -/

theorem printed_append (matched matched' : List Document) :
    printed false .jsonl (matched ++ matched') = printed false .jsonl matched ++ printed false .jsonl matched' := by
  rw [← String.toList_inj]
  simp only [printed_jsonl, String.toList_append, unlines_toList, List.map_append, List.flatMap_append]

/-- What passes over two parts print, put together: one after the other, or the sum of the numbers. -/
def PrintedTogether (count : Bool) (output first second : String) : Prop :=
  if count then ∃ n m : Nat, first = toString n ++ "\n" ∧ second = toString m ++ "\n" ∧
    output = toString (n + m) ++ "\n"
  else output = first ++ second

theorem printedTogether_printed (count : Bool) (matched matched' : List Document) :
    PrintedTogether count (printed count .jsonl (matched ++ matched')) (printed count .jsonl matched)
      (printed count .jsonl matched') := by
  cases count with
  | true =>
    refine ⟨matched.length, matched'.length, rfl, rfl, ?_⟩
    rw [← List.length_append]
    rfl
  | false => exact printed_append matched matched'

/-! ### Passes -/

variable {s s₁ s₂ : Sources} {r r₁ r₂ : Request} {filter first second : String} {schemaText : Option String}

/-- What a pass over lines prints, once the filter and the schema are read. -/
theorem run_lines_of_definition {input : String} (h : Supplies s r filter schemaText input) (hr : r.layout = .jsonl)
    {groups : List Group} (hgroups : parseGroups filter = .ok groups) {schema : Option Schema}
    (hschema : Option.Rel (fun text s => Schema.parse text = .ok s) schemaText schema) :
    ∃ outcome, run s r = .ok outcome ∧ ∀ output, outcome.result = .ok output ↔
      ∃ docs, Layout.jsonl.Holds input docs ∧
        output = printed r.count .jsonl (docs.filter (selects schema groups)) := by
  have hrun := run_of_definition h hgroups ((readSchema_eq_ok_iff h).2 hschema)
  rwa [layoutOf_of_ne_auto (by simp [hr]), hr] at hrun

/-- Without a filter and its schema no pass prints anything. -/
theorem result_ne_ok {input output : String} (h : Supplies s r filter schemaText input)
    (hread : ¬ ∃ groups schema, parseGroups filter = .ok groups ∧
      Option.Rel (fun text s => Schema.parse text = .ok s) schemaText schema)
    {outcome : Outcome} (hrun : run s r = .ok outcome) : outcome.result ≠ .ok output := by
  intro hresult
  obtain ⟨groups, schema, hgroups, hschema⟩ := definition_of_run h hrun hresult
  exact hread ⟨groups, schema, hgroups, (readSchema_eq_ok_iff h).1 hschema⟩

/-- A pass over the lines of two texts with a line feed between them succeeds if and only if the passes over each of
the texts do, and prints what they print, one after the other, or the sum of the numbers that they print. -/
theorem run_lines_append (h : Supplies s r filter schemaText (first ++ "\n" ++ second))
    (h₁ : Supplies s₁ r₁ filter schemaText first) (h₂ : Supplies s₂ r₂ filter schemaText second)
    (hr : r.layout = .jsonl) (hr₁ : r₁.layout = .jsonl) (hr₂ : r₂.layout = .jsonl)
    (hcount₁ : r₁.count = r.count) (hcount₂ : r₂.count = r.count) :
    ∃ outcome outcome₁ outcome₂, run s r = .ok outcome ∧ run s₁ r₁ = .ok outcome₁ ∧ run s₂ r₂ = .ok outcome₂ ∧
      ((∃ output, outcome.result = .ok output) ↔
        (∃ output, outcome₁.result = .ok output) ∧ ∃ output, outcome₂.result = .ok output) ∧
      ∀ output₁ output₂, outcome₁.result = .ok output₁ → outcome₂.result = .ok output₂ →
        ∃ output, outcome.result = .ok output ∧ PrintedTogether r.count output output₁ output₂ := by
  by_cases hread : ∃ groups schema, parseGroups filter = .ok groups ∧
      Option.Rel (fun text s => Schema.parse text = .ok s) schemaText schema
  · obtain ⟨groups, schema, hgroups, hschema⟩ := hread
    obtain ⟨outcome, hrun, hresult⟩ := run_lines_of_definition h hr hgroups hschema
    obtain ⟨outcome₁, hrun₁, hresult₁⟩ := run_lines_of_definition h₁ hr₁ hgroups hschema
    obtain ⟨outcome₂, hrun₂, hresult₂⟩ := run_lines_of_definition h₂ hr₂ hgroups hschema
    rw [hcount₁] at hresult₁
    rw [hcount₂] at hresult₂
    -- both parts have documents, and then the whole has those of the first and those of the second
    have htogether : ∀ output₁ output₂, outcome₁.result = .ok output₁ → outcome₂.result = .ok output₂ →
        ∃ output, outcome.result = .ok output ∧ PrintedTogether r.count output output₁ output₂ := by
      intro output₁ output₂ houtput₁ houtput₂
      obtain ⟨ds, hds, rfl⟩ := (hresult₁ output₁).1 houtput₁
      obtain ⟨ds', hds', rfl⟩ := (hresult₂ output₂).1 houtput₂
      refine ⟨_, (hresult _).2 ⟨ds ++ ds', holds_append_iff.2 ⟨ds, ds', hds, hds', rfl⟩, rfl⟩, ?_⟩
      rw [List.filter_append]
      exact printedTogether_printed ..
    refine ⟨outcome, outcome₁, outcome₂, hrun, hrun₁, hrun₂, ⟨?_, ?_⟩, htogether⟩
    · rintro ⟨output, houtput⟩
      obtain ⟨docs, hdocs, -⟩ := (hresult output).1 houtput
      obtain ⟨ds, ds', hds, hds', -⟩ := holds_append_iff.1 hdocs
      exact ⟨⟨_, (hresult₁ _).2 ⟨ds, hds, rfl⟩⟩, ⟨_, (hresult₂ _).2 ⟨ds', hds', rfl⟩⟩⟩
    · rintro ⟨⟨output₁, houtput₁⟩, ⟨output₂, houtput₂⟩⟩
      obtain ⟨output, houtput, -⟩ := htogether output₁ output₂ houtput₁ houtput₂
      exact ⟨output, houtput⟩
  · obtain ⟨outcome, hrun⟩ := exists_run s r
    obtain ⟨outcome₁, hrun₁⟩ := exists_run s₁ r₁
    obtain ⟨outcome₂, hrun₂⟩ := exists_run s₂ r₂
    refine ⟨outcome, outcome₁, outcome₂, hrun, hrun₁, hrun₂, ⟨?_, ?_⟩, ?_⟩
    · rintro ⟨output, houtput⟩
      exact absurd houtput (result_ne_ok h hread hrun)
    · rintro ⟨⟨output, houtput⟩, -⟩
      exact absurd houtput (result_ne_ok h₁ hread hrun₁)
    · intro output₁ _ houtput₁
      exact absurd houtput₁ (result_ne_ok h₁ hread hrun₁)

/-- A text that ends in a carriage return, and one that begins with a blank line. -/
theorem run_lines_append_return :
    let first := "[1]\r"
    let second := " \n[2]\n[1,3]\n"
    let r : Request := ⟨"filter", none, false, .jsonl, 0, none⟩
    let given := Sources.given zeroIsOne
    Supplies (given (first ++ "\n" ++ second)) r zeroIsOne none (first ++ "\n" ++ second) ∧
      Supplies (given first) r zeroIsOne none first ∧ Supplies (given second) r zeroIsOne none second ∧
      (∃ outcome₁, run (given first) r = .ok outcome₁ ∧ outcome₁.result = .ok "[1]\n") ∧
      (∃ outcome₂, run (given second) r = .ok outcome₂ ∧ outcome₂.result = .ok "[1,3]\n") ∧
      ∃ outcome, run (given (first ++ "\n" ++ second)) r = .ok outcome ∧
        outcome.result = .ok ("[1]\n" ++ "[1,3]\n") := by
  intro first second r given
  have h := Sources.given_supplies zeroIsOne (first ++ "\n" ++ second) .jsonl
  have h₁ := Sources.given_supplies zeroIsOne first .jsonl
  have h₂ := Sources.given_supplies zeroIsOne second .jsonl
  obtain ⟨outcome₁, hrun₁, hone⟩ : ∃ outcome₁, run (given first) r = .ok outcome₁ ∧
      outcome₁.result = .ok "[1]\n" := exists_outcome (by decide +kernel)
  obtain ⟨outcome₂, hrun₂, htwo⟩ : ∃ outcome₂, run (given second) r = .ok outcome₂ ∧
      outcome₂.result = .ok "[1,3]\n" := exists_outcome (by decide +kernel)
  refine ⟨h, h₁, h₂, ⟨outcome₁, hrun₁, hone⟩, ⟨outcome₂, hrun₂, htwo⟩, ?_⟩
  obtain ⟨outcome, _, _, hrun, hfirst, hsecond, -, htogether⟩ :=
    run_lines_append h h₁ h₂ rfl rfl rfl rfl rfl
  cases hfirst.symm.trans hrun₁
  cases hsecond.symm.trans hrun₂
  obtain ⟨output, houtput, hprinted⟩ := htogether _ _ hone htwo
  exact ⟨outcome, hrun, hprinted ▸ houtput⟩

end RuleTree.Cli
