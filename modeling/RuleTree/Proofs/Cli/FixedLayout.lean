import RuleTree.Proofs.Cli.Rerun
import RuleTree.Proofs.Json.Accepted

/-! A pass over its own output where the layout is asked for, and is not told from the text. Without doubles among the
documents such a pass finds in what it printed the documents that it kept, and prints the same again. -/

namespace RuleTree.Cli

open Json

variable {layout : Layout} {input output : String} {docs : List Document}

/-! ### Documents as they stand in the text -/

/-- The input in this layout spells these documents: their objects have all members that stand in the text, in the
order of the text. -/
def Layout.Spells (layout : Layout) (input : String) (raws : List Document) : Prop :=
  match layout with
  | .json => SpellsText input.toList (.array raws)
  | _ => List.Forall₂ (fun line raw => SpellsText line.toList raw)
      ((inputLines input).filter fun line => !allBlank line) raws

/-- The documents of an input are those that it spells, with the members of their objects in the order of the keys and
the last one of each key. -/
theorem Layout.Holds.spells (h : layout.Holds input docs) :
    ∃ raws, layout.Spells input raws ∧ docs = raws.map Document.sorted := by
  have hlines : ∀ {lines : List String} {docs : List Document},
      List.Forall₂ (fun line d => Document.parse line = .ok d) lines docs →
        ∃ raws, List.Forall₂ (fun line raw => SpellsText line.toList raw) lines raws ∧
          docs = raws.map Document.sorted := by
    intro lines docs hdocs
    induction hdocs with
    | nil => exact ⟨[], .nil, rfl⟩
    | cons hline _ ih =>
      obtain ⟨raw, hraw, -, rfl⟩ := Document.parse_eq_ok_iff_spells.1 hline
      obtain ⟨raws, hraws, rfl⟩ := ih
      exact ⟨raw :: raws, .cons hraw hraws, rfl⟩
  cases layout with
  | json =>
    obtain ⟨raw, hraw, -, hsorted⟩ := Document.parse_eq_ok_iff_spells.1 h
    cases raw with
    | array raws =>
      rw [Document.sorted, Document.sortedItems_eq_map] at hsorted
      cases hsorted
      exact ⟨raws, hraw, rfl⟩
    | _ => cases hsorted
  | auto | jsonl => exact hlines h

/-! ### The second pass -/

variable {s s' : Sources} {r r' : Request} {filter : String} {schemaText : Option String}

/-- A pass in a layout that is asked for, over what such a pass printed of documents without doubles: it succeeds and
prints the same again. What was printed has, in that layout, the documents of the input that matched, each with the
members of its objects in the order of the keys and the last one of each key. -/
theorem rerun_fixed (h : Supplies s r filter schemaText input) (h' : Supplies s' r' filter schemaText output)
    (hauto : r.layout ≠ .auto) (hlayout : r'.layout = r.layout) (hcount : r.count = false)
    (hcount' : r'.count = false) (hdocs : r.layout.Holds input docs) (hintegral : ∀ d ∈ docs, d.integral = true)
    {outcome : Outcome} (hrun : run s r = .ok outcome) (hresult : outcome.result = .ok output) :
    ∃ groups schema raws, parseGroups filter = .ok groups ∧
      Option.Rel (fun text s => Schema.parse text = .ok s) schemaText schema ∧
      r.layout.Spells input raws ∧ docs = raws.map Document.sorted ∧
      r.layout.Holds output (docs.filter (selects schema groups)) ∧
      ∃ outcome', run s' r' = .ok outcome' ∧ outcome'.result = .ok output := by
  obtain ⟨groups, schema, hgroups, hschema⟩ := definition_of_run h hrun hresult
  have hrel := (readSchema_eq_ok_iff h).1 hschema
  obtain ⟨raws, hraws, hsorted⟩ := hdocs.spells
  obtain ⟨first, hfirst, hprints⟩ := run_of_definition h hgroups hschema
  cases hfirst.symm.trans hrun
  obtain ⟨read, hread, houtput⟩ := (hprints output).1 hresult
  rw [layoutOf_of_ne_auto hauto] at hread houtput
  rw [hread.unique hdocs, hcount] at houtput
  -- all that is printed was kept, and is kept again
  have hsubset : ∀ d ∈ docs.filter (selects schema groups), d ∈ docs :=
    fun d hd => List.mem_of_mem_filter hd
  have hagain : r.layout.Holds output (docs.filter (selects schema groups)) :=
    houtput ▸ (hdocs.kept.of_subset hsubset).holds_printed hauto fun d hd => hintegral d (hsubset d hd)
  obtain ⟨outcome', hrun', hprints'⟩ := run_of_definition h' hgroups ((readSchema_eq_ok_iff h').2 hrel)
  refine ⟨groups, schema, raws, hgroups, hrel, hraws, hsorted, hagain, outcome', hrun', ?_⟩
  rw [hprints', layoutOf_of_ne_auto (hlayout ▸ hauto), hlayout, hcount']
  refine ⟨_, hagain, ?_⟩
  rw [List.filter_filter]
  simpa using houtput

/-- Lines whose first document that matches is an array, and an object that has a key twice. -/
theorem rerun_fixed_array :
    let r : Request := ⟨"filter", none, false, .jsonl, 0, none⟩
    let input := "\x7b\x7d\n[1]\n\x7b\"1\":2,\"0\":2,\"0\":1\x7d\n"
    let output := "[1]\n\x7b\"0\":1,\"1\":2\x7d\n"
    r.layout ≠ .auto ∧ r.count = false ∧ Supplies (.given zeroIsOne input) r zeroIsOne none input ∧
      Supplies (.given zeroIsOne output) r zeroIsOne none output ∧
      (∃ docs, r.layout.Holds input docs ∧ ∀ d ∈ docs, d.integral = true) ∧
      (∃ outcome, run (.given zeroIsOne input) r = .ok outcome ∧ outcome.result = .ok output) ∧
      ∃ outcome, run (.given zeroIsOne output) r = .ok outcome ∧ outcome.result = .ok output := by
  intro r input output
  have hinput := Sources.given_supplies zeroIsOne input .jsonl
  have houtput := Sources.given_supplies zeroIsOne output .jsonl
  obtain ⟨docs, hdocs, hintegral⟩ : ∃ docs, r.layout.Holds input docs ∧ ∀ d ∈ docs, d.integral = true :=
    exists_integral (by decide +kernel)
  obtain ⟨outcome, hrun, hresult⟩ :
      ∃ outcome, run (.given zeroIsOne input) r = .ok outcome ∧ outcome.result = .ok output :=
    exists_outcome (by decide +kernel)
  obtain ⟨-, -, -, -, -, -, -, -, outcome', hrun', hagain⟩ :=
    rerun_fixed hinput houtput nofun rfl rfl rfl hdocs hintegral hrun hresult
  exact ⟨nofun, rfl, hinput, houtput, ⟨docs, hdocs, hintegral⟩, ⟨outcome, hrun, hresult⟩, outcome', hrun', hagain⟩

end RuleTree.Cli
