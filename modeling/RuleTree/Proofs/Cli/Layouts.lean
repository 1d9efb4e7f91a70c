import RuleTree.Proofs.Cli.Rerun
import RuleTree.Proofs.Json.Accepted
import RuleTree.Proofs.Text.Parts

/-! One input in two layouts. Texts on lines, with blank lines between them and carriage returns behind them, have the
documents that the texts have as the items of one array, so that a pass keeps the same documents of both. -/

namespace RuleTree

open Json

/-! ### Blank lines -/

/-- A spelling begins with a character that is not white space. -/
theorem Json.Spells.head_not_blank {t : List Char} {d : Document} (h : Spells t d) :
    ∃ ch more, t = ch :: more ∧ isBlank ch = false := by
  cases h with
  | null | yes | no | text | array | object => exact ⟨_, _, rfl, rfl⟩
  | number hn =>
    obtain ⟨ch, more, rfl, hnumeral, -⟩ := hn.numeral_head
    exact ⟨ch, more, rfl, isBlank_of_numeral hnumeral⟩

theorem Json.Document.allBlank_of_parse {text : String} {d : Document} (h : Document.parse text = .ok d) :
    allBlank text = false := by
  obtain ⟨raw, ⟨ws, t, ws', htext, -, -, hspells⟩, -⟩ := Document.parse_eq_ok_iff_spells.1 h
  obtain ⟨ch, more, rfl, hblank⟩ := hspells.head_not_blank
  simp [allBlank, htext, hblank]

namespace Cli

/-! ### Lines -/

/-- The lines hold the texts in their order, one each and perhaps a carriage return behind it, with blank lines
anywhere between them. -/
inductive LinesOf : List String → List String → Prop
  | nil : LinesOf [] []
  | blank {texts lines : List String} {line : String} :
      allBlank line = true → LinesOf texts lines → LinesOf texts (line :: lines)
  | text {texts lines : List String} {text line : String} :
      line = text ∨ line = text ++ "\r" → LinesOf texts lines → LinesOf (text :: texts) (line :: lines)

/-- The lines that are not blank have the documents. -/
def LinesRead (lines : List String) (docs : List Document) : Prop :=
  List.Forall₂ (fun line d => Document.parse line = .ok d) (lines.filter fun line => !allBlank line) docs

theorem blank_return : Blank ['\r'] := List.forall_mem_singleton.2 rfl

theorem linesRead_blank {line : String} {lines : List String} {docs : List Document}
    (h : allBlank line = true) : LinesRead (line :: lines) docs ↔ LinesRead lines docs := by
  rw [LinesRead, List.filter_cons_of_neg (by simp [h]), LinesRead]

theorem linesRead_text {line : String} {lines : List String} {d : Document} {docs : List Document}
    (h : Document.parse line = .ok d) : LinesRead (line :: lines) (d :: docs) ↔ LinesRead lines docs := by
  rw [LinesRead, List.filter_cons_of_pos (by simp [Document.allBlank_of_parse h]), List.forall₂_cons]
  exact and_iff_right h

theorem LinesOf.read {texts lines : List String} {docs : List Document} (h : LinesOf texts lines)
    (hdocs : List.Forall₂ (fun text d => Document.parse text = .ok d) texts docs) : LinesRead lines docs := by
  induction h generalizing docs with
  | nil => exact hdocs
  | blank hline _ ih => exact (linesRead_blank hline).2 (ih hdocs)
  | text hline _ ih =>
    cases hdocs with
    | cons htext hrest =>
      refine (linesRead_text ?_).2 (ih hrest)
      obtain rfl | rfl := hline
      · exact htext
      · exact (Document.parse_append_space blank_return (String.toList_append ..)).2 htext

/-- The line without the carriage return at its end, if there is one. -/
def dropReturn (line : String) : String :=
  .ofList (if line.toList.getLast? = some '\r' then line.toList.dropLast else line.toList)

theorem dropReturn_cases (line : String) :
    line.toList = (dropReturn line).toList ++ ['\r'] ∨ dropReturn line = line := by
  unfold dropReturn
  split
  · next h =>
    left
    rw [String.toList_ofList, List.dropLast_append_getLast? '\r' h]
  · exact .inr String.ofList_toList

theorem parse_dropReturn (line : String) (d : Document) :
    Document.parse (dropReturn line) = .ok d ↔ Document.parse line = .ok d := by
  rcases dropReturn_cases line with h | h
  · exact (Document.parse_append_space blank_return h).symm
  · rw [h]

theorem allBlank_dropReturn (line : String) : allBlank (dropReturn line) = allBlank line := by
  rcases dropReturn_cases line with h | h
  · have hreturn : isBlank '\r' = true := rfl
    simp [allBlank, h, hreturn]
  · rw [h]

/-- Lines are read alike without their carriage returns. -/
theorem linesRead_dropReturn (lines rest : List String) (docs : List Document) :
    LinesRead (lines.map dropReturn ++ rest) docs ↔ LinesRead (lines ++ rest) docs := by
  induction lines generalizing docs with
  | nil => rfl
  | cons line lines ih =>
    rw [List.map_cons, List.cons_append, List.cons_append, LinesRead, LinesRead, List.filter_cons,
      List.filter_cons, allBlank_dropReturn]
    split
    · rw [List.forall₂_cons_left_iff, List.forall₂_cons_left_iff]
      refine exists_congr fun d => exists_congr fun others => ?_
      exact and_congr (parse_dropReturn line d) (and_congr_left' (ih others))
    · exact ih docs

/-- The parts of a text between its line feeds. -/
def feedParts (text : String) : List String := (text.toList.splitOn '\n').map String.ofList

theorem map_toList_feedParts (text : String) :
    (feedParts text).map String.toList = text.toList.splitOn '\n' := by
  simp [feedParts, Function.comp_def]

theorem feedParts_append (first second : String) :
    feedParts (first ++ "\n" ++ second) = feedParts first ++ feedParts second := by
  have hline : "\n".toList = ['\n'] := rfl
  simp only [feedParts, String.toList_append, hline, List.append_assoc, List.singleton_append,
    List.splitOn_append_cons_self, List.map_append]

theorem feedParts_intercalate {lines : List String} (h : ∀ line ∈ lines, '\n' ∉ line.toList) (hlines : lines ≠ []) :
    feedParts ("\n".intercalate lines) = lines :=
  splitOn_intercalate_toList h hlines

/-- The lines of a text are its parts between line feeds: the last one only if something stands in it, and the others
each without the carriage return at its end. -/
theorem inputLines_eq {text last : String} {ended : List String} (h : feedParts text = ended ++ [last]) :
    inputLines text = ended.map dropReturn ++ if last = "" then [] else [last] := by
  have hpieces : text.toList.splitOn '\n' = ended.map String.toList ++ [last.toList] := by
    rw [← map_toList_feedParts, h, List.map_append]
    rfl
  unfold inputLines
  rw [hpieces]
  dsimp only
  rw [List.dropLast_concat, List.getLast?_concat, List.map_append, List.map_map, List.map_map]
  congr 1
  by_cases hlast : last = ""
  · rw [if_pos hlast, hlast]
    rfl
  · obtain ⟨c, cs, hcs⟩ := List.exists_cons_of_ne_nil fun h => hlast (String.toList_eq_nil_iff.1 h)
    rw [if_neg hlast, hcs]
    simp [← hcs]

theorem linesRead_empty_last (lines : List String) (docs : List Document) :
    LinesRead (lines ++ [""]) docs ↔ LinesRead lines docs := by
  have hblank : [""].filter (fun line => !allBlank line) = [] := rfl
  rw [LinesRead, List.filter_append, hblank, List.append_nil, LinesRead]

/-- A text has the documents of its parts. -/
theorem holds_jsonl_iff {text : String} {docs : List Document} :
    Layout.jsonl.Holds text docs ↔ LinesRead (feedParts text) docs := by
  rcases List.eq_nil_or_concat (feedParts text) with hnil | ⟨ended, last, hparts⟩
  · have hsplit := map_toList_feedParts text
    rw [hnil] at hsplit
    exact absurd hsplit.symm (List.splitOn_ne_nil _ _)
  · rw [List.concat_eq_append] at hparts
    change LinesRead (inputLines text) docs ↔ _
    rw [inputLines_eq hparts, linesRead_dropReturn, hparts]
    split
    · next hempty => rw [hempty, List.append_nil, linesRead_empty_last]
    · rfl

/-- Lines that a line feed separates are read, each without the carriage return at its end. -/
theorem holds_lines {lines : List String} {docs : List Document} (hfeed : ∀ line ∈ lines, '\n' ∉ line.toList)
    (h : LinesRead lines docs) : Layout.jsonl.Holds ("\n".intercalate lines) docs := by
  cases lines with
  | nil => exact h
  | cons line rest =>
    rw [holds_jsonl_iff, feedParts_intercalate hfeed (by simp)]
    exact h

/-! ### Passes over both layouts -/

variable {s s' : Sources} {r r' : Request} {filter : String} {schemaText : Option String}

/-- Texts that nest so deep that one more bracket may stand around them are one input in two layouts: on lines, with
blank lines and carriage returns, and as one array. A pass over either succeeds, keeps the same documents in the same
order, and prints them in its layout or prints their number. -/
theorem run_lines_array {texts lines : List String} {docs : List Document}
    (hlines : LinesOf texts lines) (hfeed : ∀ line ∈ lines, '\n' ∉ line.toList)
    (htexts : List.Forall₂ (ParsesWithin 126) texts docs)
    (h : Supplies s r filter schemaText ("\n".intercalate lines)) (hr : r.layout = .jsonl)
    (h' : Supplies s' r' filter schemaText (writeArray texts)) (hr' : r'.layout = .json)
    {groups : List Group} {schema : Option Schema} (hgroups : parseGroups filter = .ok groups)
    (hschema : Option.Rel (fun text s => Schema.parse text = .ok s) schemaText schema) :
    ∃ outcome outcome', run s r = .ok outcome ∧ run s' r' = .ok outcome' ∧
      outcome.result = .ok (printed r.count .jsonl (docs.filter (selects schema groups))) ∧
      outcome'.result = .ok (printed r'.count .json (docs.filter (selects schema groups))) ∧
      (r.count = true → r'.count = true → outcome.result = outcome'.result) := by
  have hparse : List.Forall₂ (fun text d => Document.parse text = .ok d) texts docs :=
    htexts.imp fun _ _ htext => htext.parse
  have hread : (r.layoutOf ("\n".intercalate lines)).Holds ("\n".intercalate lines) docs := by
    rw [Request.layoutOf, hr]
    exact holds_lines hfeed (hlines.read hparse)
  have hread' : (r'.layoutOf (writeArray texts)).Holds (writeArray texts) docs := by
    rw [Request.layoutOf, hr']
    exact Document.parse_writeArray htexts (by decide)
  obtain ⟨outcome, hrun, hresult⟩ := run_of_definition h hgroups ((readSchema_eq_ok_iff h).2 hschema)
  obtain ⟨outcome', hrun', hresult'⟩ := run_of_definition h' hgroups ((readSchema_eq_ok_iff h').2 hschema)
  have hprints := (hresult _).2 ⟨docs, hread, rfl⟩
  have hprints' := (hresult' _).2 ⟨docs, hread', rfl⟩
  rw [Request.layoutOf, hr] at hprints
  rw [Request.layoutOf, hr'] at hprints'
  refine ⟨outcome, outcome', hrun, hrun', hprints, hprints', fun hcount hcount' => ?_⟩
  rw [hprints, hprints', hcount, hcount']
  rfl

/-- An array, an object that has a key twice, and a number, with a blank line and carriage returns. -/
theorem run_lines_array_returns :
    let texts := ["[1]", "\x7b\"0\":2,\"0\":1\x7d", "2"]
    let lines := ["[1]\r", " ", "\x7b\"0\":2,\"0\":1\x7d", "2\r"]
    let r : Request := ⟨"filter", none, false, .jsonl, 0, none⟩
    let r' : Request := ⟨"filter", none, false, .json, 0, none⟩
    LinesOf texts lines ∧ (∀ line ∈ lines, '\n' ∉ line.toList) ∧
      (∃ docs, List.Forall₂ (ParsesWithin 126) texts docs) ∧
      ∃ outcome outcome', run (.given zeroIsOne ("\n".intercalate lines)) r = .ok outcome ∧
        run (.given zeroIsOne (writeArray texts)) r' = .ok outcome' ∧
        outcome.result = .ok "[1]\n\x7b\"0\":1\x7d\n" ∧
        outcome'.result = .ok "[\n  [\n    1\n  ],\n  \x7b\n    \"0\": 1\n  \x7d\n]\n" := by
  intro texts lines r r'
  let one : Document := .array [.number (.signed 1)]
  let twice : Document := .object [("0", .number (.signed 2)), ("0", .number (.signed 1))]
  let two : Document := .number (.signed 2)
  have hlines : LinesOf texts lines :=
    .text (.inr rfl) (.blank rfl (.text (.inl rfl) (.text (.inr rfl) .nil)))
  have hfeed : ∀ line ∈ lines, '\n' ∉ line.toList := by decide +kernel
  have hwritten : texts = [one.write, twice.write, two.write] := by decide +kernel
  have htexts : List.Forall₂ (ParsesWithin 126) texts [one.sorted, twice.sorted, two.sorted] := by
    rw [hwritten]
    have hlimit : 126 ≤ nestingLimit := by decide
    have hone : one.Whole := ⟨⟨_, isWord_toInt 1, by decide⟩, trivial⟩
    have htwice : twice.Whole := ⟨⟨_, isWord_toInt 2, by decide⟩, ⟨_, isWord_toInt 1, by decide⟩, trivial⟩
    have htwo : two.Whole := ⟨_, isWord_toInt 2, by decide⟩
    exact .cons (Document.parsesWithin_write hone (by decide) hlimit)
      (.cons (Document.parsesWithin_write htwice (by decide) hlimit)
        (.cons (Document.parsesWithin_write htwo (by decide) hlimit) .nil))
  have hread : (parseGroups zeroIsOne).toOption.map (fun groups =>
      let kept := [one.sorted, twice.sorted, two.sorted].filter (selects none groups)
      (printed false .jsonl kept, printed false .json kept)) =
        some ("[1]\n\x7b\"0\":1\x7d\n", "[\n  [\n    1\n  ],\n  \x7b\n    \"0\": 1\n  \x7d\n]\n") := by
    decide +kernel
  obtain ⟨groups, hgroups, hread⟩ := Option.map_eq_some_iff.1 hread
  obtain ⟨hkept, hkept'⟩ := Prod.mk.inj hread
  obtain ⟨outcome, outcome', hrun, hrun', hprints, hprints', -⟩ :=
    run_lines_array hlines hfeed htexts (Sources.given_supplies zeroIsOne _ .jsonl) rfl
      (Sources.given_supplies zeroIsOne _ .json) rfl (toOption_eq_some_iff.1 hgroups) .none
  exact ⟨hlines, hfeed, ⟨_, htexts⟩, outcome, outcome', hrun, hrun', hkept ▸ hprints, hkept' ▸ hprints'⟩

end Cli

end RuleTree
