import RuleTree.Proofs.Cli.Layouts

/-! Lines and their numbers. A text has one list of lines, blank ones included, and reading documents from lines fails
at the first line that holds something else than one document, which is named by its number in that list. -/

namespace RuleTree

theorem trimLeft_eq_nil_iff {cs : List Char} : trimLeft cs = [] ↔ ∀ c ∈ cs, isBlank c = true :=
  List.dropWhile_eq_nil_iff

/-- Trimming leaves nothing of a blank line, and something of any other. -/
theorem trimBlanks_eq_nil_iff (s : String) : trimBlanks s.toList = [] ↔ allBlank s = true := by
  rw [allBlank, List.all_eq_true, trimBlanks, List.reverse_eq_nil_iff, trimLeft_eq_nil_iff]
  simp only [List.mem_reverse]
  refine ⟨fun h => trimLeft_eq_nil_iff.1 ?_, fun h c hc => h c (List.dropWhile_subset _ hc)⟩
  cases hkept : trimLeft s.toList with
  | nil => rfl
  | cons c rest =>
    -- trimming the front stops at a character that is not blank, which is kept at the end too
    have hkeeps : isBlank c = false := by
      have hhead := List.head?_dropWhile_not isBlank s.toList
      rwa [← trimLeft, hkept] at hhead
    exact absurd (h c (hkept ▸ List.mem_cons_self)) (by rw [hkeeps]; decide)

namespace Cli

open Json

/-! ### The lines of a text -/

/-- The text has these lines. What ends a line is no part of it: a line feed, with the carriage return before it if
there is one, or the end of the text for a last line that is not empty. -/
inductive HasLines : String → List String → Prop
  | none : HasLines "" []
  | unended {line : String} : line ≠ "" → '\n' ∉ line.toList → HasLines line [line]
  | feed {line rest : String} {lines : List String} : '\n' ∉ line.toList → line.toList.getLast? ≠ some '\r' →
      HasLines rest lines → HasLines (line ++ "\n" ++ rest) (line :: lines)
  | returnFeed {line rest : String} {lines : List String} : '\n' ∉ line.toList →
      HasLines rest lines → HasLines (line ++ "\r" ++ "\n" ++ rest) (line :: lines)

theorem feedParts_line {line : String} (h : '\n' ∉ line.toList) : feedParts line = [line] := by
  have hparts := feedParts_intercalate (List.forall_mem_singleton.2 h) (List.cons_ne_nil line [])
  rwa [String.intercalate_singleton] at hparts

theorem inputLines_line {line : String} (h : '\n' ∉ line.toList) :
    inputLines line = if line = "" then [] else [line] := by
  have hparts : feedParts line = [] ++ [line] := feedParts_line h
  exact inputLines_eq hparts

theorem inputLines_append {line : String} (h : '\n' ∉ line.toList) (rest : String) :
    inputLines (line ++ "\n" ++ rest) = dropReturn line :: inputLines rest := by
  rcases List.eq_nil_or_concat (feedParts rest) with hnil | ⟨ended, last, hparts⟩
  · have hsplit := map_toList_feedParts rest
    rw [hnil] at hsplit
    exact absurd hsplit.symm (List.splitOn_ne_nil _ _)
  · rw [List.concat_eq_append] at hparts
    have hall : feedParts (line ++ "\n" ++ rest) = (line :: ended) ++ [last] := by
      rw [feedParts_append, feedParts_line h, hparts]
      rfl
    rw [inputLines_eq hall, inputLines_eq hparts]
    rfl

theorem dropReturn_return (line : String) : dropReturn (line ++ "\r") = line := by
  have hreturn : "\r".toList = ['\r'] := rfl
  rw [dropReturn, String.toList_append, hreturn, List.getLast?_concat, if_pos rfl, List.dropLast_concat,
    String.ofList_toList]

theorem dropReturn_of_ne {line : String} (h : line.toList.getLast? ≠ some '\r') : dropReturn line = line := by
  rw [dropReturn, if_neg h, String.ofList_toList]

/-- A text is one line without a line feed, or its first line with what stands behind it. -/
theorem exists_first_line (text : String) :
    '\n' ∉ text.toList ∨ ∃ line rest, '\n' ∉ line.toList ∧ text = line ++ "\n" ++ rest := by
  refine or_iff_not_imp_left.2 fun h => ?_
  obtain ⟨cs, more, hcs, hfeed⟩ := List.eq_append_cons_of_mem (not_not.1 h)
  refine ⟨.ofList cs, .ofList more, by rwa [String.toList_ofList], String.toList_injective ?_⟩
  have hline : "\n".toList = ['\n'] := rfl
  rw [hcs, String.toList_append, String.toList_append, hline, String.toList_ofList, String.toList_ofList,
    List.append_assoc, List.singleton_append]

theorem not_mem_append_return {line : String} : '\n' ∉ (line ++ "\r").toList ↔ '\n' ∉ line.toList := by
  have hreturn : "\r".toList = ['\r'] := rfl
  simp [String.toList_append, hreturn]

theorem eq_append_return {line : String} (h : line.toList.getLast? = some '\r') : ∃ kept, line = kept ++ "\r" := by
  obtain ⟨cs, hcs⟩ := List.getLast?_eq_some_iff.1 h
  refine ⟨.ofList cs, String.toList_injective ?_⟩
  rw [hcs, String.toList_append, String.toList_ofList]
  rfl

theorem hasLines_inputLines (text : String) : HasLines text (inputLines text) := by
  induction hlength : text.length using Nat.strong_induction_on generalizing text with
  | _ n ih =>
    rcases exists_first_line text with hfeed | ⟨line, rest, hfeed, rfl⟩
    · rw [inputLines_line hfeed]
      split
      · next hempty => exact hempty ▸ .none
      · next hne => exact .unended hne hfeed
    · have hshorter : rest.length < n := by
        have hline : "\n".length = 1 := rfl
        rw [← hlength, String.length_append, String.length_append]
        omega
      have hrest := ih _ hshorter rest rfl
      rw [inputLines_append hfeed]
      by_cases hreturn : line.toList.getLast? = some '\r'
      · obtain ⟨kept, rfl⟩ := eq_append_return hreturn
        rw [dropReturn_return]
        exact .returnFeed (not_mem_append_return.1 hfeed) hrest
      · rw [dropReturn_of_ne hreturn]
        exact .feed hfeed hreturn hrest

/-- A text has just the lines that are read from it. -/
theorem hasLines_iff {text : String} {lines : List String} : HasLines text lines ↔ lines = inputLines text := by
  constructor
  · intro h
    induction h with
    | none => rfl
    | unended hne hfeed => rw [inputLines_line hfeed, if_neg hne]
    | feed hfeed hreturn _ ih => rw [inputLines_append hfeed, dropReturn_of_ne hreturn, ih]
    | returnFeed hfeed _ ih => rw [inputLines_append (not_mem_append_return.2 hfeed), dropReturn_return, ih]
  · rintro rfl
    exact hasLines_inputLines text

/-! ### The first line that fails -/

/-- The line is not blank and does not hold one document: this fault is found in it. -/
def LineFails (line : String) (f : Fault) : Prop :=
  trimBlanks line.toList ≠ [] ∧ Document.parse line = .error f

theorem readLines_of_fails {line : String} {f : Fault} (h : LineFails line f) (number : Nat) (rest : List String) :
    readLines number (line :: rest) = .error (.badLine number f) := by
  rw [LineFails, ne_eq, trimBlanks_eq_nil_iff] at h
  rw [readLines, if_neg h.1, h.2]

/-- A line that does not fail is counted, whether it has a document or is passed over. -/
theorem readLines_of_not_fails {line : String} (h : ∀ f, ¬ LineFails line f) {number : Nat} {rest : List String}
    {e : PassError} : readLines number (line :: rest) = .error e ↔ readLines (number + 1) rest = .error e := by
  rw [readLines]
  split
  · rfl
  · next hfilled =>
    cases hparse : Document.parse line with
    | error f =>
      rw [← trimBlanks_eq_nil_iff] at hfilled
      exact absurd ⟨hfilled, hparse⟩ (h f)
    | ok d => simp [bind_eq_error_iff, pure, Except.pure]

theorem readLines_eq_error_iff {number : Nat} {lines : List String} {e : PassError} :
    readLines number lines = .error e ↔ ∃ before line after, lines = before ++ line :: after ∧
      (∀ l ∈ before, ∀ f, ¬ LineFails l f) ∧ ∃ f, LineFails line f ∧ e = .badLine (before.length + number) f := by
  induction lines generalizing number with
  | nil => simp [readLines]
  | cons line rest ih =>
    rw [exists_split_cons]
    by_cases hline : ∃ f, LineFails line f
    · obtain ⟨f, hf⟩ := hline
      rw [readLines_of_fails hf]
      constructor
      · intro he
        cases he
        exact .inl ⟨List.forall_mem_nil _, f, hf, by rw [List.length_nil, Nat.zero_add]⟩
      · rintro (⟨-, f', hf', rfl⟩ | ⟨before, bad, after, -, hbefore, -⟩)
        · cases hf.2.symm.trans hf'.2
          rw [List.length_nil, Nat.zero_add]
        · exact absurd hf (hbefore line List.mem_cons_self f)
    · have hline : ∀ f, ¬ LineFails line f := not_exists.1 hline
      rw [readLines_of_not_fails hline, ih]
      simp only [hline, false_and, exists_false, and_false, false_or, List.forall_mem_cons, not_false_eq_true,
        implies_true, true_and, List.length_cons, Nat.add_assoc, Nat.add_comm 1]

/-- The parts of a text between its line ends are its only lines. Reading documents from them fails if and only if some
line is neither blank nor one document, and then names the first such line by its number, which counts blank lines too;
otherwise the documents are those of the lines that are not blank, in order. -/
theorem readDocuments_numbers (input : String) :
    ∃ lines, (∀ ls, HasLines input ls ↔ ls = lines) ∧
      ((∃ e, readDocuments .jsonl input = .error e) ↔ ∃ line ∈ lines, ∃ f, LineFails line f) ∧
      (∀ e, readDocuments .jsonl input = .error e ↔ ∃ before line after, lines = before ++ line :: after ∧
        (∀ l ∈ before, ∀ f, ¬ LineFails l f) ∧ ∃ f, LineFails line f ∧ e = .badLine (before.length + 1) f ∧
          e.message = "invalid JSON on line " ++ toString (before.length + 1) ++ ": " ++ f.message) ∧
      ∀ docs, readDocuments .jsonl input = .ok docs ↔
        List.Forall₂ (fun line d => Document.parse line = .ok d)
          (lines.filter fun line => trimBlanks line.toList ≠ []) docs := by
  have hread : readDocuments .jsonl input = readLines 1 (inputLines input) := rfl
  have hfilled : (fun line : String => decide (trimBlanks line.toList ≠ [])) = fun line => !allBlank line := by
    funext line
    simp [trimBlanks_eq_nil_iff]
  refine ⟨inputLines input, fun ls => hasLines_iff, ⟨?_, ?_⟩, fun e => ?_, fun docs => ?_⟩
  · rintro ⟨e, he⟩
    rw [hread, readLines_eq_error_iff] at he
    obtain ⟨before, line, after, hsplit, -, f, hf, -⟩ := he
    exact ⟨line, hsplit ▸ List.mem_append_right _ List.mem_cons_self, f, hf⟩
  · rintro ⟨line, hline, f, hfills, hf⟩
    cases hresult : readDocuments .jsonl input with
    | error e => exact ⟨e, rfl⟩
    | ok docs =>
      rw [hread, readLines_eq_ok_iff, ← hfilled] at hresult
      obtain ⟨d, -, hd⟩ := forall₂_mem_right hresult.flip (List.mem_filter.2 ⟨hline, decide_eq_true hfills⟩)
      cases hf.symm.trans hd
  · rw [hread, readLines_eq_error_iff]
    constructor
    · rintro ⟨before, line, after, hsplit, hbefore, f, hf, rfl⟩
      exact ⟨before, line, after, hsplit, hbefore, f, hf, rfl, rfl⟩
    · rintro ⟨before, line, after, hsplit, hbefore, f, hf, he, -⟩
      exact ⟨before, line, after, hsplit, hbefore, f, hf, he⟩
  · rw [hread, hfilled]
    exact readLines_eq_ok_iff

/-- Blank lines before a fault are counted, and faults behind it are not looked for. -/
example : ((readDocuments .jsonl "\n[1]\r\n \t\n[1\n\n2 3").mapError PassError.message).map List.length =
    .error "invalid JSON on line 4: EOF while parsing a list at line 1 column 2" := by
  decide +kernel

end Cli

end RuleTree
