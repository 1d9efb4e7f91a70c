import RuleTree.Cli.Pass
import RuleTree.Proofs.Json.Printable

/-! Lines and layouts of an input. Lines that were each ended by a line feed are read as they were, and the layout of
an input is told by its first character, so that documents on lines of their own look like one array exactly when the
first of them is an array. -/

namespace RuleTree

open Json

/-! ### First characters -/

theorem isBlank_of_numeral {c : Char} (h : c = '-' ∨ c.isDigit = true) : isBlank c = false := by
  rcases h with rfl | h
  · rfl
  · simp only [Char.isDigit, Bool.and_eq_true, decide_eq_true_eq, UInt32.le_iff_toNat_le] at h
    have hlow : 48 ≤ c.toNat := h.1
    have hhigh : c.toNat ≤ 57 := h.2
    simp only [isBlank, Bool.or_eq_false_iff, Bool.and_eq_false_iff, decide_eq_false_iff_not,
      beq_eq_false_iff_ne]
    omega

theorem Json.writeArray_head (parts : List String) : ∃ more, (writeArray parts).toList = '[' :: more := by
  cases parts with
  | nil => exact ⟨_, rfl⟩
  | cons p rest => exact ⟨_, writeArray_cons p rest⟩

theorem Json.writeObject_head (ms : List (String × String)) :
    ∃ more, (writeObject ms).toList = '\x7b' :: more := by
  cases ms with
  | nil => exact ⟨_, rfl⟩
  | cons m rest => exact ⟨_, writeObject_cons m.1 m.2 rest⟩

/-- Only an array is written with a bracket in front. -/
theorem Json.Document.write_head (d : Document) : ∃ c more, d.write.toList = c :: more ∧
    isBlank c = false ∧ c ≠ ']' ∧ (c = '[' ↔ ∃ items, d = .array items) := by
  cases d with
  | null => exact ⟨'n', _, rfl, rfl, by decide, by simp⟩
  | flag b =>
    cases b with
    | false => exact ⟨'f', _, rfl, rfl, by decide, by simp⟩
    | true => exact ⟨'t', _, rfl, rfl, by decide, by simp⟩
  | number n =>
    by_cases hfinite : n.finite = true
    · obtain ⟨c, more, hc, hnumeral⟩ := (numeral_reread hfinite).head
      refine ⟨c, more, hc, isBlank_of_numeral hnumeral, ?_, ?_⟩
      · rintro rfl
        revert hnumeral
        decide
      · simp only [reduceCtorEq, exists_false, iff_false]
        rintro rfl
        revert hnumeral
        decide
    · cases n with
      | signed | unsigned => exact absurd rfl hfinite
      | real x =>
        have hreal : ¬ x.isFinite = true := hfinite
        rw [Document.write, writeNumber, if_neg hreal]
        exact ⟨'n', _, rfl, rfl, by decide, by simp⟩
  | text s => exact ⟨'"', _, writeText_toList s, rfl, by decide, by simp⟩
  | array items =>
    obtain ⟨more, hmore⟩ := writeArray_head (Document.writeItems items)
    exact ⟨'[', more, hmore, rfl, by decide, by simp⟩
  | object ms =>
    obtain ⟨more, hmore⟩ := writeObject_head (Document.writeMembers ms)
    exact ⟨'\x7b', more, hmore, rfl, by decide, by simp⟩

theorem Json.Document.allBlank_write (d : Document) : allBlank d.write = false := by
  obtain ⟨c, more, hc, hblank, -⟩ := d.write_head
  rw [allBlank, hc, List.all_cons, hblank]
  rfl

namespace Cli

/-! ### Lines -/

theorem splitOn_ended {lines : List (List Char)} (h : ∀ line ∈ lines, '\n' ∉ line) :
    (lines.flatMap (· ++ ['\n'])).splitOn '\n' = lines ++ [[]] := by
  induction lines with
  | nil => rfl
  | cons line rest ih =>
    obtain ⟨hline, hrest⟩ := List.forall_mem_cons.1 h
    rw [List.flatMap_cons, List.append_assoc, List.singleton_append,
      List.splitOn_append_cons_self_of_not_mem hline, ih hrest, List.cons_append]

/-- Each on a line of its own. -/
def unlines (lines : List String) : String := String.join (lines.map fun line => line ++ "\n")

theorem unlines_toList (lines : List String) :
    (unlines lines).toList = (lines.map String.toList).flatMap (· ++ ['\n']) := by
  have hline : "\n".toList = ['\n'] := rfl
  simp only [unlines, String.toList_join, List.flatMap_map, String.toList_append, hline]

/-- Lines of printable characters are read as they were. -/
theorem inputLines_unlines {lines : List String} (h : ∀ line ∈ lines, Printable line.toList) :
    inputLines (unlines lines) = lines := by
  have hfeed : ∀ cs ∈ lines.map String.toList, '\n' ∉ cs := by
    intro cs hcs hmem
    obtain ⟨line, hline, rfl⟩ := List.mem_map.1 hcs
    exact absurd (h line hline _ hmem) (by decide)
  have hreturn : ∀ cs ∈ lines.map String.toList, cs.getLast? ≠ some '\r' := by
    intro cs hcs hlast
    obtain ⟨line, hline, rfl⟩ := List.mem_map.1 hcs
    exact absurd (h line hline _ (List.mem_of_getLast? hlast)) (by decide)
  have hkeep : (lines.map String.toList).map (fun cs =>
      if cs.getLast? = some '\r' then cs.dropLast else cs) = (lines.map String.toList).map id :=
    List.map_congr_left fun cs hcs => if_neg (hreturn cs hcs)
  unfold inputLines
  rw [unlines_toList, splitOn_ended hfeed]
  dsimp only
  rw [List.dropLast_concat, List.getLast?_concat, hkeep]
  simp [List.map_map, Function.comp_def]

/-! ### Layouts -/

theorem layoutOf_auto {r : Request} (h : r.layout = .auto) (input : String) :
    r.layoutOf input = detectLayout input := by
  rw [Request.layoutOf, h]

theorem layoutOf_of_ne_auto {r : Request} (h : r.layout ≠ .auto) (input : String) :
    r.layoutOf input = r.layout := by
  rw [Request.layoutOf]
  split
  · next hauto => exact absurd hauto h
  · rfl

theorem detectLayout_ne_auto (input : String) : detectLayout input ≠ .auto := by
  unfold detectLayout
  split <;> simp

theorem detectLayout_cons {input : String} {c : Char} {more : List Char}
    (h : input.toList = c :: more) (hc : isBlank c = false) :
    detectLayout input = if c = '[' then .json else .jsonl := by
  rw [detectLayout, trimLeft, h, List.dropWhile_cons_of_neg (by simp [hc])]
  simp

end Cli

end RuleTree
