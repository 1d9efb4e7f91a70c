import RuleTree.Json.Skip

/-! What cursors leave of a text. Places do not matter to a text that has no fault, so that every lemma
here is about the rest alone. -/

namespace RuleTree.Json

/-- Space between the parts of a text. -/
def Blank (ws : List Char) : Prop := ∀ c ∈ ws, Cursor.isSpace c = true

theorem blank_nil : Blank [] := fun _ h => nomatch h

/-- Nothing that could go on a numeral stands in front. -/
def Delimits (rest : List Char) : Prop :=
  ∀ c ∈ rest.head?, c.isDigit = false ∧ c ≠ '.' ∧ c ≠ 'e' ∧ c ≠ 'E'

/-- No digit stands in front. -/
def EndsDigits (rest : List Char) : Prop := ∀ c ∈ rest.head?, c.isDigit = false

theorem Delimits.endsDigits {rest : List Char} (h : Delimits rest) : EndsDigits rest :=
  fun c hc => (h c hc).1

theorem delimits_nil : Delimits [] := fun _ h => nomatch h

theorem delimits_cons {c : Char} (h : c.isDigit = false ∧ c ≠ '.' ∧ c ≠ 'e' ∧ c ≠ 'E')
    (rest : List Char) : Delimits (c :: rest) := by
  intro d hd
  cases hd
  exact h

theorem isSpace_cases {c : Char} (h : Cursor.isSpace c = true) :
    c = ' ' ∨ c = '\n' ∨ c = '\t' ∨ c = '\r' := by
  simpa only [Cursor.isSpace, Bool.or_eq_true, decide_eq_true_eq, or_assoc] using h

theorem delimits_of_isSpace {c : Char} (h : Cursor.isSpace c = true) (rest : List Char) :
    Delimits (c :: rest) := by
  apply delimits_cons
  rcases isSpace_cases h with rfl | rfl | rfl | rfl <;> decide

/-- No character that begins a numeral is space. -/
theorem not_isSpace_of_numeral {c : Char} (h : c = '-' ∨ c.isDigit = true) :
    Cursor.isSpace c = false := by
  rw [← Bool.not_eq_true]
  intro hs
  rcases isSpace_cases hs with rfl | rfl | rfl | rfl <;> revert h <;> decide

namespace Cursor

@[simp] theorem next_rest (c : Cursor) : c.next.rest = c.rest.tail := by
  unfold next
  split
  · next h => rw [h]; rfl
  · next ch rest h =>
    rw [h]
    split <;> rfl

theorem next_rest_of_cons {c : Cursor} {ch : Char} {more : List Char} (h : c.rest = ch :: more) :
    c.next.rest = more := by
  rw [next_rest, h]
  rfl

theorem skipWhile_rest (ok : Char → Bool) (rest : List Char) (line column : Nat) :
    (skipWhile ok rest line column).rest = rest.dropWhile ok := by
  induction rest generalizing line column with
  | nil => rfl
  | cons ch more ih =>
    rw [skipWhile, List.dropWhile_cons]
    split
    · split <;> exact ih _ _
    · rfl

@[simp] theorem skipSpace_rest (c : Cursor) : c.skipSpace.rest = c.rest.dropWhile isSpace :=
  skipWhile_rest ..

@[simp] theorem skipDigits_rest (c : Cursor) :
    c.skipDigits.rest = c.rest.dropWhile Char.isDigit :=
  skipWhile_rest ..

/-- Space in front of a part is passed over. -/
theorem skipSpace_blank {c : Cursor} {ws more : List Char} {ch : Char} (hws : Blank ws)
    (hch : isSpace ch = false) (h : c.rest = ws ++ ch :: more) : c.skipSpace.rest = ch :: more := by
  rw [skipSpace_rest, h, List.dropWhile_append_of_pos hws, List.dropWhile_cons_of_neg]
  simp [hch]

end Cursor

theorem expectWord_append (word : List Char) {c : Cursor} {rest : List Char}
    (h : c.rest = word ++ rest) : ∃ behind, expectWord c word = .ok behind ∧ behind.rest = rest := by
  induction word generalizing c with
  | nil => exact ⟨c, rfl, h⟩
  | cons w word ih =>
    obtain ⟨behind, hb, hr⟩ := ih (c := c.next) (by rw [Cursor.next_rest, h]; rfl)
    refine ⟨behind, ?_, hr⟩
    rw [List.cons_append] at h
    simp [expectWord, h, hb]

end RuleTree.Json
