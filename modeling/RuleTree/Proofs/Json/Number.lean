import RuleTree.Proofs.Json.Real
import RuleTree.Proofs.Outcome

/-! Numbers written and read back. Every finite number is written as a numeral, and a numeral is read as one
number: the integer it was, or a double that may differ from the written one in its last place. -/

namespace RuleTree

namespace Json

/-! ### Numerals -/

/-- The text is a numeral of the number. -/
inductive Numeral : List Char → Number → Prop
  | integer {i : Int} : IsWord i → Numeral (toString i).toList (.ofInt i)
  | real {t : DecimalText} {negative : Bool} {x : Binary64} : t.WellFormed →
      ofParts negative t.significand t.exponent = some x →
        Numeral (signChars negative ++ t.chars) (.real x)

theorem Numeral.head {t : List Char} {n : Number} (h : Numeral t n) :
    ∃ c more, t = c :: more ∧ (c = '-' ∨ c.isDigit = true) := by
  cases h with
  | integer => exact toString_eq_cons _
  | @real t negative _ ht _ =>
    cases negative with
    | true => exact ⟨'-', _, rfl, .inl rfl⟩
    | false =>
      obtain ⟨d, more, hwhole, hd, -⟩ := ht.head
      refine ⟨d, more ++ (fractionChars t.fraction ++ exponentChars t.exponent?), ?_, .inr hd⟩
      rw [DecimalText.chars, hwhole]
      rfl

/-- A numeral that stands before the end of numerals is read as its number. -/
theorem readNumeral_numeral {c : Cursor} {t rest : List Char} {n : Number} (ht : Numeral t n)
    (hc : c.rest = t ++ rest) (h : Delimits rest) :
    ∃ behind, readNumeral c = .ok (n, behind) ∧ behind.rest = rest := by
  cases ht with
  | integer hi => exact readNumeral_toString hi hc h
  | @real t negative x ht hx =>
    rw [List.append_assoc] at hc
    cases negative with
    | true =>
      obtain ⟨behind, hrest, hread⟩ := readUnsigned_chars ht true (Cursor.next_rest_of_cons hc) h
      refine ⟨behind, ?_, hrest⟩
      have hsign : c.rest.head? = some '-' := by
        rw [hc]
        rfl
      rw [readNumeral, hsign]
      simp only [hread, finishReal, hx]
    | false =>
      obtain ⟨behind, hrest, hread⟩ := readUnsigned_chars ht false hc h
      refine ⟨behind, ?_, hrest⟩
      have hsign : c.rest.head? ≠ some '-' := by
        obtain ⟨d, more, hwhole, hd, -⟩ := ht.head
        rw [hc, DecimalText.chars, hwhole]
        rintro ⟨⟩
        cases hd
      unfold readNumeral
      split
      · next hminus => exact absurd hminus hsign
      · rw [hread, finishReal, hx]

/-! ### Writing and reading back -/

end Json

open Json

def Number.finite : Number → Bool
  | .real x => x.isFinite
  | _ => true

/-- The number that its own text is read as. -/
def Number.reread (n : Number) : Number :=
  match readNumeral (.ofText (writeNumber n)) with
  | .ok (m, _) => m
  | .error _ => n

theorem Number.reread_eq {n m : Number} (h : Numeral (writeNumber n).toList m) : n.reread = m := by
  have hstart : (Cursor.ofText (writeNumber n)).rest = (writeNumber n).toList ++ [] := by
    rw [List.append_nil]
    rfl
  obtain ⟨behind, hread, -⟩ := readNumeral_numeral h hstart delimits_nil
  rw [reread, hread]

/-- An integer is written as a numeral of it, whichever kind holds it. -/
theorem numeral_writeNumber {n : Number} {i : Int} (h : n.toInt? = some i) :
    Numeral (writeNumber n).toList (.ofInt i) := by
  rw [writeNumber_of_toInt? h]
  exact .integer (Number.isWord_of_toInt? h)

/-- A finite double is written as a numeral of a double. -/
theorem exists_numeral_real {x : Binary64} (h : x.isFinite = true) :
    ∃ y, Numeral (writeNumber (.real x)).toList (.real y) := by
  obtain ⟨y, hy⟩ := exists_ofParts h x.negative
  refine ⟨y, ?_⟩
  rw [writeNumber, if_pos h, write_toList h]
  exact .real (Decimal.numeral_wellFormed (short_shortest h)) hy

theorem exists_numeral {n : Number} (h : n.finite = true) :
    ∃ m, Numeral (writeNumber n).toList m := by
  cases n with
  | signed n => exact ⟨_, numeral_writeNumber rfl⟩
  | unsigned n => exact ⟨_, numeral_writeNumber rfl⟩
  | real x =>
    obtain ⟨y, hy⟩ := exists_numeral_real h
    exact ⟨_, hy⟩

/-- The text of a finite number is a numeral of the number that it is read as. -/
theorem numeral_reread {n : Number} (h : n.finite = true) :
    Numeral (writeNumber n).toList n.reread := by
  obtain ⟨m, hm⟩ := exists_numeral h
  rwa [Number.reread_eq hm]

/-- A finite double comes back as a double. -/
theorem Number.exists_reread_real {x : Binary64} (h : x.isFinite = true) : ∃ y, (real x).reread = .real y := by
  obtain ⟨y, hy⟩ := exists_numeral_real h
  exact ⟨y, reread_eq hy⟩

/-- An integer comes back in its narrowest kind. -/
theorem Number.reread_of_toInt? {n : Number} {i : Int} (h : n.toInt? = some i) :
    n.reread = .ofInt i :=
  reread_eq (numeral_writeNumber h)

/-! ### What a text can hold -/

/-- A number that is read from some text: an integer of 64 bits in its narrowest kind, or a finite double. -/
inductive Number.Legible : Number → Prop
  | integer {i : Int} : IsWord i → Legible (.ofInt i)
  | real {x : Binary64} : x.isFinite = true → Legible (.real x)

namespace Json

theorem Numeral.legible {t : List Char} {n : Number} (h : Numeral t n) : n.Legible := by
  cases h with
  | integer hi => exact .integer hi
  | real ht hx => exact .real (ofParts_finite ht.significand_lt hx)

variable {c behind : Cursor} {n : Number} {negative : Bool} {significand : Nat} {e : Int}

theorem takeUp_lt (ds : List Char) {s taken : Nat} (h : s < UInt64.size) :
    (takeUp s taken ds).1 < UInt64.size := by
  induction ds generalizing s taken with
  | nil => exact h
  | cons d ds ih =>
    rw [takeUp]
    split
    · next hmore => exact ih hmore
    · exact h

theorem legible_finishReal (hs : significand < UInt64.size)
    (h : finishReal c negative significand e = .ok (n, behind)) : n.Legible := by
  unfold finishReal at h
  split at h
  · next hx =>
    cases h
    exact .real (ofParts_finite hs hx)
  · cases h

theorem legible_readExponent (hs : significand < UInt64.size)
    (h : readExponent c negative significand e = .ok (n, behind)) : n.Legible := by
  unfold readExponent at h
  dsimp only at h
  split at h
  · cases h
  · split at h
    · cases h
    · split at h
      · obtain ⟨-, h⟩ | ⟨-, h⟩ := ite_eq_iff.1 h
        · cases h
        · cases h
          exact .real (Binary64.isFinite_zero negative)
      · exact legible_finishReal hs h

theorem legible_readTail (hs : significand < UInt64.size)
    (h : readTail c negative significand e = .ok (n, behind)) : n.Legible := by
  unfold readTail at h
  split at h
  · exact legible_readExponent hs h
  · exact legible_readExponent hs h
  · exact legible_finishReal hs h

theorem legible_readFraction (hs : significand < UInt64.size)
    (h : readFraction c negative significand e = .ok (n, behind)) : n.Legible := by
  unfold readFraction at h
  dsimp only at h
  split at h
  · cases h
  · exact legible_readTail (takeUp_lt _ hs) h

theorem legible_integerValue (negative : Bool) {k : Nat} (hk : k < UInt64.size) :
    (integerValue negative k).Legible := by
  unfold integerValue
  split
  · split
    · next hrange =>
      have hvalue := integerValue_neg hrange.1 hrange.2
      rw [integerValue, if_pos rfl, if_pos hrange] at hvalue
      rw [hvalue]
      refine .integer ⟨?_, ?_⟩
      · rw [Int64.toInt_minValue]
        omega
      · have hsize : (0 : Int) < UInt64.size := by decide
        omega
    · exact .real (Binary64.isFinite_neg (isFinite_significand hk))
  · refine .integer ⟨?_, Int.ofNat_lt.2 hk⟩
    rw [Int64.toInt_minValue]
    omega

theorem legible_readUnsigned (h : readUnsigned c negative = .ok (n, behind)) : n.Legible := by
  have hsize : (takeUp 0 0 c.digits).1 < UInt64.size := takeUp_lt _ (by decide)
  unfold readUnsigned at h
  dsimp only at h
  split at h
  · cases h
  · split at h
    · cases h
    · split at h
      · cases h
      · split at h
        · exact legible_readFraction hsize h
        · exact legible_readExponent hsize h
        · exact legible_readExponent hsize h
        · split at h
          · cases h
            exact legible_integerValue negative hsize
          · exact legible_finishReal hsize h

/-- Every number that is read is one that a text can hold. -/
theorem legible_readNumeral (h : readNumeral c = .ok (n, behind)) : n.Legible := by
  unfold readNumeral at h
  split at h <;> exact legible_readUnsigned h

end Json

theorem Number.finite_of_toInt? {n : Number} {i : Int} (h : n.toInt? = some i) :
    n.finite = true := by
  cases n with
  | signed | unsigned => rfl
  | real => cases h

theorem Number.Legible.finite {n : Number} (h : n.Legible) : n.finite = true := by
  cases h with
  | integer hi => exact finite_of_toInt? (toInt?_ofInt hi)
  | real hx => exact hx

end RuleTree
