import RuleTree.Json.Writer
import RuleTree.Proofs.Json.Cursor

/-! Texts written and read back. Whatever characters a text holds, reading what stands between its quotes
gives it back. -/

namespace RuleTree.Json

/-- A character is written as a letter behind a backslash, by its code, or as itself. -/
theorem escapedChar_cases (ch : Char) :
    (∃ e, simpleEscape? e = some ch ∧ escapedChar ch = ['\\', e]) ∨
    (ch.toNat < 32 ∧ escapedChar ch =
      ['\\', 'u', '0', '0', Nat.digitChar (ch.toNat / 16), Nat.digitChar (ch.toNat % 16)]) ∨
    (ch ≠ '"' ∧ ch ≠ '\\' ∧ ¬ ch.toNat < 32 ∧ escapedChar ch = [ch]) := by
  unfold escapedChar
  -- each of the first seven branches is about one fixed character
  iterate 7
    split
    · next h =>
      subst h
      refine .inl ⟨_, ?_, rfl⟩
      rfl
  split
  · next hlow => exact .inr (.inl ⟨hlow, rfl⟩)
  · next hquote hslash _ _ _ _ _ hlow => exact .inr (.inr ⟨hquote, hslash, hlow, rfl⟩)

theorem hexValue?_digitChar : ∀ k < 16, hexValue? (Nat.digitChar k) = some k := by decide

/-- A cursor before four digits has as many bytes in front of it. -/
theorem four_le_bytes {c : Cursor} {h₁ h₂ h₃ h₄ : Char} {more : List Char}
    (hc : c.rest = h₁ :: h₂ :: h₃ :: h₄ :: more) : 4 ≤ c.bytes := by
  have hpos := Char.utf8Size_pos
  have := hpos h₁
  have := hpos h₂
  have := hpos h₃
  have := hpos h₄
  simp only [Cursor.bytes, hc, List.foldr_cons]
  omega

theorem readHex_low {c : Cursor} {n : Nat} {more : List Char} (hn : n < 32)
    (hc : c.rest = '0' :: '0' :: Nat.digitChar (n / 16) :: Nat.digitChar (n % 16) :: more) :
    ∃ behind, readHex c = .ok (n, behind) ∧ behind.rest = more := by
  refine ⟨c.next.next.next.next, ?_, by simp [hc]⟩
  have hbytes : ¬ c.bytes < 4 := by have := four_le_bytes hc; omega
  have hzero : hexValue? '0' = some 0 := by decide
  rw [readHex, if_neg hbytes, hc]
  simp only [hzero, hexValue?_digitChar (n / 16) (by omega), hexValue?_digitChar (n % 16) (by omega)]
  congr 2
  omega

/-- A control character that has no letter of its own. -/
theorem readUnicodeEscape_low {c : Cursor} {ch : Char} {more : List Char} (hch : ch.toNat < 32)
    (hc : c.rest =
      '0' :: '0' :: Nat.digitChar (ch.toNat / 16) :: Nat.digitChar (ch.toNat % 16) :: more) :
    ∃ behind, readUnicodeEscape c = .ok (ch, behind) ∧ behind.rest = more := by
  obtain ⟨behind, hread, hrest⟩ := readHex_low hch hc
  refine ⟨behind, ?_, hrest⟩
  have hlow : decide (0xDC00 ≤ ch.toNat) = false := decide_eq_false (by omega)
  have hbmp : decide (ch.toNat < 0xD800) = true := decide_eq_true (by omega)
  rw [readUnicodeEscape, hread]
  simp only [bind, Except.bind, hlow, hbmp, Bool.false_and, Bool.true_or, Char.ofNat_toNat]
  rfl

section

variable {fuel : Nat} {c : Cursor} {acc more : List Char}

theorem readChars_simple {e ch : Char} (he : simpleEscape? e = some ch)
    (hc : c.rest = '\\' :: e :: more) :
    ∃ c', readChars (fuel + 1) c acc = readChars fuel c' (ch :: acc) ∧ c'.rest = more := by
  refine ⟨c.next.next, ?_, by simp [hc]⟩
  have hu : e ≠ 'u' := by rintro rfl; cases he
  rw [readChars, hc]
  simp only [he]

theorem readChars_low {ch : Char} (hch : ch.toNat < 32)
    (hc : c.rest = '\\' :: 'u' :: '0' :: '0' :: Nat.digitChar (ch.toNat / 16) ::
      Nat.digitChar (ch.toNat % 16) :: more) :
    ∃ c', readChars (fuel + 1) c acc = readChars fuel c' (ch :: acc) ∧ c'.rest = more := by
  have hdigits : c.next.next.rest = '0' :: '0' :: Nat.digitChar (ch.toNat / 16) ::
      Nat.digitChar (ch.toNat % 16) :: more := by simp [hc]
  obtain ⟨c', hread, hrest⟩ := readUnicodeEscape_low hch hdigits
  refine ⟨c', ?_, hrest⟩
  rw [readChars, hc]
  simp only [hread, bind, Except.bind]

theorem readChars_plain {ch : Char} (hquote : ch ≠ '"') (hslash : ch ≠ '\\') (hlow : ¬ ch.toNat < 32)
    (hc : c.rest = ch :: more) :
    ∃ c', readChars (fuel + 1) c acc = readChars fuel c' (ch :: acc) ∧ c'.rest = more := by
  refine ⟨c.next, ?_, by simp [hc]⟩
  rw [readChars, hc]
  simp only [hlow, if_false]

/-- One character is read from the form it is written in. -/
theorem readChars_escapedChar {ch : Char} (hc : c.rest = escapedChar ch ++ more) :
    ∃ c', readChars (fuel + 1) c acc = readChars fuel c' (ch :: acc) ∧ c'.rest = more := by
  rcases escapedChar_cases ch with ⟨e, he, heq⟩ | ⟨hlow, heq⟩ | ⟨hquote, hslash, hlow, heq⟩
  · rw [heq] at hc
    exact readChars_simple he hc
  · rw [heq] at hc
    exact readChars_low hlow hc
  · rw [heq] at hc
    exact readChars_plain hquote hslash hlow hc

end

/-- Reading the characters of a written text puts them behind those that were read before. -/
theorem readChars_escaped (cs : List Char) {fuel : Nat} {c : Cursor} {acc rest : List Char}
    (hfuel : cs.length < fuel) (hc : c.rest = cs.flatMap escapedChar ++ '"' :: rest) :
    ∃ behind, readChars fuel c acc = .ok (String.ofList (acc.reverse ++ cs), behind) ∧
      behind.rest = rest := by
  induction cs generalizing fuel c acc with
  | nil =>
    obtain ⟨fuel, rfl⟩ := Nat.exists_eq_add_one_of_ne_zero (Nat.ne_of_gt hfuel)
    refine ⟨c.next, ?_, by simp [hc]⟩
    rw [readChars, hc, List.append_nil]
    rfl
  | cons ch cs ih =>
    obtain ⟨fuel, rfl⟩ := Nat.exists_eq_add_one_of_ne_zero (Nat.ne_of_gt (Nat.zero_lt_of_lt hfuel))
    rw [List.flatMap_cons, List.append_assoc] at hc
    obtain ⟨c', hstep, hc'⟩ := readChars_escapedChar hc
    obtain ⟨behind, hread, hrest⟩ := ih (Nat.lt_of_succ_lt_succ hfuel) hc'
    refine ⟨behind, ?_, hrest⟩
    rw [hstep, hread, List.reverse_cons, List.append_assoc, List.singleton_append]

theorem length_le_flatMap_escapedChar (cs : List Char) :
    cs.length ≤ (cs.flatMap escapedChar).length := by
  induction cs with
  | nil => exact Nat.le_refl 0
  | cons ch cs ih =>
    have hpos : 1 ≤ (escapedChar ch).length := by
      rcases escapedChar_cases ch with ⟨e, -, heq⟩ | ⟨-, heq⟩ | ⟨-, -, -, heq⟩ <;> simp [heq]
    rw [List.flatMap_cons, List.length_append, List.length_cons]
    omega

theorem readText_written {c : Cursor} {s : String} {rest : List Char}
    (hc : c.rest = s.toList.flatMap escapedChar ++ '"' :: rest) :
    ∃ behind, readText c = .ok (s, behind) ∧ behind.rest = rest := by
  have hfuel : s.toList.length < c.rest.length + 1 := by
    rw [hc, List.length_append, List.length_cons]
    have := length_le_flatMap_escapedChar s.toList
    omega
  obtain ⟨behind, hread, hrest⟩ := readChars_escaped s.toList hfuel hc
  refine ⟨behind, ?_, hrest⟩
  rw [readText, hread, List.reverse_nil, List.nil_append, String.ofList_toList]

end RuleTree.Json
