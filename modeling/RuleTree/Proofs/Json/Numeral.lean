import RuleTree.Json.Writer
import RuleTree.Proofs.Json.Cursor

/-! Integers written and read back. Every integer of 64 bits, signed or not, is read from its decimal
digits as the number of the narrowest kind. -/

namespace RuleTree

/-! ### Integers in their narrowest kind -/

/-- An integer of 64 bits, with a sign or without. -/
def IsWord (i : Int) : Prop := Int64.minValue.toInt ≤ i ∧ i < UInt64.size

theorem isWord_toInt (n : Int64) : IsWord n.toInt :=
  ⟨n.minValue_le_toInt, Int.lt_of_le_of_lt n.toInt_le (by decide)⟩

theorem isWord_toNat (n : UInt64) : IsWord n.toNat :=
  ⟨Int.le_trans (by decide) (Int.natCast_nonneg _), Int.ofNat_lt.2 n.toNat_lt_size⟩

theorem Number.isWord_of_toInt? {n : Number} {i : Int} (h : n.toInt? = some i) : IsWord i := by
  cases n with
  | signed n =>
    cases h
    exact isWord_toInt n
  | unsigned n =>
    cases h
    exact isWord_toNat n
  | real => cases h

theorem Number.toInt?_ofInt {i : Int} (h : IsWord i) : (Number.ofInt i).toInt? = some i := by
  obtain ⟨hlow, hhigh⟩ := h
  unfold ofInt
  split
  · next hsigned =>
    have hback : (Int64.ofInt i).toInt = i :=
      Int64.toInt_ofInt_of_le hsigned.1 (Int.lt_of_le_of_lt hsigned.2 (by decide))
    rw [toInt?, hback]
  · next hlarge =>
    have hnonneg : 0 ≤ i := by
      have hmax := Int64.toInt_maxValue
      omega
    have hback : (UInt64.ofNat i.toNat).toNat = i.toNat :=
      UInt64.toNat_ofNat_of_lt ((Int.toNat_lt hnonneg).2 hhigh)
    rw [if_pos ⟨hnonneg, hhigh⟩, toInt?, hback, Int.toNat_of_nonneg hnonneg]

namespace Json

/-- Integers are written alike, whichever kind holds them. -/
theorem writeNumber_of_toInt? {n : Number} {i : Int} (h : n.toInt? = some i) :
    writeNumber n = toString i := by
  cases n with
  | signed n =>
    cases h
    rfl
  | unsigned n =>
    cases h
    rw [Int.toString_eq_repr, Int.repr_eq_if, if_pos (Int.natCast_nonneg _), Int.toNat_natCast,
      ← Nat.toString_eq_repr]
    rfl
  | real => cases h

/-! ### Digits -/

theorem isDigit_toDigits (n : Nat) : ∀ d ∈ Nat.toDigits 10 n, d.isDigit = true :=
  fun _ => Nat.isDigit_of_mem_toDigits (by decide) (by decide)

theorem toDigits_eq_cons (n : Nat) : ∃ d ds, Nat.toDigits 10 n = d :: ds ∧ d.isDigit = true := by
  cases h : Nat.toDigits 10 n with
  | nil => exact absurd h Nat.toDigits_ne_nil
  | cons d ds => exact ⟨d, ds, rfl, isDigit_toDigits n d (h ▸ List.mem_cons_self)⟩

theorem head?_toDigits_ne_zero {n : Nat} (h : 0 < n) : (Nat.toDigits 10 n).head? ≠ some '0' := by
  induction n using Nat.strongRecOn with
  | ind n ih =>
    rw [Nat.toDigits_eq_if (by decide)]
    split
    · simp only [List.head?_cons, ne_eq, Option.some.injEq, Nat.digitChar_eq_zero]
      omega
    · obtain ⟨d, ds, hds, -⟩ := toDigits_eq_cons (n / 10)
      have hhead := ih (n / 10) (by omega) (by omega)
      rw [hds] at hhead ⊢
      exact hhead

theorem le_ofDigitChars (ds : List Char) (s : Nat) : s ≤ Nat.ofDigitChars 10 ds s := by
  rw [Nat.ofDigitChars_eq_ofDigitChars_zero]
  exact Nat.le_add_right_of_le (Nat.le_mul_of_pos_left s (Nat.pow_pos (by decide)))

/-- A significand below 2 ^ 64 takes up all its digits. -/
theorem takeUp_eq {ds : List Char} {significand : Nat} (taken : Nat)
    (h : Nat.ofDigitChars 10 ds significand < UInt64.size) :
    takeUp significand taken ds = (Nat.ofDigitChars 10 ds significand, taken + ds.length) := by
  induction ds generalizing significand taken with
  | nil => rfl
  | cons d ds ih =>
    rw [Nat.ofDigitChars_cons, Nat.mul_comm, ← digitValue] at h ⊢
    have hmore := le_ofDigitChars ds (significand * 10 + digitValue d)
    rw [takeUp, if_pos (Nat.lt_of_le_of_lt hmore h), ih (taken + 1) h, List.length_cons]
    congr 1
    omega

theorem not_numeral_head {rest : List Char} (h : Delimits rest) :
    rest.head? ≠ some '.' ∧ rest.head? ≠ some 'e' ∧ rest.head? ≠ some 'E' :=
  ⟨fun hd => (h _ hd).2.1 rfl, fun hd => (h _ hd).2.2.1 rfl, fun hd => (h _ hd).2.2.2 rfl⟩

theorem takeWhile_digits {ds rest : List Char} (hds : ∀ d ∈ ds, d.isDigit = true)
    (h : EndsDigits rest) : (ds ++ rest).takeWhile Char.isDigit = ds := by
  rw [List.takeWhile_append_of_pos hds]
  cases rest with
  | nil => simp
  | cons c rest => rw [List.takeWhile_cons_of_neg (by simp [h c rfl]), List.append_nil]

theorem dropWhile_digits {ds rest : List Char} (hds : ∀ d ∈ ds, d.isDigit = true)
    (h : EndsDigits rest) : (ds ++ rest).dropWhile Char.isDigit = rest := by
  rw [List.dropWhile_append_of_pos hds]
  cases rest with
  | nil => rfl
  | cons c rest => rw [List.dropWhile_cons_of_neg (by simp [h c rfl])]

/-- No digits with a zero in front of others. -/
theorem second_not_digit {n : Nat} {d : Char} {ds rest : List Char}
    (hn : Nat.toDigits 10 n = d :: ds) (h : Delimits rest) :
    ¬ (d = '0' ∧ (ds ++ rest).head?.any Char.isDigit = true) := by
  rintro ⟨rfl, hany⟩
  rcases Nat.eq_zero_or_pos n with rfl | hpos
  · rw [Nat.toDigits_zero, List.cons.injEq] at hn
    obtain ⟨-, rfl⟩ := hn
    obtain ⟨c, hc, hdigit⟩ := (Option.any_eq_true _ _).1 hany
    rw [(h c hc).1] at hdigit
    cases hdigit
  · exact head?_toDigits_ne_zero hpos (by rw [hn]; rfl)

theorem readUnsigned_toDigits {c : Cursor} {n : Nat} {rest : List Char} (negative : Bool)
    (hc : c.rest = Nat.toDigits 10 n ++ rest) (hn : n < UInt64.size) (h : Delimits rest) :
    readUnsigned c negative = .ok (integerValue negative n, c.skipDigits) ∧
      c.skipDigits.rest = rest := by
  have hdigit := isDigit_toDigits n
  have hrest : c.skipDigits.rest = rest := by
    rw [Cursor.skipDigits_rest, hc, dropWhile_digits hdigit h.endsDigits]
  have hdigits : c.digits = Nat.toDigits 10 n := by
    rw [Cursor.digits, hc, takeWhile_digits hdigit h.endsDigits]
  have hall : takeUp 0 0 (Nat.toDigits 10 n) = (n, (Nat.toDigits 10 n).length) := by
    rw [takeUp_eq 0 (by rwa [Nat.ofDigitChars_ten_toDigits]), Nat.ofDigitChars_ten_toDigits,
      Nat.zero_add]
  obtain ⟨hpoint, hsmall, hlarge⟩ := not_numeral_head h
  refine ⟨?_, hrest⟩
  obtain ⟨d, ds, hds, hd⟩ := toDigits_eq_cons n
  have hzero := second_not_digit hds h
  rw [hds, List.cons_append] at hc
  unfold readUnsigned
  rw [hc]
  simp only [hd, hzero, hdigits, hall, hrest, Nat.sub_self]
  rfl

theorem integerValue_neg {n : Nat} (h : 0 < n) (hle : n ≤ 1 <<< 63) :
    integerValue true n = .ofInt (-n) := by
  have hword : Int64.minValue.toInt ≤ (-n : Int) ∧ (-n : Int) ≤ Int64.maxValue.toInt := by
    rw [Int64.toInt_minValue, Int64.toInt_maxValue]
    omega
  rw [integerValue, if_pos rfl, if_pos ⟨h, hle⟩, Number.ofInt, if_pos hword]

theorem toString_eq_cons (i : Int) :
    ∃ c more, (toString i).toList = c :: more ∧ (c = '-' ∨ c.isDigit = true) := by
  rw [Int.toString_eq_repr, Int.repr_eq_if]
  split
  · obtain ⟨d, ds, hds, hd⟩ := toDigits_eq_cons i.toNat
    exact ⟨d, ds, by rw [Nat.toList_repr, hds], .inr hd⟩
  · exact ⟨'-', _, by rw [String.toList_append]; rfl, .inl rfl⟩

/-- Reading gives back every integer of 64 bits that stands before the end of a numeral. -/
theorem readNumeral_toString {c : Cursor} {i : Int} {rest : List Char} (hi : IsWord i)
    (hc : c.rest = (toString i).toList ++ rest) (h : Delimits rest) :
    ∃ behind, readNumeral c = .ok (.ofInt i, behind) ∧ behind.rest = rest := by
  obtain ⟨hlo, hhi⟩ := hi
  rw [Int.toString_eq_repr, Int.repr_eq_if] at hc
  split at hc
  · next h0 =>
    rw [Nat.toList_repr] at hc
    have hsize : i.toNat < UInt64.size := (Int.toNat_lt h0).2 hhi
    obtain ⟨hread, hrest⟩ := readUnsigned_toDigits false hc hsize h
    refine ⟨_, ?_, hrest⟩
    have hsign : c.rest.head? ≠ some '-' := by
      obtain ⟨d, ds, hds, hd⟩ := toDigits_eq_cons i.toNat
      rw [hc, hds]
      rintro ⟨⟩
      cases hd
    have hvalue : integerValue false i.toNat = .ofInt i := by
      rw [integerValue, Int.toNat_of_nonneg h0]
      rfl
    simp only [readNumeral, hread, hvalue]
  · next h0 =>
    rw [String.toList_append, Nat.toList_repr, List.append_assoc] at hc
    have hnext : c.next.rest = Nat.toDigits 10 (-i).toNat ++ rest := by
      rw [Cursor.next_rest, hc]
      rfl
    rw [Int64.toInt_minValue] at hlo
    have hhalf : (-i).toNat ≤ 1 <<< 63 := by omega
    have hsize : (-i).toNat < UInt64.size := Nat.lt_of_le_of_lt hhalf (by decide)
    obtain ⟨hread, hrest⟩ := readUnsigned_toDigits true hnext hsize h
    refine ⟨_, ?_, hrest⟩
    have hsign : c.rest.head? = some '-' := by
      rw [hc]
      rfl
    have hcast : (-((-i).toNat : Int)) = i := by omega
    rw [readNumeral, hsign, hread, integerValue_neg (by omega) hhalf, hcast]
    rfl

end Json

end RuleTree
