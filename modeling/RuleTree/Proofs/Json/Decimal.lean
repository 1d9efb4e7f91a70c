import RuleTree.Proofs.Json.Numeral

/-! Decimal numerals with a fraction or an exponent. Such a numeral is read by its digits, taken as one
significand, and by how far its point stands from their end. -/

namespace RuleTree.Json

/-- The parts of a numeral without its sign. -/
structure DecimalText where
  whole : List Char
  fraction : List Char
  exponent? : Option Int

/-- A fraction and its point, if there is a fraction. -/
def fractionChars (fraction : List Char) : List Char :=
  if fraction = [] then [] else '.' :: fraction

/-- An exponent with its letter and its sign, if there is an exponent. -/
def exponentChars : Option Int → List Char
  | none => []
  | some k => 'e' :: (if k < 0 then '-' else '+') :: Nat.toDigits 10 k.natAbs

namespace DecimalText

def chars (t : DecimalText) : List Char :=
  t.whole ++ (fractionChars t.fraction ++ exponentChars t.exponent?)

/-- All digits before the exponent as one number. -/
def significand (t : DecimalText) : Nat := Nat.ofDigitChars 10 (t.whole ++ t.fraction) 0

/-- The power of ten that scales the significand. -/
def exponent (t : DecimalText) : Int := t.exponent?.getD 0 - t.fraction.length

/-- A numeral that is no integer, with no zero before other digits of its whole part. -/
structure WellFormed (t : DecimalText) : Prop where
  digits : ∀ c ∈ t.whole ++ t.fraction, c.isDigit = true
  whole : t.whole = ['0'] ∨ ∃ c more, t.whole = c :: more ∧ c ≠ '0'
  significand_lt : t.significand < UInt64.size
  exponent_lt : ∀ k, t.exponent? = some k → k.natAbs < 1 <<< 31
  real : t.fraction ≠ [] ∨ t.exponent?.isSome = true

end DecimalText

/-! ### Reading -/

theorem exponentOverflow?_eq_none {ds : List Char} {value : Nat} (read : Nat)
    (h : Nat.ofDigitChars 10 ds value < 1 <<< 31) : exponentOverflow? value read ds = none := by
  induction ds generalizing value read with
  | nil => rfl
  | cons d ds ih =>
    rw [Nat.ofDigitChars_cons, Nat.mul_comm, ← digitValue] at h
    have hmore := le_ofDigitChars ds (value * 10 + digitValue d)
    rw [exponentOverflow?, if_pos (Nat.lt_of_le_of_lt hmore h), ih (read + 1) h]

theorem foldl_digitValue (ds : List Char) (value : Nat) :
    ds.foldl (fun (n : Int) d => n * 10 + digitValue d) value = Nat.ofDigitChars 10 ds value := by
  induction ds generalizing value with
  | nil => rfl
  | cons d ds ih =>
    have hstep : (value : Int) * 10 + digitValue d = (10 * value + digitValue d : Nat) := by omega
    rw [List.foldl_cons, hstep, ih, Nat.ofDigitChars_cons, digitValue]

variable {c : Cursor} {rest : List Char} {negative : Bool} {n : Nat}

theorem readExponent_written {k : Int} (start : Int)
    (hc : c.rest = exponentChars (some k) ++ rest) (hk : k.natAbs < 1 <<< 31)
    (h : EndsDigits rest) : ∃ behind : Cursor, behind.rest = rest ∧
      readExponent c negative n start = finishReal behind negative n (start + k) := by
  have hsign : c.next.rest = (if k < 0 then '-' else '+') :: (Nat.toDigits 10 k.natAbs ++ rest) :=
    Cursor.next_rest_of_cons hc
  have hdigits : c.next.next.rest = Nat.toDigits 10 k.natAbs ++ rest :=
    Cursor.next_rest_of_cons hsign
  have hall := isDigit_toDigits k.natAbs
  have hvalue : c.next.next.digits = Nat.toDigits 10 k.natAbs := by
    rw [Cursor.digits, hdigits, takeWhile_digits hall h]
  have hsmall : exponentOverflow? 0 0 (Nat.toDigits 10 k.natAbs) = none :=
    exponentOverflow?_eq_none 0 (by rwa [Nat.ofDigitChars_ten_toDigits])
  refine ⟨c.next.next.skipDigits, ?_, ?_⟩
  · rw [Cursor.skipDigits_rest, hdigits, dropWhile_digits hall h]
  · obtain ⟨d, ds, hds, hd⟩ := toDigits_eq_cons k.natAbs
    have hfirst : c.next.next.rest = d :: (ds ++ rest) := by rw [hdigits, hds, List.cons_append]
    have hsum := foldl_digitValue (Nat.toDigits 10 k.natAbs) 0
    rw [Nat.ofDigitChars_ten_toDigits] at hsum
    unfold readExponent
    split at hsign
    · next hneg =>
      have hstep : start - (k.natAbs : Int) = start + k := by omega
      simp only [hsign, List.head?_cons, hfirst, hd, Bool.not_true, Bool.false_eq_true, if_false,
        hvalue, hsmall, hsum, if_true, hstep]
    · next hpos =>
      have hstep : start + (k.natAbs : Int) = start + k := by omega
      simp only [hsign, List.head?_cons, hfirst, hd, Bool.not_true, Bool.false_eq_true, if_false,
        hvalue, hsmall, hsum, hstep]

/-- What may stand behind the digits of a numeral is read as its exponent. -/
theorem readTail_written {k? : Option Int} (start : Int) (hc : c.rest = exponentChars k? ++ rest)
    (hk : ∀ k, k? = some k → k.natAbs < 1 <<< 31) (h : Delimits rest) :
    ∃ behind : Cursor, behind.rest = rest ∧
      readTail c negative n start = finishReal behind negative n (start + k?.getD 0) := by
  cases k? with
  | none =>
    obtain ⟨-, hsmall, hlarge⟩ := not_numeral_head h
    refine ⟨c, hc, ?_⟩
    have hc' : c.rest = rest := hc
    rw [Option.getD_none, Int.add_zero]
    unfold readTail
    rw [hc']
    split
    · next he => exact absurd he hsmall
    · next he => exact absurd he hlarge
    · rfl
  | some k =>
    obtain ⟨behind, hrest, hread⟩ := readExponent_written start hc (hk k rfl) h.endsDigits
    refine ⟨behind, hrest, ?_⟩
    have hletter : c.rest.head? = some 'e' := by
      rw [hc]
      rfl
    rw [readTail, hletter]
    exact hread

theorem endsDigits_exponentChars (k? : Option Int) (h : Delimits rest) :
    EndsDigits (exponentChars k? ++ rest) := by
  cases k? with
  | none => exact h.endsDigits
  | some k =>
    rintro c ⟨⟩
    rfl

theorem readFraction_written {fraction : List Char} {k? : Option Int} (start : Int)
    (hc : c.rest = '.' :: (fraction ++ (exponentChars k? ++ rest))) (hne : fraction ≠ [])
    (hdigits : ∀ c ∈ fraction, c.isDigit = true)
    (hn : Nat.ofDigitChars 10 fraction n < UInt64.size)
    (hk : ∀ k, k? = some k → k.natAbs < 1 <<< 31) (h : Delimits rest) :
    ∃ behind : Cursor, behind.rest = rest ∧
      readFraction c negative n start =
        finishReal behind negative (Nat.ofDigitChars 10 fraction n)
          (start - fraction.length + k?.getD 0) := by
  have hends := endsDigits_exponentChars k? h
  have hnext : c.next.rest = fraction ++ (exponentChars k? ++ rest) := Cursor.next_rest_of_cons hc
  have htaken : c.next.digits = fraction := by
    rw [Cursor.digits, hnext, takeWhile_digits hdigits hends]
  have htail : c.next.skipDigits.rest = exponentChars k? ++ rest := by
    rw [Cursor.skipDigits_rest, hnext, dropWhile_digits hdigits hends]
  obtain ⟨behind, hrest, hread⟩ := readTail_written (start - fraction.length) htail hk h
  refine ⟨behind, hrest, ?_⟩
  unfold readFraction
  simp only [htaken, takeUp_eq 0 hn, Nat.zero_add]
  exact hread

theorem DecimalText.WellFormed.head {t : DecimalText} (ht : t.WellFormed) :
    ∃ d more, t.whole = d :: more ∧ d.isDigit = true ∧ (d = '0' → more = []) := by
  have hdigit {d : Char} {more : List Char} (h : t.whole = d :: more) : d.isDigit = true :=
    ht.digits d (List.mem_append_left _ (h ▸ List.mem_cons_self))
  obtain h | ⟨d, more, h, hne⟩ := ht.whole
  · exact ⟨_, _, h, hdigit h, fun _ => rfl⟩
  · exact ⟨d, more, h, hdigit h, fun h0 => absurd h0 hne⟩

/-- A numeral that is no integer is read as its significand, scaled by its exponent. -/
theorem readUnsigned_chars {t : DecimalText} (ht : t.WellFormed) (negative : Bool)
    (hc : c.rest = t.chars ++ rest) (h : Delimits rest) :
    ∃ behind : Cursor, behind.rest = rest ∧
      readUnsigned c negative = finishReal behind negative t.significand t.exponent := by
  obtain ⟨whole, fraction, k?⟩ := t
  obtain ⟨hdigits, -, hsize, hk, hreal⟩ := id ht
  obtain ⟨d, more, hwhole, hd, hzero⟩ := ht.head
  dsimp only [DecimalText.significand] at *
  rw [List.forall_mem_append] at hdigits
  rw [Nat.ofDigitChars_append] at hsize ⊢
  -- what stands behind the digits of the whole part
  have htail : ∀ tail, tail = fractionChars fraction ++ (exponentChars k? ++ rest) →
      EndsDigits tail := by
    rintro _ rfl
    unfold fractionChars
    split
    · exact endsDigits_exponentChars k? h
    · rintro c ⟨⟩
      rfl
  generalize htail' : fractionChars fraction ++ (exponentChars k? ++ rest) = tail at htail
  have hends := htail tail rfl
  have hrest : c.rest = whole ++ tail := by
    rw [hc, DecimalText.chars, ← htail', List.append_assoc, List.append_assoc]
  have hbehind : c.skipDigits.rest = tail := by
    rw [Cursor.skipDigits_rest, hrest, dropWhile_digits hdigits.1 hends]
  have htaken : c.digits = whole := by
    rw [Cursor.digits, hrest, takeWhile_digits hdigits.1 hends]
  have hup : takeUp 0 0 whole = (Nat.ofDigitChars 10 whole 0, whole.length) := by
    rw [takeUp_eq 0 (Nat.lt_of_le_of_lt (le_ofDigitChars fraction _) hsize), Nat.zero_add]
  have hsecond : ¬ (d = '0' ∧ (more ++ tail).head?.any Char.isDigit = true) := by
    rintro ⟨h0, hany⟩
    rw [hzero h0, List.nil_append] at hany
    obtain ⟨ch, hch, hdigit⟩ := (Option.any_eq_true _ _).1 hany
    rw [hends ch hch] at hdigit
    cases hdigit
  have hfront : c.rest = d :: (more ++ tail) := by rw [hrest, hwhole, List.cons_append]
  unfold readUnsigned
  rw [hfront]
  simp only [hd, hsecond, htaken, hup, hbehind, Nat.sub_self, Bool.not_true, Bool.false_eq_true,
    if_false]
  unfold DecimalText.exponent
  by_cases hne : fraction = []
  · subst hne
    obtain ⟨k, rfl⟩ := Option.isSome_iff_exists.1 (hreal.resolve_left fun hne => hne rfl)
    obtain ⟨behind, hbehind', hread⟩ := readExponent_written 0 (hbehind.trans htail'.symm)
      (hk k rfl) h.endsDigits
    refine ⟨behind, hbehind', ?_⟩
    have hletter : tail.head? = some 'e' := by
      rw [← htail']
      rfl
    rw [hletter]
    simpa using hread
  · have hpoint : tail = '.' :: (fraction ++ (exponentChars k? ++ rest)) := by
      rw [← htail', fractionChars, if_neg hne, List.cons_append]
    obtain ⟨behind, hbehind', hread⟩ := readFraction_written 0 (hbehind.trans hpoint) hne
      hdigits.2 hsize hk h
    refine ⟨behind, hbehind', ?_⟩
    rw [hpoint, List.head?_cons]
    simpa [Int.add_comm, Int.sub_eq_add_neg] using hread

end RuleTree.Json
