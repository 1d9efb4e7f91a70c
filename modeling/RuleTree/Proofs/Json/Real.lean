import RuleTree.Proofs.Json.Decimal
import RuleTree.Proofs.Json.Scaling

/-! Doubles written and read back. The text of a double is a decimal numeral, and reading it gives a double
again, though not always the same one: reading rounds more than once. -/

namespace RuleTree

open Json

/-! ### The text of a double -/

/-- The numeral that a decimal is written as. -/
def Decimal.numeral (d : Decimal) : DecimalText :=
  let digits := Nat.toDigits 10 d.digits
  if Binary64.Layout.json.positional d.pointPlace then
    if 0 ≤ d.exponent then ⟨digits ++ List.replicate d.exponent.toNat '0', ['0'], none⟩
    else if 0 < d.pointPlace then
      ⟨digits.take d.pointPlace.toNat, digits.drop d.pointPlace.toNat, none⟩
    else ⟨['0'], List.replicate (-d.pointPlace).toNat '0' ++ digits, none⟩
  else ⟨digits.take 1, digits.drop 1, some (d.pointPlace - 1)⟩

/-- The sign of a numeral. -/
def signChars (negative : Bool) : List Char := if negative then ['-'] else []

theorem digitText_toList (n : Nat) : (Decimal.digitText n).toList = Nat.toDigits 10 n := by
  rw [Decimal.digitText, String.toList_ofList]

theorem zeros_toList (n : Nat) : (Decimal.zeros n).toList = List.replicate n '0' := by
  rw [Decimal.zeros, String.toList_ofList]

/-- A point among the digits has a digit behind it. -/
theorem drop_pointPlace_ne_nil {d : Decimal} (h : d.exponent < 0) :
    (Nat.toDigits 10 d.digits).drop d.pointPlace.toNat ≠ [] := by
  have hwidth : 0 < Decimal.width d.digits := Nat.length_toDigits_pos
  have hlt : d.pointPlace.toNat < (Nat.toDigits 10 d.digits).length := by
    unfold Decimal.pointPlace Decimal.width at *
    omega
  intro hnil
  have hlength := List.drop_eq_nil_iff.1 hnil
  omega

theorem positional_toList {d : Decimal}
    (h : Binary64.Layout.json.positional d.pointPlace = true) :
    (d.positional ".0").toList = d.numeral.chars := by
  have hpoint : (".0" : String).toList = ['.', '0'] := rfl
  have hzero : ("0." : String).toList = ['0', '.'] := rfl
  have hdot : ("." : String).toList = ['.'] := rfl
  unfold Decimal.positional Decimal.numeral
  dsimp only
  rw [if_pos h]
  split
  · simp [DecimalText.chars, fractionChars, exponentChars, digitText_toList, zeros_toList, hpoint]
  · next hneg =>
    have hdrop := drop_pointPlace_ne_nil (Int.not_le.1 hneg)
    split
    · simp [DecimalText.chars, fractionChars, exponentChars, digitText_toList, hdot, hdrop]
    · simp [DecimalText.chars, fractionChars, exponentChars, digitText_toList, zeros_toList, hzero,
        Nat.toDigits_ne_nil]

theorem scientific_toList {d : Decimal}
    (h : ¬ Binary64.Layout.json.positional d.pointPlace = true) :
    d.scientific.toList = d.numeral.chars := by
  have hletter : ("e" : String).toList = ['e'] := rfl
  have hsign (k : Int) : (if k < 0 then "-" else "+" : String).toList =
      [if k < 0 then '-' else '+'] := by split <;> rfl
  unfold Decimal.scientific Decimal.numeral
  dsimp only
  rw [if_neg h, digitText_toList]
  generalize d.pointPlace - 1 = k
  obtain ⟨c, cs, hcs, -⟩ := toDigits_eq_cons d.digits
  rw [hcs]
  cases cs <;>
    simp [DecimalText.chars, fractionChars, exponentChars, digitText_toList, hletter, hsign]

theorem write_toList {x : Binary64} (h : x.isFinite = true) :
    (x.write .json).toList = signChars x.negative ++ (x.shortest .even).numeral.chars := by
  have hminus : ("-" : String).toList = ['-'] := rfl
  have hnan : x.isNaN = false := by
    rw [Binary64.isFinite, decide_eq_true_eq] at h
    exact decide_eq_false (Nat.lt_asymm h)
  have hinfinite : x.isInfinite = false := by
    rw [Binary64.isFinite, decide_eq_true_eq] at h
    exact decide_eq_false (Nat.ne_of_lt h)
  have hmagnitude : (if Binary64.Layout.json.positional (x.shortest .even).pointPlace then
      (x.shortest .even).positional ".0" else (x.shortest .even).scientific).toList =
        (x.shortest .even).numeral.chars := by
    split
    · next hpos => exact positional_toList hpos
    · next hpos => exact scientific_toList hpos
  rw [Binary64.write, hnan, hinfinite, ← hmagnitude, signChars]
  simp only [Bool.false_eq_true, if_false]
  split
  · rw [String.toList_append, hminus]
    rfl
  · rfl

/-! ### The parts of the numeral -/

/-- A decimal of a double: few digits, a short exponent, and none for zero. -/
structure Decimal.Short (d : Decimal) : Prop where
  digits_le : d.digits ≤ 10 ^ 18
  exponent_ge : -341 ≤ d.exponent
  exponent_le : d.exponent ≤ 308
  zero : d.digits = 0 → d.exponent = 0

theorem short_shortest {x : Binary64} (h : x.isFinite = true) : (x.shortest .even).Short := by
  obtain ⟨hdigits, hge, hle⟩ := Binary64.shortest_bounds h .even
  refine ⟨hdigits, hge, hle, fun hzero => ?_⟩
  by_cases hbits : x.magnitudeBits = 0
  · rw [Binary64.shortest, if_pos hbits]
  · have hpos := (Binary64.finds_shortest h hbits .even).pos
    omega

theorem width_le {n k : Nat} (hk : 0 < k) (h : n < 10 ^ k) : Decimal.width n ≤ k :=
  (Nat.length_toDigits_le_iff (by decide) hk).2 h

theorem lt_of_width_le {n k : Nat} (hk : 0 < k) (h : Decimal.width n ≤ k) : n < 10 ^ k :=
  (Nat.length_toDigits_le_iff (by decide) hk).1 h

/-- The digits of a number other than zero do not begin with zero. -/
theorem toDigits_first {n : Nat} (h : 0 < n) :
    ∃ c more, Nat.toDigits 10 n = c :: more ∧ c ≠ '0' := by
  obtain ⟨c, more, hc, -⟩ := toDigits_eq_cons n
  refine ⟨c, more, hc, ?_⟩
  rintro rfl
  exact head?_toDigits_ne_zero h (by rw [hc]; rfl)

theorem isDigit_replicate_zero (k : Nat) : ∀ c ∈ List.replicate k '0', c.isDigit = true := by
  intro c hc
  rw [List.eq_of_mem_replicate hc]
  rfl

theorem significand_zeros (n k : Nat) :
    Nat.ofDigitChars 10 (Nat.toDigits 10 n ++ List.replicate k '0' ++ ['0']) 0 = 10 ^ (k + 1) * n := by
  have hzero : ['0'] = List.replicate 1 '0' := rfl
  rw [hzero, List.append_assoc, List.replicate_append_replicate, Nat.ofDigitChars_append,
    Nat.ofDigitChars_ten_toDigits, Nat.ofDigitChars_replicate_zero]

theorem significand_fraction (n k : Nat) :
    Nat.ofDigitChars 10 (['0'] ++ (List.replicate k '0' ++ Nat.toDigits 10 n)) 0 = n := by
  have hzero : ['0'] = List.replicate 1 '0' := rfl
  rw [hzero, Nat.ofDigitChars_append, Nat.ofDigitChars_append, Nat.ofDigitChars_replicate_zero,
    Nat.ofDigitChars_replicate_zero, Nat.mul_zero, Nat.ofDigitChars_ten_toDigits]

/-- A whole number of at most sixteen digits, with one more zero. -/
theorem digits_scaled_lt {n k : Nat} (h : Decimal.width n + k ≤ 16) : 10 ^ (k + 1) * n < 10 ^ 17 := by
  have hwidth : 0 < Decimal.width n := Nat.length_toDigits_pos
  have hlt : n < 10 ^ (16 - k) :=
    lt_of_width_le (by omega) (by omega)
  have hsplit : 10 ^ (k + 1) * 10 ^ (16 - k) = 10 ^ 17 := by
    rw [← Nat.pow_add]
    congr 1
    omega
  rw [← hsplit]
  exact Nat.mul_lt_mul_of_pos_left hlt (Nat.pow_pos (by decide))

/-- Zero is the only decimal whose whole part is a zero with nothing behind it but more zeros. -/
theorem Decimal.Short.whole {d : Decimal} (h : d.Short) :
    Nat.toDigits 10 d.digits ++ List.replicate d.exponent.toNat '0' = ['0'] ∨
      ∃ c more, Nat.toDigits 10 d.digits = c :: more ∧ c ≠ '0' := by
  rcases Nat.eq_zero_or_pos d.digits with hzero | hpos
  · left
    rw [hzero, h.zero hzero]
    rfl
  · exact .inr (toDigits_first hpos)

/-- The point may stand behind any of the digits. -/
theorem wellFormed_split {ds : List Char} {k : Nat} {exponent? : Option Int}
    (hall : ∀ c ∈ ds, c.isDigit = true) (hfirst : ∃ c more, ds = c :: more ∧ c ≠ '0')
    (hvalue : Nat.ofDigitChars 10 ds 0 < UInt64.size) (hk : 0 < k)
    (hexponent : ∀ e, exponent? = some e → e.natAbs < 1 <<< 31)
    (hreal : ds.drop k ≠ [] ∨ exponent?.isSome = true) :
    DecimalText.WellFormed ⟨ds.take k, ds.drop k, exponent?⟩ := by
  obtain ⟨c, more, rfl, hne⟩ := hfirst
  obtain ⟨k, rfl⟩ := Nat.exists_eq_succ_of_ne_zero hk.ne'
  refine ⟨?_, .inr ⟨c, more.take k, rfl, hne⟩, ?_, hexponent, hreal⟩
  · dsimp only
    rwa [List.take_append_drop]
  · rwa [DecimalText.significand, List.take_append_drop]

theorem Decimal.numeral_wellFormed {d : Decimal} (h : d.Short) : d.numeral.WellFormed := by
  have hall := isDigit_toDigits d.digits
  have hvalue := @Nat.ofDigitChars_ten_toDigits d.digits
  have hsmall : d.digits < UInt64.size := Nat.lt_of_le_of_lt h.digits_le (by decide)
  have hwidth : 0 < width d.digits := Nat.length_toDigits_pos
  have hwide : width d.digits ≤ 19 :=
    width_le (by decide) (Nat.lt_of_le_of_lt h.digits_le (by decide))
  unfold numeral
  dsimp only
  split
  · next hpositional =>
    simp only [Binary64.Layout.json, Bool.and_eq_true, decide_eq_true_eq, pointPlace] at hpositional
    split
    · next hexp =>
      refine ⟨?_, ?_, ?_, fun k hk => (nomatch hk), .inl (List.cons_ne_nil _ _)⟩
      · simp only [List.forall_mem_append, List.forall_mem_singleton]
        exact ⟨⟨hall, isDigit_replicate_zero _⟩, rfl⟩
      · rcases h.whole with hzero | ⟨c, more, hc, hne⟩
        · exact .inl hzero
        · exact .inr ⟨c, _, by rw [hc, List.cons_append], hne⟩
      · rw [DecimalText.significand, significand_zeros]
        exact Nat.lt_trans (digits_scaled_lt (by omega)) (by decide)
    · next hexp =>
      have hpos : 0 < d.digits := Nat.pos_of_ne_zero fun hzero => by
        have hexp0 := h.zero hzero
        omega
      split
      · next hplace =>
        exact wellFormed_split hall (toDigits_first hpos) (hvalue.symm ▸ hsmall) (by omega)
          (fun k hk => (nomatch hk)) (.inl (drop_pointPlace_ne_nil (Int.not_le.1 hexp)))
      · next hplace =>
        refine ⟨?_, .inl rfl, ?_, fun k hk => (nomatch hk), ?_⟩
        · simp only [List.forall_mem_append, List.forall_mem_singleton]
          exact ⟨rfl, isDigit_replicate_zero _, hall⟩
        · rwa [DecimalText.significand, significand_fraction]
        · exact .inl (List.append_ne_nil_of_right_ne_nil _ Nat.toDigits_ne_nil)
  · next hscientific =>
    simp only [Binary64.Layout.json, Bool.and_eq_true, decide_eq_true_eq, pointPlace] at hscientific
    have hpos : 0 < d.digits := Nat.pos_of_ne_zero fun hzero => by
      have hexp0 := h.zero hzero
      have hone : width d.digits = 1 := by
        rw [hzero]
        rfl
      omega
    obtain ⟨-, hge, hle, -⟩ := h
    refine wellFormed_split hall (toDigits_first hpos) (hvalue.symm ▸ hsmall) (by decide) ?_ (.inr rfl)
    rintro k ⟨⟩
    have hplace : d.pointPlace = width d.digits + d.exponent := rfl
    omega

/-- The numeral has the value of the decimal; a whole number not written in full has one more zero. -/
theorem Decimal.numeral_value (d : Decimal) :
    d.numeral.exponent = -1 ∨
      d.numeral.significand = d.digits ∧ d.numeral.exponent = d.exponent := by
  have hvalue := @Nat.ofDigitChars_ten_toDigits d.digits
  have hwidth : 0 < width d.digits := Nat.length_toDigits_pos
  have hlength : (Nat.toDigits 10 d.digits).length = width d.digits := rfl
  have hplace : d.pointPlace = width d.digits + d.exponent := rfl
  unfold numeral
  dsimp only
  split
  · split
    · exact .inl rfl
    · next hexp =>
      right
      split
      · refine ⟨by rw [DecimalText.significand, List.take_append_drop, hvalue], ?_⟩
        rw [DecimalText.exponent, List.length_drop, hlength, Option.getD_none]
        omega
      · refine ⟨by rw [DecimalText.significand, significand_fraction], ?_⟩
        rw [DecimalText.exponent, List.length_append, List.length_replicate, hlength,
          Option.getD_none]
        omega
  · right
    refine ⟨by rw [DecimalText.significand, List.take_append_drop, hvalue], ?_⟩
    rw [DecimalText.exponent, List.length_drop, hlength, Option.getD_some]
    omega

/-! ### In range -/

namespace Binary64

variable {x y : Binary64}

/-- The shortest decimal depends on the magnitude alone. -/
theorem shortest_congr (h : x.magnitudeBits = y.magnitudeBits) (tie : Tie) :
    x.shortest tie = y.shortest tie := by
  have hinterval : x.interval = y.interval := by
    unfold interval units significand shift exponentField fractionField
    rw [h]
  rw [shortest, shortest, hinterval, h]

/-- The interval of every double but the two largest ends three places below the end of the range. -/
theorem high_le_of_not_top (hzero : x.magnitudeBits ≠ 0)
    (htop : x.magnitudeBits ≤ 2047 * 2 ^ 52 - 3) :
    x.interval.high ≤ (4 * (2 ^ 54 - 5)) * 2 ^ 2044 := by
  have hfinite : x.isFinite = true := by
    rw [isFinite, decide_eq_true_eq, shiftLeft_eq_mul]
    omega
  obtain ⟨-, hsig, hshift⟩ := finite_parts hfinite hzero
  have hhigh : x.interval.high = (4 * x.significand + 2) * 2 ^ x.shift := by
    simp only [interval, units, shiftLeft_eq_mul]
    ring
  rw [hhigh]
  by_cases hlast : x.shift = 2044 + 1
  · have hthree : x.significand ≤ 2 ^ 53 - 3 := by
      rw [shift, exponentField, Nat.shiftRight_eq_div_pow] at hlast
      rw [significand, exponentField, fractionField, Nat.shiftRight_eq_div_pow, Nat.one_shiftLeft]
      split <;> omega
    rw [hlast, pow_succ']
    generalize 2 ^ 2044 = top
    have hle : 4 * x.significand + 2 ≤ 2 * (2 ^ 54 - 5) := by omega
    have hmul := Nat.mul_le_mul_right (2 * top) hle
    omega
  · have hplace : 2 ^ x.shift ≤ 2 ^ 2044 := two_pow_le (by omega)
    refine (Nat.mul_le_mul_left _ hplace).trans (Nat.mul_le_mul_right _ ?_)
    omega

/-- A whole shortest decimal is as far below the end of the range. -/
theorem scaled_le_of_not_top (hzero : x.magnitudeBits ≠ 0)
    (htop : x.magnitudeBits ≤ 2047 * 2 ^ 52 - 3) {k : Nat}
    (hk : (x.shortest .even).exponent = k) :
    (x.shortest .even).digits * Nat.pow 10 k * 2 ^ 1074 ≤ (2 ^ 54 - 5) * 2 ^ 2044 := by
  have hfinite : x.isFinite = true := by
    rw [isFinite, decide_eq_true_eq, shiftLeft_eq_mul]
    omega
  have hhigh := high_le_of_not_top hzero htop
  have hle : (x.shortest .even).digits * Nat.pow 10 k * x.interval.denom ≤ x.interval.high := by
    have hfinds := (finds_shortest hfinite hzero .even).le
    rw [Decimal.value, hk, zpow_natCast] at hfinds
    exact_mod_cast hfinds
  have hdenom : x.interval.denom = 4 * 2 ^ 1074 := shiftLeft_eq_mul 4 1074
  rw [hdenom] at hle
  generalize (x.shortest .even).digits * Nat.pow 10 k = n at hle ⊢
  generalize 2 ^ 1074 = one at hle ⊢
  generalize 2 ^ 2044 = top at hhigh ⊢
  have hassoc : n * (4 * one) = 4 * (n * one) := by ring
  omega

theorem magnitude_of_top (h : 2047 * 2 ^ 52 - 3 < x.magnitudeBits) (hfinite : x.isFinite = true) :
    x.magnitudeBits = 2047 * 2 ^ 52 - 1 ∨ x.magnitudeBits = 2047 * 2 ^ 52 - 2 := by
  rw [isFinite, decide_eq_true_eq, shiftLeft_eq_mul] at hfinite
  omega

/-- The two largest doubles are written with fewer places than they have, and read back all the same. -/
theorem scale_isSome_of_top {m : Nat} (h : m = 2047 * 2 ^ 52 - 1 ∨ m = 2047 * 2 ^ 52 - 2) :
    (Json.scale (.ofNat ((ofMagnitude false m).shortest .even).digits)
      ((ofMagnitude false m).shortest .even).exponent 5).isSome = true := by
  rcases h with rfl | rfl <;> decide +kernel

end Binary64

/-- The numeral that a finite double is written as is in range. -/
theorem exists_ofParts {x : Binary64} (h : x.isFinite = true) (negative : Bool) :
    ∃ y, ofParts negative (x.shortest .even).numeral.significand
      (x.shortest .even).numeral.exponent = some y := by
  rw [← Option.isSome_iff_exists, ofParts_isSome]
  obtain ⟨hdigits, hge, hle, hzero⟩ := short_shortest h
  rcases (x.shortest .even).numeral_value with hminus | ⟨hsignificand, hexponent⟩
  · rw [hminus]
    exact scale_isSome_of_neg (by decide) (by decide)
  · rw [hsignificand, hexponent]
    by_cases hneg : (x.shortest .even).exponent < 0
    · exact scale_isSome_of_neg hneg (by omega)
    · obtain ⟨k, hk⟩ := Int.eq_ofNat_of_zero_le (Int.not_lt.1 hneg)
      by_cases hbits : x.magnitudeBits = 0
      · rw [Binary64.shortest, if_pos hbits]
        decide +kernel
      · by_cases htop : x.magnitudeBits ≤ 2047 * 2 ^ 52 - 3
        · have hpos := (Binary64.finds_shortest h hbits .even).pos
          have hscaled := Binary64.scaled_le_of_not_top hbits htop hk
          rw [hk] at hle ⊢
          exact scale_isSome_of_le hpos (Nat.lt_of_le_of_lt hdigits (by decide)) (by omega) hscaled
        · have hm := Binary64.magnitude_of_top (Nat.not_le.1 htop) h
          have hsame : (Binary64.ofMagnitude false x.magnitudeBits).magnitudeBits = x.magnitudeBits := by
            rw [Binary64.magnitudeBits_ofMagnitude]
            exact Nat.mod_mod ..
          rw [← Binary64.shortest_congr hsame]
          exact Binary64.scale_isSome_of_top hm

end RuleTree
