import Mathlib.Data.List.TakeWhile
import RuleTree.Proofs.Json.Numeral
import RuleTree.Proofs.Json.Text
import RuleTree.Proofs.Outcome

/-! What a reader takes from the front of a text. Words, texts and numerals are read from their own characters, and are
read alike wherever the same characters stand again, a numeral where nothing behind it goes on with it. -/

namespace RuleTree.Json

variable {α β : Type}

/-- Wherever the characters stand before such a rest, the reader takes just them, and gives the value. -/
def Takes (read : Cursor → Except Fault (α × Cursor)) (before : List Char → Prop) (t : List Char) (a : α) :
    Prop :=
  ∀ (c : Cursor) (rest : List Char), c.rest = t ++ rest → before rest →
    ∃ behind, read c = .ok (a, behind) ∧ behind.rest = rest

/-- Anything may stand behind. -/
def Anywhere : List Char → Prop := fun _ => True

/-- What the reader gives hangs on the characters that it takes. -/
def Local (read : Cursor → Except Fault (α × Cursor)) : Prop :=
  ∀ (c : Cursor) (a : α) (behind : Cursor), read c = .ok (a, behind) →
    ∃ t, c.rest = t ++ behind.rest ∧ Takes read Anywhere t a

theorem Local.bind {read : Cursor → Except Fault (α × Cursor)} {next : α × Cursor → Except Fault (β × Cursor)}
    (h : Local read) (hnext : ∀ a, Local fun c => next (a, c)) : Local fun c => read c >>= next := by
  intro c b behind hread
  obtain ⟨⟨a, middle⟩, ha, hb⟩ := bind_eq_ok_iff.1 hread
  obtain ⟨t, ht, htakes⟩ := h c a middle ha
  obtain ⟨u, hu, hutakes⟩ := hnext a middle b behind hb
  refine ⟨t ++ u, by rw [ht, hu, List.append_assoc], fun c' rest hc' _ => ?_⟩
  rw [List.append_assoc] at hc'
  obtain ⟨middle', ha', hmiddle'⟩ := htakes c' (u ++ rest) hc' trivial
  obtain ⟨behind', hb', hbehind'⟩ := hutakes middle' rest hmiddle' trivial
  exact ⟨behind', bind_eq_ok_iff.2 ⟨_, ha', hb'⟩, hbehind'⟩

/-- Behind a step that gives nothing. -/
theorem Local.after {step : Cursor → Except Fault Cursor} {next : Cursor → Except Fault (β × Cursor)}
    (h : Local fun c => (step c).map fun c => ((), c)) (hnext : Local next) :
    Local fun c => step c >>= next := by
  have hsame : (fun c => step c >>= next) =
      fun c => ((step c).map fun c => ((), c)) >>= fun p => next p.2 := by
    funext c
    cases step c <;> rfl
  rw [hsame]
  exact h.bind fun _ => hnext

theorem Local.give (a : α) : Local fun c => .ok (a, c) := by
  rintro c _ _ ⟨⟩
  exact ⟨[], rfl, fun c' rest hc' _ => ⟨c', rfl, hc'⟩⟩

theorem Local.refuse (f : Cursor → Fault) : Local (α := α) fun c => .error (f c) :=
  fun _ _ _ h => nomatch h

theorem Local.ite {p : Prop} [Decidable p] {read read' : Cursor → Except Fault (α × Cursor)}
    (h : Local read) (h' : Local read') : Local fun c => if p then read c else read' c := by
  by_cases hp : p
  · simpa only [hp, if_true] using h
  · simpa only [hp, if_false] using h'

/-! ### Words -/

theorem expectWord_eq_ok {word : List Char} {c behind : Cursor} (h : expectWord c word = .ok behind) :
    c.rest = word ++ behind.rest := by
  induction word generalizing c with
  | nil =>
    cases h
    rfl
  | cons w word ih =>
    unfold expectWord at h
    split at h
    · cases h
    · next ch more hc =>
      split at h
      · next hw =>
        have hnext := ih h
        rw [Cursor.next_rest_of_cons hc] at hnext
        rw [hc, hw, hnext, List.cons_append]
      · cases h

/-! ### Escapes -/

theorem local_readHex : Local readHex := by
  intro c n behind h
  unfold readHex at h
  split at h
  · cases h
  · split at h
    · next h₁ h₂ h₃ h₄ more hc =>
      split at h
      · next v₁ v₂ v₃ v₄ hv₁ hv₂ hv₃ hv₄ =>
        cases h
        refine ⟨[h₁, h₂, h₃, h₄], by simp [hc], fun c' rest hc' _ => ?_⟩
        have hbytes : ¬ c'.bytes < 4 := by
          have := four_le_bytes hc'
          omega
        refine ⟨c'.next.next.next.next, ?_, by simp [hc']⟩
        rw [readHex, if_neg hbytes, hc']
        simp only [List.cons_append, hv₁, hv₂, hv₃, hv₄]
      · cases h
    · cases h

theorem local_expectPaired (ch : Char) : Local fun c => (expectPaired ch c).map fun c => ((), c) := by
  intro c u behind h
  obtain ⟨next, hnext, ⟨⟩⟩ := map_eq_ok_iff.1 h
  unfold expectPaired at hnext
  split at hnext
  · cases hnext
  · next found more hc =>
    split at hnext
    · next hfound =>
      cases hnext
      refine ⟨[ch], by rw [Cursor.next_rest_of_cons hc, hc, hfound]; rfl, fun c' rest hc' _ => ?_⟩
      have hfront : c'.rest = ch :: rest := hc'
      refine ⟨c'.next, map_eq_ok_iff.2 ⟨c'.next, ?_, rfl⟩, Cursor.next_rest_of_cons hfront⟩
      rw [expectPaired, hfront]
      exact if_pos rfl
    · cases hnext

theorem local_readUnicodeEscape : Local readUnicodeEscape := by
  refine local_readHex.bind fun n => (Local.refuse _).ite ((Local.give _).ite ?_)
  refine (local_expectPaired '\\').after ((local_expectPaired 'u').after ?_)
  exact local_readHex.bind fun m => (Local.refuse _).ite (Local.give _)

/-! ### Texts -/

/-- The characters stand for one inside a text. -/
def Stands (w : List Char) (ch : Char) : Prop :=
  ∀ (fuel : Nat) (c : Cursor) (acc rest : List Char), c.rest = w ++ rest →
    ∃ c', readChars (fuel + 1) c acc = readChars fuel c' (ch :: acc) ∧ c'.rest = rest

theorem stands_unicode {w : List Char} {ch : Char} (h : Takes readUnicodeEscape Anywhere w ch) :
    Stands ('\\' :: 'u' :: w) ch := by
  intro fuel c acc rest hc
  have hdigits : c.next.next.rest = w ++ rest := by simp [hc]
  obtain ⟨c', hread, hrest⟩ := h _ rest hdigits trivial
  refine ⟨c', ?_, hrest⟩
  rw [readChars, hc]
  simp only [List.cons_append, hread, bind, Except.bind]

/-- Reading goes on behind what stands for one character, or stops at the closing quote. -/
theorem readChars_succ {fuel : Nat} {c behind : Cursor} {acc : List Char} {s : String}
    (h : readChars (fuel + 1) c acc = .ok (s, behind)) :
    (c.rest = '"' :: behind.rest ∧ s = String.ofList acc.reverse) ∨
      ∃ w ch c', 0 < w.length ∧ c.rest = w ++ c'.rest ∧ Stands w ch ∧
        readChars fuel c' (ch :: acc) = .ok (s, behind) := by
  unfold readChars at h
  split at h
  · cases h
  · next more hc =>
    cases h
    exact .inl ⟨by rw [Cursor.next_rest_of_cons hc, hc], rfl⟩
  · next escape hc =>
    have hescape := Cursor.next_rest_of_cons hc
    right
    dsimp only at h
    split at h
    · cases h
    · next more =>
      obtain ⟨⟨ch, c'⟩, hread, h⟩ := bind_eq_ok_iff.1 h
      obtain ⟨w, hw, htakes⟩ := local_readUnicodeEscape _ _ _ hread
      refine ⟨'\\' :: 'u' :: w, ch, c', Nat.succ_pos _, ?_, stands_unicode htakes, h⟩
      rw [Cursor.next_rest_of_cons hescape] at hw
      rw [hc, hw]
      rfl
    · next e more _ =>
      split at h
      · next ch he =>
        refine ⟨['\\', e], ch, c.next.next, Nat.succ_pos _, ?_, fun fuel c acc rest hc => ?_, h⟩
        · rw [Cursor.next_rest_of_cons hescape, hc]
          rfl
        · exact readChars_simple he hc
      · cases h
  · next ch more hquote hslash hc =>
    split at h
    · cases h
    · next hlow =>
      refine .inr ⟨[ch], ch, c.next, Nat.succ_pos _, ?_, fun fuel c acc rest hc => ?_, h⟩
      · rw [Cursor.next_rest_of_cons hc, hc]
        rfl
      · exact readChars_plain hquote hslash hlow hc

theorem readChars_takes {fuel : Nat} {c behind : Cursor} {acc : List Char} {s : String}
    (h : readChars fuel c acc = .ok (s, behind)) :
    ∃ t, c.rest = t ++ behind.rest ∧ t.getLast? = some '"' ∧
      ∀ fuel', t.length ≤ fuel' → Takes (fun c => readChars fuel' c acc) Anywhere t s := by
  induction fuel generalizing c acc with
  | zero => cases h
  | succ fuel ih =>
    obtain ⟨hc, rfl⟩ | ⟨w, ch, c', hpos, hc, hstands, h⟩ := readChars_succ h
    · refine ⟨['"'], hc, rfl, fun fuel' hfuel c' rest hc' _ => ?_⟩
      obtain ⟨fuel', rfl⟩ := Nat.exists_eq_add_one_of_ne_zero (Nat.ne_of_gt hfuel)
      have hfront : c'.rest = '"' :: rest := hc'
      refine ⟨c'.next, ?_, Cursor.next_rest_of_cons hfront⟩
      simp only [readChars, hfront]
    · obtain ⟨t, ht, hlast, htakes⟩ := ih h
      refine ⟨w ++ t, by rw [hc, ht, List.append_assoc], ?_, fun fuel' hfuel c₁ rest hc₁ _ => ?_⟩
      · rw [List.getLast?_append, hlast]
        rfl
      · rw [List.length_append] at hfuel
        obtain ⟨fuel', rfl⟩ := Nat.exists_eq_add_one_of_ne_zero (n := fuel') (by omega)
        rw [List.append_assoc] at hc₁
        obtain ⟨c₂, hstep, hc₂⟩ := hstands fuel' c₁ acc (t ++ rest) hc₁
        obtain ⟨behind', hread, hrest⟩ := htakes fuel' (by omega) c₂ rest hc₂ trivial
        exact ⟨behind', hstep.trans hread, hrest⟩

/-- A text ends in its closing quote. -/
theorem readText_takes {c behind : Cursor} {s : String} (h : readText c = .ok (s, behind)) :
    ∃ t, c.rest = t ++ behind.rest ∧ t.getLast? = some '"' ∧ Takes readText Anywhere t s := by
  obtain ⟨t, ht, hlast, htakes⟩ := readChars_takes h
  refine ⟨t, ht, hlast, fun c' rest hc' hrest => ?_⟩
  refine htakes (c'.rest.length + 1) ?_ c' rest hc' hrest
  rw [hc', List.length_append]
  omega

/-! ### Digits -/

/-- Cursors before the same digits read the same number there. -/
theorem digits_of_append {c : Cursor} {ds rest : List Char} (hc : c.rest = ds ++ rest)
    (hds : ∀ d ∈ ds, d.isDigit = true) (hrest : EndsDigits rest) :
    c.digits = ds ∧ c.skipDigits.rest = rest := by
  rw [Cursor.digits, Cursor.skipDigits_rest, hc]
  exact ⟨takeWhile_digits hds hrest, dropWhile_digits hds hrest⟩

theorem exists_digits (c : Cursor) : c.rest = c.digits ++ c.skipDigits.rest ∧
    (∀ d ∈ c.digits, d.isDigit = true) ∧ EndsDigits c.skipDigits.rest := by
  rw [Cursor.digits, Cursor.skipDigits_rest]
  refine ⟨(List.takeWhile_append_dropWhile).symm, fun d hd => List.mem_takeWhile_imp hd, fun d hd => ?_⟩
  have hhead := List.head?_dropWhile_not Char.isDigit c.rest
  rw [Option.mem_def.1 hd] at hhead
  exact hhead

/-! ### Numerals -/

/-- None of the characters is space. -/
def Solid (t : List Char) : Prop := ∀ ch ∈ t, Cursor.isSpace ch = false

theorem solid_digits {ds : List Char} (h : ∀ d ∈ ds, d.isDigit = true) : Solid ds :=
  fun d hd => not_isSpace_of_numeral (.inr (h d hd))

/-- What goes on a numeral behind its first digits: it does not begin with a digit, even where there is nothing. -/
structure GoesOn (read : Cursor → Except Fault (Number × Cursor)) (u : List Char) (n : Number) : Prop where
  solid : Solid u
  ends : ∀ rest, Delimits rest → EndsDigits (u ++ rest)
  takes : Takes read Delimits u n

section

variable {c behind : Cursor} {n : Number} {negative : Bool} {significand : Nat} {exponent : Int}

theorem finishReal_eq_ok (h : finishReal c negative significand exponent = .ok (n, behind)) :
    behind = c ∧ ∀ c', finishReal c' negative significand exponent = .ok (n, c') := by
  unfold finishReal at h ⊢
  split at h
  · cases h
    exact ⟨rfl, fun c' => rfl⟩
  · cases h

/-- Reads an exponent from its digits on. -/
def readPower (negative : Bool) (significand : Nat) (start : Int) (down : Bool) (c : Cursor) :
    Except Fault (Number × Cursor) :=
  match c.rest with
  | [] => .error (c.fault .endInValue)
  | ch :: _ =>
    if !ch.isDigit then .error (c.peekFault .invalidNumber)
    else
      match exponentOverflow? 0 0 c.digits with
      | some read =>
        if significand ≠ 0 ∧ !down then .error ⟨.numberOutOfRange, some (c.placeAfter read)⟩
        else .ok (.real (.zero negative), c.skipDigits)
      | none =>
        let value : Int := c.digits.foldl (fun n d => n * 10 + digitValue d) (0 : Nat)
        finishReal c.skipDigits negative significand (if down then start - value else start + value)

/-- Behind the sign of an exponent: does it go down? -/
def afterSign (c : Cursor) : Bool × Cursor :=
  match c.rest.head? with
  | some '+' => (false, c.next)
  | some '-' => (true, c.next)
  | _ => (false, c)

theorem readExponent_eq (c : Cursor) (negative : Bool) (significand : Nat) (start : Int) :
    readExponent c negative significand start =
      readPower negative significand start (afterSign c.next).1 (afterSign c.next).2 := rfl

theorem exists_sign (c : Cursor) : ∃ sign, Solid sign ∧ c.rest = sign ++ (afterSign c).2.rest ∧
    ∀ (c' : Cursor) (d : Char) (more : List Char), d.isDigit = true → c'.rest = sign ++ d :: more →
      (afterSign c').1 = (afterSign c).1 ∧ (afterSign c').2.rest = d :: more := by
  have hdigit (c' : Cursor) (d : Char) (more : List Char) (hd : d.isDigit = true)
      (hc' : c'.rest = d :: more) : afterSign c' = (false, c') := by
    unfold afterSign
    rw [hc']
    split
    · next h =>
      cases h
      cases hd
    · next h =>
      cases h
      cases hd
    · rfl
  unfold afterSign at *
  split
  · next h =>
    obtain ⟨more, hc⟩ := List.head?_eq_some_iff.1 h
    refine ⟨['+'], List.forall_mem_singleton.2 rfl, by rw [Cursor.next_rest_of_cons hc, hc]; rfl, ?_⟩
    intro c' d more' hd hc'
    rw [hc']
    exact ⟨rfl, Cursor.next_rest_of_cons hc'⟩
  · next h =>
    obtain ⟨more, hc⟩ := List.head?_eq_some_iff.1 h
    refine ⟨['-'], List.forall_mem_singleton.2 rfl, by rw [Cursor.next_rest_of_cons hc, hc]; rfl, ?_⟩
    intro c' d more' hd hc'
    rw [hc']
    exact ⟨rfl, Cursor.next_rest_of_cons hc'⟩
  · refine ⟨[], List.forall_mem_nil _, rfl, fun c' d more hd hc' => ?_⟩
    rw [hdigit c' d more hd hc']
    exact ⟨rfl, hc'⟩

theorem readPower_takes {start : Int} {down : Bool}
    (h : readPower negative significand start down c = .ok (n, behind)) :
    ∃ d ds, (∀ e ∈ d :: ds, e.isDigit = true) ∧ c.rest = d :: ds ++ behind.rest ∧
      Takes (readPower negative significand start down) EndsDigits (d :: ds) n := by
  obtain ⟨hsplit, hall, -⟩ := exists_digits c
  unfold readPower at h
  split at h
  · cases h
  · next d more hc =>
    split at h
    · cases h
    · next hdigit =>
      have hfirst : c.digits = d :: more.takeWhile Char.isDigit := by
        rw [Cursor.digits, hc, List.takeWhile_cons_of_pos (by simpa using hdigit)]
      generalize more.takeWhile Char.isDigit = ds at hfirst
      rw [hfirst] at hall hsplit h
      refine ⟨d, ds, hall, ?_, fun c' rest hc' hrest => ?_⟩
      · split at h
        · split at h
          · cases h
          · cases h
            exact hsplit
        · rw [(finishReal_eq_ok h).1, hsplit]
      · obtain ⟨hdigits', hrest'⟩ := digits_of_append hc' hall hrest
        refine ⟨c'.skipDigits, ?_, hrest'⟩
        unfold readPower
        rw [hc', List.cons_append]
        simp only [hdigit, hdigits']
        split at h
        · split at h
          · cases h
          · next hzero =>
            cases h
            exact if_neg hzero
        · exact (finishReal_eq_ok h).2 _

theorem readExponent_takes {start : Int} {l : Char} {more : List Char} (hc : c.rest = l :: more)
    (h : readExponent c negative significand start = .ok (n, behind)) :
    ∃ u, Solid u ∧ c.rest = l :: u ++ behind.rest ∧
      Takes (fun c => readExponent c negative significand start) EndsDigits (l :: u) n := by
  rw [readExponent_eq] at h
  obtain ⟨sign, hsolid, hsign, hsame⟩ := exists_sign c.next
  obtain ⟨d, ds, hall, hdigits, htakes⟩ := readPower_takes h
  refine ⟨sign ++ d :: ds, List.forall_mem_append.2 ⟨hsolid, solid_digits hall⟩, ?_, ?_⟩
  · rw [hdigits, Cursor.next_rest_of_cons hc] at hsign
    simp [hc, hsign]
  · intro c' rest hc' hrest
    have hnext : c'.next.rest = sign ++ d :: (ds ++ rest) := by simp [hc']
    obtain ⟨hdown, hrest'⟩ := hsame c'.next d _ (hall d List.mem_cons_self) hnext
    obtain ⟨behind', hread, hbehind'⟩ := htakes (afterSign c'.next).2 rest hrest' hrest
    refine ⟨behind', ?_, hbehind'⟩
    dsimp only
    rw [readExponent_eq, hdown, hread]

/-- An exponent from its letter on. -/
theorem goesOn_exponent {read : Cursor → Except Fault (Number × Cursor)} {start : Int}
    (hletter : c.rest.head? = some 'e' ∨ c.rest.head? = some 'E')
    (hread : ∀ c' : Cursor, c'.rest.head? = c.rest.head? →
      read c' = readExponent c' negative significand start)
    (h : read c = .ok (n, behind)) : ∃ u, c.rest = u ++ behind.rest ∧ GoesOn read u n := by
  obtain ⟨l, hl, hsolid⟩ : ∃ l, c.rest.head? = some l ∧ Cursor.isSpace l = false ∧ l.isDigit = false := by
    rcases hletter with h | h
    · exact ⟨'e', h, rfl, rfl⟩
    · exact ⟨'E', h, rfl, rfl⟩
  obtain ⟨more, hc⟩ := List.head?_eq_some_iff.1 hl
  rw [hread c rfl] at h
  obtain ⟨u, hu, hsplit, htakes⟩ := readExponent_takes hc h
  refine ⟨l :: u, hsplit, List.forall_mem_cons.2 ⟨hsolid.1, hu⟩, ?_, fun c' rest hc' hrest => ?_⟩
  · rintro rest - d ⟨⟩
    exact hsolid.2
  · have hhead : c'.rest.head? = c.rest.head? := by rw [hc', hl]; rfl
    obtain ⟨behind', hread', hbehind'⟩ := htakes c' rest hc' hrest.endsDigits
    exact ⟨behind', (hread c' hhead).trans hread', hbehind'⟩

/-- Nothing goes on the numeral. -/
theorem goesOn_nothing {read : Cursor → Except Fault (Number × Cursor)}
    (h : ∀ c' : Cursor, Delimits c'.rest → read c' = .ok (n, c')) : GoesOn read [] n where
  solid := List.forall_mem_nil _
  ends _ hrest := hrest.endsDigits
  takes c' _ hc' hrest := ⟨c', h c' (hc'.symm ▸ hrest), hc'⟩

theorem readTail_goesOn (h : readTail c negative significand exponent = .ok (n, behind)) :
    ∃ u, c.rest = u ++ behind.rest ∧
      GoesOn (fun c => readTail c negative significand exponent) u n := by
  by_cases hletter : c.rest.head? = some 'e' ∨ c.rest.head? = some 'E'
  · have hexponent (c' : Cursor) (hhead : c'.rest.head? = c.rest.head?) :
        readTail c' negative significand exponent = readExponent c' negative significand exponent := by
      unfold readTail
      rw [hhead]
      rcases hletter with hl | hl <;> rw [hl] <;> rfl
    exact goesOn_exponent hletter hexponent h
  · rw [not_or] at hletter
    have hend (c' : Cursor) (hsmall : c'.rest.head? ≠ some 'e') (hlarge : c'.rest.head? ≠ some 'E') :
        readTail c' negative significand exponent = finishReal c' negative significand exponent := by
      unfold readTail
      split
      · next he => exact absurd he hsmall
      · next he => exact absurd he hlarge
      · rfl
    rw [hend c hletter.1 hletter.2] at h
    obtain ⟨rfl, hfinish⟩ := finishReal_eq_ok h
    refine ⟨[], rfl, goesOn_nothing fun c' hrest => ?_⟩
    obtain ⟨-, hsmall, hlarge⟩ := not_numeral_head hrest
    exact (hend c' hsmall hlarge).trans (hfinish c')

/-- A fraction from its point on. -/
theorem readFraction_goesOn {more : List Char} (hc : c.rest = '.' :: more)
    (h : readFraction c negative significand exponent = .ok (n, behind)) :
    ∃ u, c.rest = '.' :: u ++ behind.rest ∧ Solid u ∧
      Takes (fun c => readFraction c negative significand exponent) Delimits ('.' :: u) n := by
  obtain ⟨hsplit, hall, -⟩ := exists_digits c.next
  unfold readFraction at h
  dsimp only at h
  split at h
  · cases h
  · next ds hne =>
    obtain ⟨u, hu, hgoes⟩ := readTail_goesOn h
    rw [hu, Cursor.next_rest_of_cons hc] at hsplit
    refine ⟨c.next.digits ++ u, by rw [hc, hsplit]; simp,
      List.forall_mem_append.2 ⟨solid_digits hall, hgoes.solid⟩, fun c' rest hc' hrest => ?_⟩
    have hnext : c'.next.rest = c.next.digits ++ (u ++ rest) := by simp [hc']
    obtain ⟨hdigits', hrest'⟩ := digits_of_append hnext hall (hgoes.ends rest hrest)
    obtain ⟨behind', hread, hbehind'⟩ := hgoes.takes c'.next.skipDigits rest hrest' hrest
    refine ⟨behind', ?_, hbehind'⟩
    unfold readFraction
    dsimp only
    rw [hdigits']
    split
    · next hnil => exact absurd hnil hne
    · exact hread

/-- Reads what goes on a numeral behind its whole part. -/
def readBehindWhole (negative : Bool) (significand dropped : Nat) (c : Cursor) : Except Fault (Number × Cursor) :=
  match c.rest.head? with
  | some '.' => readFraction c negative significand dropped
  | some 'e' | some 'E' => readExponent c negative significand dropped
  | _ =>
    if dropped = 0 then .ok (integerValue negative significand, c)
    else finishReal c negative significand dropped

theorem readBehindWhole_goesOn {dropped : Nat}
    (h : readBehindWhole negative significand dropped c = .ok (n, behind)) :
    ∃ u, c.rest = u ++ behind.rest ∧ GoesOn (readBehindWhole negative significand dropped) u n := by
  by_cases hpoint : c.rest.head? = some '.'
  · have hfraction (c' : Cursor) (hc' : c'.rest.head? = some '.') :
        readBehindWhole negative significand dropped c' = readFraction c' negative significand dropped := by
      rw [readBehindWhole, hc']
      rfl
    obtain ⟨more, hc⟩ := List.head?_eq_some_iff.1 hpoint
    rw [hfraction c hpoint] at h
    obtain ⟨u, hu, hsolid, htakes⟩ := readFraction_goesOn hc h
    refine ⟨'.' :: u, hu, List.forall_mem_cons.2 ⟨rfl, hsolid⟩, ?_, fun c' rest hc' hrest => ?_⟩
    · rintro rest - d ⟨⟩
      rfl
    · obtain ⟨behind', hread, hbehind'⟩ := htakes c' rest hc' hrest
      exact ⟨behind', (hfraction c' (by rw [hc']; rfl)).trans hread, hbehind'⟩
  by_cases hletter : c.rest.head? = some 'e' ∨ c.rest.head? = some 'E'
  · have hexponent (c' : Cursor) (hhead : c'.rest.head? = c.rest.head?) :
        readBehindWhole negative significand dropped c' = readExponent c' negative significand dropped := by
      unfold readBehindWhole
      rw [hhead]
      rcases hletter with hl | hl <;> rw [hl] <;> rfl
    exact goesOn_exponent hletter hexponent h
  · rw [not_or] at hletter
    have hend (c' : Cursor) (hpoint : c'.rest.head? ≠ some '.') (hsmall : c'.rest.head? ≠ some 'e')
        (hlarge : c'.rest.head? ≠ some 'E') : readBehindWhole negative significand dropped c' =
          if dropped = 0 then .ok (integerValue negative significand, c')
          else finishReal c' negative significand dropped := by
      unfold readBehindWhole
      split
      · next hd => exact absurd hd hpoint
      · next he => exact absurd he hsmall
      · next he => exact absurd he hlarge
      · rfl
    rw [hend c hpoint hletter.1 hletter.2] at h
    have hvalue : behind = c ∧ ∀ c' : Cursor,
        (if dropped = 0 then .ok (integerValue negative significand, c')
          else finishReal c' negative significand dropped) = .ok (n, c') := by
      split at h
      · next hdropped =>
        cases h
        exact ⟨rfl, fun c' => if_pos hdropped⟩
      · next hdropped =>
        obtain ⟨hbehind, hfinish⟩ := finishReal_eq_ok h
        exact ⟨hbehind, fun c' => (if_neg hdropped).trans (hfinish c')⟩
    obtain ⟨rfl, hvalue⟩ := hvalue
    refine ⟨[], rfl, goesOn_nothing fun c' hrest => ?_⟩
    obtain ⟨hpoint', hsmall, hlarge⟩ := not_numeral_head hrest
    exact (hend c' hpoint' hsmall hlarge).trans (hvalue c')

/-- A numeral without its sign begins with a digit. -/
theorem readUnsigned_takes (h : readUnsigned c negative = .ok (n, behind)) :
    ∃ d u, d.isDigit = true ∧ Solid u ∧ c.rest = d :: u ++ behind.rest ∧
      Takes (fun c => readUnsigned c negative) Delimits (d :: u) n := by
  obtain ⟨hsplit, hall, hends⟩ := exists_digits c
  unfold readUnsigned at h
  split at h
  · cases h
  · next d more hc =>
    split at h
    · cases h
    · next hdigit =>
      split at h
      · cases h
      · next hzero =>
        have hfirst : c.digits = d :: more.takeWhile Char.isDigit := by
          rw [Cursor.digits, hc, List.takeWhile_cons_of_pos (by simpa using hdigit)]
        generalize more.takeWhile Char.isDigit = ds at hfirst
        rw [hfirst] at hall hsplit
        obtain ⟨u, hu, hgoes⟩ := readBehindWhole_goesOn (c := c.skipDigits) h
        have hd := hall d List.mem_cons_self
        have hmore : more = ds ++ (u ++ behind.rest) := by
          rw [hc, hu] at hsplit
          exact (List.cons.inj hsplit).2
        refine ⟨d, ds ++ u, hd, ?_, by rw [hc, hmore]; simp, fun c' rest hc' hrest => ?_⟩
        · exact List.forall_mem_append.2 ⟨solid_digits (List.forall_mem_cons.1 hall).2, hgoes.solid⟩
        · have hfront : c'.rest = d :: ds ++ (u ++ rest) := by simp [hc']
          have hends' := hgoes.ends rest hrest
          obtain ⟨hdigits', hrest'⟩ := digits_of_append hfront hall hends'
          obtain ⟨behind', hread, hbehind'⟩ := hgoes.takes c'.skipDigits rest hrest' hrest
          -- a second digit stands behind a zero in both places or in none
          have hzero' : ¬ (d = '0' ∧ (ds ++ (u ++ rest)).head?.any Char.isDigit = true) := by
            rintro ⟨h0, hany⟩
            apply hzero
            refine ⟨h0, ?_⟩
            cases ds with
            | nil =>
              obtain ⟨ch, hch, hdigit'⟩ := (Option.any_eq_true _ _).1 hany
              rw [hends' ch hch] at hdigit'
              cases hdigit'
            | cons e es =>
              rw [hmore]
              exact hany
          refine ⟨behind', ?_, hbehind'⟩
          dsimp only
          unfold readUnsigned
          rw [hfront, List.cons_append]
          simp only [hd, hzero', Bool.not_true, Bool.false_eq_true, if_false, hdigits', ← hfirst]
          exact hread

/-- A numeral begins with a sign or a digit. -/
theorem readNumeral_takes (h : readNumeral c = .ok (n, behind)) :
    ∃ d u, (d = '-' ∨ d.isDigit = true) ∧ Solid u ∧ c.rest = d :: u ++ behind.rest ∧
      Takes readNumeral Delimits (d :: u) n := by
  by_cases hsign : c.rest.head? = some '-'
  · obtain ⟨more, hc⟩ := List.head?_eq_some_iff.1 hsign
    rw [readNumeral, hsign] at h
    obtain ⟨d, u, hd, hu, hsplit, htakes⟩ := readUnsigned_takes h
    rw [Cursor.next_rest_of_cons hc] at hsplit
    refine ⟨'-', d :: u, .inl rfl, List.forall_mem_cons.2 ⟨not_isSpace_of_numeral (.inr hd), hu⟩,
      by rw [hc, hsplit]; rfl, fun c' rest hc' hrest => ?_⟩
    have hfront : c'.rest = '-' :: (d :: u ++ rest) := hc'
    obtain ⟨behind', hread, hbehind'⟩ := htakes c'.next rest (Cursor.next_rest_of_cons hfront) hrest
    refine ⟨behind', ?_, hbehind'⟩
    rw [readNumeral, hfront]
    exact hread
  · have hunsigned (c' : Cursor) (hc' : c'.rest.head? ≠ some '-') : readNumeral c' = readUnsigned c' false := by
      unfold readNumeral
      split
      · next hminus => exact absurd hminus hc'
      · rfl
    rw [hunsigned c hsign] at h
    obtain ⟨d, u, hd, hu, hsplit, htakes⟩ := readUnsigned_takes h
    refine ⟨d, u, .inr hd, hu, hsplit, fun c' rest hc' hrest => ?_⟩
    obtain ⟨behind', hread, hbehind'⟩ := htakes c' rest hc' hrest
    refine ⟨behind', (hunsigned c' ?_).trans hread, hbehind'⟩
    rw [hc']
    rintro ⟨⟩
    cases hd

end

theorem Takes.numeral_head {t : List Char} {n : Number} (h : Takes readNumeral Delimits t n) :
    ∃ d u, t = d :: u ∧ (d = '-' ∨ d.isDigit = true) ∧ Solid t := by
  obtain ⟨behind, hread, hrest⟩ := h { rest := t } [] (List.append_nil t).symm delimits_nil
  obtain ⟨d, u, hd, hu, hsplit, -⟩ := readNumeral_takes hread
  rw [hrest, List.append_nil] at hsplit
  have ht : t = d :: u := hsplit
  exact ⟨d, u, ht, hd, ht ▸ List.forall_mem_cons.2 ⟨not_isSpace_of_numeral hd, hu⟩⟩

theorem Takes.text_last {t : List Char} {s : String} (h : Takes readText Anywhere t s) :
    t.getLast? = some '"' := by
  obtain ⟨behind, hread, hrest⟩ := h { rest := t } [] (List.append_nil t).symm trivial
  obtain ⟨u, hu, hlast, -⟩ := readText_takes hread
  rw [hrest, List.append_nil] at hu
  have ht : t = u := hu
  rw [ht, hlast]

end RuleTree.Json
