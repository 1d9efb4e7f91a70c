import RuleTree.Proofs.Json.Spelling

/-! What is written on one line stays on it: the text of a document has no control characters, and so neither a
line feed nor a carriage return. -/

namespace RuleTree.Json

/-- Nothing below the space. -/
def Printable (cs : List Char) : Prop := ∀ c ∈ cs, 32 ≤ c.toNat

/-- A text with characters that are known. -/
theorem printable_of_all {cs : List Char} (h : cs.all (fun c => Nat.ble 32 c.toNat) = true) :
    Printable cs := fun c hc => Nat.le_of_ble_eq_true (List.all_eq_true.1 h c hc)

theorem printable_append {cs ds : List Char} : Printable (cs ++ ds) ↔ Printable cs ∧ Printable ds :=
  List.forall_mem_append

theorem printable_cons {c : Char} {cs : List Char} :
    Printable (c :: cs) ↔ 32 ≤ c.toNat ∧ Printable cs := List.forall_mem_cons

theorem printable_nil : Printable [] := List.forall_mem_nil _

/-! ### Texts -/

theorem printable_digitChar : ∀ k < 16, 32 ≤ (Nat.digitChar k).toNat := by decide

theorem printable_escapedChar (c : Char) : Printable (escapedChar c) := by
  have hslash : 32 ≤ '\\'.toNat := by decide
  obtain ⟨e, he, hc⟩ | ⟨hlow, hc⟩ | ⟨-, -, hc, hself⟩ := escapedChar_cases c
  · have hletter : 32 ≤ e.toNat := by
      unfold simpleEscape? at he
      split at he <;> first | decide | cases he
    rw [hc]
    exact printable_cons.2 ⟨hslash, printable_cons.2 ⟨hletter, printable_nil⟩⟩
  · have hhigh := printable_digitChar (c.toNat / 16) (by omega)
    have hlast := printable_digitChar (c.toNat % 16) (by omega)
    rw [hc]
    simp only [printable_cons, printable_nil, hhigh, hlast, and_true]
    decide
  · rw [hself]
    exact printable_cons.2 ⟨Nat.not_lt.1 hc, printable_nil⟩

theorem printable_writeText (s : String) : Printable (writeText s).toList := by
  have hquote : 32 ≤ '"'.toNat := by decide
  rw [writeText_toList, printable_cons, printable_append]
  refine ⟨hquote, ?_, printable_cons.2 ⟨hquote, printable_nil⟩⟩
  intro c hc
  obtain ⟨d, -, hd⟩ := List.mem_flatMap.1 hc
  exact printable_escapedChar d c hd

/-! ### Numbers -/

theorem printable_of_digits {cs : List Char} (h : ∀ c ∈ cs, c.isDigit = true) : Printable cs := by
  intro c hc
  have hdigit := h c hc
  simp only [Char.isDigit, Bool.and_eq_true, decide_eq_true_eq, UInt32.le_iff_toNat_le] at hdigit
  have hlow : (48 : UInt32).toNat ≤ c.toNat := hdigit.1
  exact Nat.le_trans (by decide) hlow

theorem printable_toDigits (n : Nat) : Printable (Nat.toDigits 10 n) :=
  printable_of_digits (isDigit_toDigits n)

theorem printable_toString (i : Int) : Printable (toString i).toList := by
  rw [Int.toString_eq_repr, Int.repr_eq_if]
  split
  · rw [Nat.toList_repr]
    exact printable_toDigits _
  · rw [String.toList_append, Nat.toList_repr, printable_append]
    exact ⟨printable_of_all rfl, printable_toDigits _⟩

theorem DecimalText.WellFormed.printable {t : DecimalText} (h : t.WellFormed) : Printable t.chars := by
  have hdigits := printable_append.1 (printable_of_digits h.digits)
  have hfraction : Printable (fractionChars t.fraction) := by
    unfold fractionChars
    split
    · exact printable_nil
    · exact printable_cons.2 ⟨by decide, hdigits.2⟩
  have hexponent : Printable (exponentChars t.exponent?) := by
    cases t.exponent? with
    | none => exact printable_nil
    | some k =>
      refine printable_cons.2 ⟨by decide, printable_cons.2 ⟨?_, printable_toDigits _⟩⟩
      split <;> decide
  exact printable_append.2 ⟨hdigits.1, printable_append.2 ⟨hfraction, hexponent⟩⟩

theorem Numeral.printable {t : List Char} {n : Number} (h : Numeral t n) : Printable t := by
  cases h with
  | integer => exact printable_toString _
  | @real t negative _ ht _ =>
    have hsign : Printable (signChars negative) := by
      cases negative <;> exact printable_of_all rfl
    exact printable_append.2 ⟨hsign, ht.printable⟩

theorem printable_writeNumber (n : Number) : Printable (writeNumber n).toList := by
  by_cases hfinite : n.finite = true
  · exact (numeral_reread hfinite).printable
  · cases n with
    | signed | unsigned => exact absurd rfl hfinite
    | real x =>
      have hreal : ¬ x.isFinite = true := hfinite
      rw [writeNumber, if_neg hreal]
      exact printable_of_all rfl

/-! ### Documents -/

theorem printable_commaParts {parts : List String} {close : Char}
    (h : ∀ p ∈ parts, Printable p.toList) (hclose : 32 ≤ close.toNat) :
    Printable (commaParts parts close) := by
  rw [commaParts, printable_append]
  refine ⟨?_, printable_cons.2 ⟨hclose, printable_nil⟩⟩
  intro c hc
  obtain ⟨p, hp, hmem⟩ := List.mem_flatMap.1 hc
  exact printable_cons.2 ⟨by decide, h p hp⟩ c hmem

theorem printable_writeArray {parts : List String} (h : ∀ p ∈ parts, Printable p.toList) :
    Printable (writeArray parts).toList := by
  cases parts with
  | nil => exact printable_of_all rfl
  | cons p rest =>
    rw [List.forall_mem_cons] at h
    rw [writeArray_cons, printable_cons, printable_append]
    exact ⟨by decide, h.1, printable_commaParts h.2 (by decide)⟩

theorem printable_writeMember {k v : String} (h : Printable v.toList) :
    Printable (writeMember k v).toList := by
  rw [writeMember_toList, printable_append, printable_cons]
  exact ⟨printable_writeText k, by decide, h⟩

theorem printable_writeObject {ms : List (String × String)} (h : ∀ m ∈ ms, Printable m.2.toList) :
    Printable (writeObject ms).toList := by
  cases ms with
  | nil => exact printable_of_all rfl
  | cons m rest =>
    rw [List.forall_mem_cons] at h
    rw [writeObject_cons, printable_cons, printable_append]
    refine ⟨by decide, printable_writeMember h.1, printable_commaParts ?_ (by decide)⟩
    intro p hp
    obtain ⟨m, hm, rfl⟩ := List.mem_map.1 hp
    exact printable_writeMember (h.2 m hm)

mutual

theorem Document.printable_write : ∀ d : Document, Printable d.write.toList
  | .null | .flag true | .flag false => printable_of_all rfl
  | .number n => printable_writeNumber n
  | .text s => printable_writeText s
  | .array items => printable_writeArray (Document.printable_writeItems items)
  | .object members => printable_writeObject (Document.printable_writeMembers members)

theorem Document.printable_writeItems : ∀ ds : List Document,
    ∀ p ∈ Document.writeItems ds, Printable p.toList
  | [] => List.forall_mem_nil _
  | d :: rest => List.forall_mem_cons.2 ⟨d.printable_write, Document.printable_writeItems rest⟩

theorem Document.printable_writeMembers : ∀ ms : List (String × Document),
    ∀ m ∈ Document.writeMembers ms, Printable m.2.toList
  | [] => List.forall_mem_nil _
  | (_, d) :: rest =>
    List.forall_mem_cons.2 ⟨d.printable_write, Document.printable_writeMembers rest⟩

end

/-- A document is written on one line. -/
theorem Document.newline_not_mem_write (d : Document) : '\n' ∉ d.write.toList :=
  fun h => absurd (d.printable_write _ h) (by decide)

end RuleTree.Json
