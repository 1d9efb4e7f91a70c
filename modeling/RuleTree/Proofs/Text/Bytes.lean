import Mathlib.Tactic.SplitIfs

/-! Order of texts and order of their bytes. A greater character has greater bytes in UTF-8, and no character begins
with the bytes of another, so that texts that ascend by their characters ascend by their bytes. -/

namespace RuleTree

/-- The bytes of a text. -/
def utf8 (s : String) : List UInt8 := s.toUTF8.data.toList

theorem utf8_eq_flatMap (s : String) : utf8 s = s.toList.flatMap String.utf8EncodeChar := by
  rw [utf8, String.toUTF8, ← String.utf8Encode_toList, List.utf8Encode, List.toList_data_toByteArray]

theorem byte_cons_lt {a b : Nat} {l m : List UInt8} (hb : b < 256) (hab : a ≤ b) (h : a = b → l < m) :
    UInt8.ofNat a :: l < UInt8.ofNat b :: m := by
  rw [List.cons_lt_cons_iff, UInt8.lt_iff_toNat_lt, UInt8.toNat_ofNat', UInt8.toNat_ofNat']
  rcases Nat.lt_or_eq_of_le hab with hlt | rfl
  · left
    omega
  · exact .inr ⟨rfl, h rfl⟩

/-- The bytes of a smaller character come first, whatever stands behind them. -/
theorem utf8EncodeChar_lt {c d : Char} (h : c < d) (u v : List UInt8) :
    String.utf8EncodeChar c ++ u < String.utf8EncodeChar d ++ v := by
  have hlt : c.val.toNat < d.val.toNat := h
  have hmax : d.val.toNat < 0x110000 := by
    rcases d.valid with hd | ⟨-, hd⟩
    · exact Nat.lt_trans hd (by decide)
    · exact hd
  unfold String.utf8EncodeChar
  generalize c.val.toNat = n at *
  generalize d.val.toNat = m at *
  dsimp only
  split_ifs <;> try omega
  all_goals simp only [List.cons_append, List.nil_append]
  -- while the bytes are the same, so are the digits of the two characters; the last byte would make them equal
  iterate 4
    all_goals refine byte_cons_lt (by omega) (by omega) fun _ => ?_
    all_goals try omega

theorem utf8_lt {s t : String} (h : s < t) : utf8 s < utf8 t := by
  have hchars : List.Lex (· < ·) s.toList t.toList := h
  rw [utf8_eq_flatMap, utf8_eq_flatMap]
  generalize s.toList = cs at hchars
  generalize t.toList = ds at hchars
  induction hchars with
  | @nil d ds =>
    rw [List.flatMap_cons]
    obtain ⟨b, bs, hbytes⟩ := List.exists_cons_of_ne_nil (String.utf8EncodeChar_ne_nil (c := d))
    rw [hbytes]
    exact .nil
  | rel hcd =>
    rw [List.flatMap_cons, List.flatMap_cons]
    exact utf8EncodeChar_lt hcd _ _
  | cons _ ih =>
    rw [List.flatMap_cons, List.flatMap_cons]
    exact List.append_left_lt ih

end RuleTree
