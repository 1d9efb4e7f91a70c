import Mathlib.Data.String.Basic
import RuleTree.Proofs.Json.Nodes
import RuleTree.Proofs.Json.Sorting

/-! Documents that were read from a text. Their numbers are those that a text can hold, their objects have ascending
keys, and they nest no deeper than brackets could be opened; so one without doubles is read back from what is written
of it. -/

namespace RuleTree.Json

/-! ### Members in order -/

section Members

variable {α : Type} {ms : List (String × α)} {key : String} {value : α}

/-- Keys in ascending order, each once. -/
def Ascending (ms : List (String × α)) : Prop := ms.Pairwise fun a b => a.1 < b.1

theorem mem_insertMember {m : String × α} (h : m ∈ insertMember key value ms) :
    m = (key, value) ∨ m ∈ ms := by
  induction ms with
  | nil => exact .inl (List.mem_singleton.1 h)
  | cons first rest ih =>
    unfold insertMember at h
    split at h
    · exact List.mem_cons.1 h
    · split at h
      · exact (List.mem_cons.1 h).imp_right (List.mem_cons_of_mem _)
      · rcases List.mem_cons.1 h with rfl | h
        · exact .inr List.mem_cons_self
        · exact (ih h).imp_right (List.mem_cons_of_mem _)

theorem Ascending.insertMember (h : Ascending ms) : Ascending (insertMember key value ms) := by
  induction ms with
  | nil => exact List.pairwise_singleton _ _
  | cons first rest ih =>
    obtain ⟨k, v⟩ := first
    obtain ⟨hfirst, hrest⟩ := List.pairwise_cons.1 h
    unfold Json.insertMember
    split
    · next hlt =>
      refine List.pairwise_cons.2 ⟨fun m hm => ?_, h⟩
      rcases List.mem_cons.1 hm with rfl | hm
      · exact hlt
      · exact lt_trans hlt (hfirst m hm)
    · next hlt =>
      split
      · next heq =>
        subst heq
        exact List.pairwise_cons.2 ⟨hfirst, hrest⟩
      · next hne =>
        have hgt : k < key := lt_of_le_of_ne (not_lt.1 hlt) (Ne.symm hne)
        refine List.pairwise_cons.2 ⟨fun m hm => ?_, ih hrest⟩
        rcases mem_insertMember hm with rfl | hm
        · exact hgt
        · exact hfirst m hm

theorem foldl_insertMember_ascending {sorted : List (String × α)} (h : Ascending sorted) :
    Ascending (ms.foldl (fun sorted m => insertMember m.1 m.2 sorted) sorted) := by
  induction ms generalizing sorted with
  | nil => exact h
  | cons m rest ih => exact ih h.insertMember

theorem ascending_ofMembers (ms : List (String × α)) : Ascending (ofMembers ms) :=
  foldl_insertMember_ascending List.Pairwise.nil

theorem mem_foldl_insertMember {sorted : List (String × α)} {m : String × α}
    (h : m ∈ ms.foldl (fun sorted m => insertMember m.1 m.2 sorted) sorted) : m ∈ sorted ∨ m ∈ ms := by
  induction ms generalizing sorted with
  | nil => exact .inl h
  | cons first rest ih =>
    rcases ih h with h | h
    · rcases mem_insertMember h with rfl | h
      · exact .inr List.mem_cons_self
      · exact .inl h
    · exact .inr (List.mem_cons_of_mem _ h)

/-- Only members that were put in are kept. -/
theorem mem_of_mem_ofMembers {m : String × α} (h : m ∈ ofMembers ms) : m ∈ ms :=
  (mem_foldl_insertMember h).resolve_left List.not_mem_nil

/-- A key above all others goes to the end. -/
theorem insertMember_eq_append (h : ∀ m ∈ ms, m.1 < key) :
    insertMember key value ms = ms ++ [(key, value)] := by
  induction ms with
  | nil => rfl
  | cons first rest ih =>
    obtain ⟨hfirst, hrest⟩ := List.forall_mem_cons.1 h
    rw [insertMember, if_neg (lt_asymm hfirst), if_neg hfirst.ne', ih hrest, List.cons_append]

theorem foldl_insertMember_eq_append {sorted : List (String × α)} (h : Ascending (sorted ++ ms)) :
    ms.foldl (fun sorted m => insertMember m.1 m.2 sorted) sorted = sorted ++ ms := by
  induction ms generalizing sorted with
  | nil => simp
  | cons m rest ih =>
    have hlast : ∀ a ∈ sorted, a.1 < m.1 := by
      intro a ha
      exact (List.pairwise_append.1 h).2.2 a ha m List.mem_cons_self
    rw [List.foldl_cons, insertMember_eq_append hlast]
    rw [List.append_cons sorted m rest] at h ⊢
    exact ih h

/-- Members in order stay as they are. -/
theorem Ascending.ofMembers_eq (h : Ascending ms) : ofMembers ms = ms :=
  foldl_insertMember_eq_append h

end Members

/-! ### What was read -/

/-- The document can have been read from a text, with this many brackets to open. -/
inductive Document.Kept : Nat → Document → Prop
  | null {depth : Nat} : Kept depth .null
  | flag {depth : Nat} {b : Bool} : Kept depth (.flag b)
  | number {depth : Nat} {n : Number} : n.Legible → Kept depth (.number n)
  | text {depth : Nat} {s : String} : Kept depth (.text s)
  | array {depth : Nat} {ds : List Document} : (∀ d ∈ ds, Kept depth d) → Kept (depth + 1) (.array ds)
  | object {depth : Nat} {ms : List (String × Document)} :
      Ascending ms → (∀ m ∈ ms, Kept depth m.2) → Kept (depth + 1) (.object ms)

theorem Node.document_scalar {α : Type} {start : Mark} {broken : Fault → Content}
    {content : α → Content × Cursor} {r : Except Fault α} {d : Document}
    (hbroken : ∀ f, (broken f).document = .error f)
    (h : (Node.scalar start broken (r.map content)).1.document = .ok d) :
    ∃ a, r = .ok a ∧ (content a).1.document = .ok d := by
  cases r with
  | ok a => exact ⟨a, rfl, h⟩
  | error f => cases (hbroken f).symm.trans h

mutual

/-- What is read with a number of brackets to open is kept within them. -/
theorem Node.kept_read : ∀ (fuel depth : Nat) (c : Cursor) {d : Document},
    (Node.read fuel depth c).1.document = .ok d → d.Kept depth
  | 0, _, _, _, h => by cases h
  | fuel + 1, depth, c, d, h => by
    unfold Node.read at h
    dsimp only at h
    split at h
    · cases h
    · obtain ⟨_, -, ⟨⟩⟩ := Node.document_scalar (fun _ => rfl) h
      exact .null
    · obtain ⟨_, -, ⟨⟩⟩ := Node.document_scalar (fun _ => rfl) h
      exact .flag
    · obtain ⟨_, -, ⟨⟩⟩ := Node.document_scalar (fun _ => rfl) h
      exact .flag
    · obtain ⟨_, -, ⟨⟩⟩ := Node.document_scalar (fun _ => rfl) h
      exact .text
    · cases depth with
      | zero => cases h
      | succ depth =>
        obtain ⟨ds, hds, ⟨⟩⟩ := bind_eq_ok_iff.1 h
        exact .array (Items.kept_read fuel depth true c.skipSpace.next hds)
    · cases depth with
      | zero => cases h
      | succ depth =>
        obtain ⟨ms, hms, ⟨⟩⟩ := bind_eq_ok_iff.1 h
        have hkept := Members.kept_read fuel depth true c.skipSpace.next hms
        exact .object (ascending_ofMembers ms) fun m hm => hkept m (mem_of_mem_ofMembers hm)
    · split at h
      · obtain ⟨_, hread, ⟨⟩⟩ := Node.document_scalar (fun _ => rfl) h
        exact .number (legible_readNumeral hread)
      · cases h

theorem Items.kept_read : ∀ (fuel depth : Nat) (first : Bool) (c : Cursor) {ds : List Document},
    (Items.read fuel depth first c).1.documents = .ok ds → ∀ d ∈ ds, d.Kept depth
  | 0, _, _, _, _, h => by cases h
  | fuel + 1, depth, first, c, ds, h => by
    unfold Items.read at h
    split at h
    · cases h
      exact List.forall_mem_nil _
    · cases h
    · next front _ =>
      dsimp only at h
      split at h
      · next behind _ =>
        obtain ⟨d, hd, h⟩ := bind_eq_ok_iff.1 h
        obtain ⟨rest, hrest, ⟨⟩⟩ := bind_eq_ok_iff.1 h
        have htail := Items.kept_read fuel depth false behind hrest
        exact List.forall_mem_cons.2 ⟨Node.kept_read fuel depth front hd, htail⟩
      · obtain ⟨d, -, h⟩ := bind_eq_ok_iff.1 h
        cases h

theorem Members.kept_read : ∀ (fuel depth : Nat) (first : Bool) (c : Cursor)
    {ms : List (String × Document)}, (Members.read fuel depth first c).1.documents = .ok ms →
      ∀ m ∈ ms, m.2.Kept depth
  | 0, _, _, _, _, h => by cases h
  | fuel + 1, depth, first, c, ms, h => by
    unfold Members.read at h
    split at h
    · cases h
      exact List.forall_mem_nil _
    · cases h
    · split at h
      · cases h
      · dsimp only at h
        split at h
        · cases h
        · next value _ =>
          split at h
          · obtain ⟨d, -, h⟩ := bind_eq_ok_iff.1 h
            cases h
          · next behind _ =>
            obtain ⟨d, hd, h⟩ := bind_eq_ok_iff.1 h
            obtain ⟨rest, hrest, ⟨⟩⟩ := bind_eq_ok_iff.1 h
            have htail := Members.kept_read fuel depth false behind hrest
            exact List.forall_mem_cons.2 ⟨Node.kept_read fuel depth value hd, htail⟩

end

theorem Document.kept_parse {text : String} {d : Document} (h : Document.parse text = .ok d) :
    d.Kept nestingLimit :=
  Node.kept_read _ _ _ (decodeText_eq_ok_iff.1 h).1

/-! ### What is kept stays as it is -/

variable {depth : Nat} {d : Document}

theorem Document.Kept.sorted_eq (h : d.Kept depth) : d.sorted = d := by
  induction h with
  | null | flag | number | text => rfl
  | @array _ ds _ ih =>
    rw [sorted, sortedItems_eq_map, List.map_congr_left ih, List.map_id']
  | @object _ ms hkeys _ ih =>
    have hmap : ms.map (Prod.map id sorted) = ms.map id :=
      List.map_congr_left fun m hm => Prod.ext rfl (ih m hm)
    rw [sorted, sortedMembers_eq_map, hmap, List.map_id, hkeys.ofMembers_eq]

theorem Document.nestingItems_le_iff {ds : List Document} {depth : Nat} :
    Document.nestingItems ds ≤ depth ↔ ∀ d ∈ ds, d.nesting ≤ depth := by
  induction ds with
  | nil => simp [Document.nestingItems]
  | cons d rest ih => simp [Document.nestingItems, ih]

theorem Document.nestingMembers_le_iff {ms : List (String × Document)} {depth : Nat} :
    Document.nestingMembers ms ≤ depth ↔ ∀ m ∈ ms, m.2.nesting ≤ depth := by
  induction ms with
  | nil => simp [Document.nestingMembers]
  | cons m rest ih =>
    obtain ⟨k, d⟩ := m
    simp [Document.nestingMembers, ih]

theorem Document.Kept.nesting_le (h : d.Kept depth) : d.nesting ≤ depth := by
  induction h with
  | null | flag | number | text => exact Nat.zero_le _
  | array _ ih =>
    have hitems := nestingItems_le_iff.2 ih
    rw [nesting]
    omega
  | object _ _ ih =>
    have hmembers := nestingMembers_le_iff.2 ih
    rw [nesting]
    omega

/-! ### Documents without doubles -/

mutual

/-- Is no number of the document a double? -/
def Document.integral : Document → Bool
  | .number n => n.toInt?.isSome
  | .array items => Document.integralItems items
  | .object members => Document.integralMembers members
  | _ => true

def Document.integralItems : List Document → Bool
  | [] => true
  | d :: rest => d.integral && Document.integralItems rest

def Document.integralMembers : List (String × Document) → Bool
  | [] => true
  | (_, d) :: rest => d.integral && Document.integralMembers rest

end

theorem Document.integralItems_iff {ds : List Document} :
    Document.integralItems ds = true ↔ ∀ d ∈ ds, d.integral = true := by
  induction ds with
  | nil => simp [Document.integralItems]
  | cons d rest ih => simp [Document.integralItems, ih]

theorem Document.integralMembers_iff {ms : List (String × Document)} :
    Document.integralMembers ms = true ↔ ∀ m ∈ ms, m.2.integral = true := by
  induction ms with
  | nil => simp [Document.integralMembers]
  | cons m rest ih =>
    obtain ⟨k, d⟩ := m
    simp [Document.integralMembers, ih]

theorem Document.wholeItems_iff {ds : List Document} :
    Document.WholeItems ds ↔ ∀ d ∈ ds, d.Whole := by
  induction ds with
  | nil => simp [Document.WholeItems]
  | cons d rest ih => simp [Document.WholeItems, ih]

theorem Document.wholeMembers_iff {ms : List (String × Document)} :
    Document.WholeMembers ms ↔ ∀ m ∈ ms, m.2.Whole := by
  induction ms with
  | nil => simp [Document.WholeMembers]
  | cons m rest ih =>
    obtain ⟨k, d⟩ := m
    simp [Document.WholeMembers, ih]

theorem Document.Kept.whole (h : d.Kept depth) (hintegral : d.integral = true) : d.Whole := by
  induction h with
  | null | flag | text => trivial
  | number hn =>
    cases hn with
    | integer hi => exact ⟨_, hi, rfl⟩
    | real => cases hintegral
  | array _ ih =>
    have hitems := integralItems_iff.1 hintegral
    exact wholeItems_iff.2 fun d hd => ih d hd (hitems d hd)
  | object _ _ ih =>
    have hmembers := integralMembers_iff.1 hintegral
    exact wholeMembers_iff.2 fun m hm => ih m hm (hmembers m hm)

/-- What is written of a document that was read, doubles apart, is read as the same document. -/
theorem Document.Kept.parse_write (h : d.Kept nestingLimit) (hintegral : d.integral = true) :
    Document.parse d.write = .ok d := by
  rw [Document.parse_write (h.whole hintegral) h.nesting_le, h.sorted_eq]

end RuleTree.Json
