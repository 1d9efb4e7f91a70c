import Mathlib.Data.List.Perm.Basic
import RuleTree.Proofs.Json.Reading

/-! Documents as written and as kept. Where no object repeats a key, keeping a document puts its members in
another order and changes nothing else. -/

namespace RuleTree.Json

mutual

/-- No object of the document repeats a key. -/
def Document.KeyedOnce : Document → Prop
  | .array items => Document.KeyedOnceItems items
  | .object members => (members.map Prod.fst).Nodup ∧ Document.KeyedOnceMembers members
  | _ => True

def Document.KeyedOnceItems : List Document → Prop
  | [] => True
  | d :: rest => d.KeyedOnce ∧ Document.KeyedOnceItems rest

def Document.KeyedOnceMembers : List (String × Document) → Prop
  | [] => True
  | (_, d) :: rest => d.KeyedOnce ∧ Document.KeyedOnceMembers rest

end

theorem Document.keyedOnceItems_iff {ds : List Document} :
    Document.KeyedOnceItems ds ↔ ∀ d ∈ ds, d.KeyedOnce := by
  induction ds with
  | nil => simp [Document.KeyedOnceItems]
  | cons d ds ih => simp [Document.KeyedOnceItems, ih]

theorem Document.keyedOnceMembers_iff {ms : List (String × Document)} :
    Document.KeyedOnceMembers ms ↔ ∀ m ∈ ms, m.2.KeyedOnce := by
  induction ms with
  | nil => simp [Document.KeyedOnceMembers]
  | cons m ms ih =>
    obtain ⟨k, d⟩ := m
    simp [Document.KeyedOnceMembers, ih]

theorem Document.sortedItems_eq_map (ds : List Document) :
    Document.sortedItems ds = ds.map Document.sorted := by
  induction ds with
  | nil => rfl
  | cons d ds ih => rw [Document.sortedItems, ih, List.map_cons]

theorem Document.sortedMembers_eq_map (ms : List (String × Document)) :
    Document.sortedMembers ms = ms.map (Prod.map id Document.sorted) := by
  induction ms with
  | nil => rfl
  | cons m ms ih =>
    obtain ⟨k, d⟩ := m
    rw [Document.sortedMembers, ih, List.map_cons]
    rfl

/-! ### Members in order -/

variable {α : Type}

/-- A new key finds a place among the others and leaves them as they are. -/
theorem insertMember_perm {key : String} (value : α) {ms : List (String × α)}
    (h : key ∉ ms.map Prod.fst) : (insertMember key value ms).Perm ((key, value) :: ms) := by
  induction ms with
  | nil => exact .refl _
  | cons m ms ih =>
    obtain ⟨k, v⟩ := m
    simp only [List.map_cons, List.mem_cons, not_or] at h
    unfold insertMember
    rw [if_neg h.1]
    split
    · exact .refl _
    · exact ((ih h.2).cons (k, v)).trans (.swap _ _ _)

theorem foldl_insertMember_perm {ms : List (String × α)} {sorted : List (String × α)}
    (h : ((sorted ++ ms).map Prod.fst).Nodup) :
    (ms.foldl (fun sorted m => insertMember m.1 m.2 sorted) sorted).Perm (sorted ++ ms) := by
  induction ms generalizing sorted with
  | nil => simp
  | cons m ms ih =>
    have hmiddle : (sorted ++ m :: ms).Perm (m :: sorted ++ ms) := List.perm_middle
    have hnodup := (hmiddle.map Prod.fst).nodup_iff.1 h
    have hnew : m.1 ∉ sorted.map Prod.fst := by
      simp only [List.cons_append, List.map_cons, List.nodup_cons, List.map_append,
        List.mem_append, not_or] at hnodup
      exact hnodup.1.1
    have hinsert := (insertMember_perm m.2 hnew).append_right ms
    have hrest := ih ((hinsert.map Prod.fst).nodup_iff.2 hnodup)
    exact hrest.trans (hinsert.trans hmiddle.symm)

/-- Members of different keys are only put in order. -/
theorem ofMembers_perm {ms : List (String × α)} (h : (ms.map Prod.fst).Nodup) :
    (ofMembers ms).Perm ms :=
  foldl_insertMember_perm h

end RuleTree.Json
