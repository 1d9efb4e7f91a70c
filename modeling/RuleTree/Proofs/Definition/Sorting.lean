import RuleTree.Proofs.Definition.Grammar
import RuleTree.Proofs.Json.Sorting

/-! Keeping a document does not change what it describes, as long as no object of it repeats a key. -/

namespace RuleTree

open Json

/-! ### Members -/

/-- Keeping the document leaves what stands for a missing member as it is. -/
def Slot.Kept (s : Slot) : Prop := ∀ d, s.default? = some d → d.sorted = d ∧ d.KeyedOnce

theorem Rule.slots_kept : ∀ s ∈ Rule.slots, s.Kept := by
  simp [Rule.slots, RuleMember.slot, connectiveSlot, Slot.Kept, Document.sorted, Document.KeyedOnce]

theorem Group.slots_kept : ∀ s ∈ Group.slots, s.Kept := by
  simp [Group.slots, GroupMember.slot, connectiveSlot, Slot.Kept, Document.sorted,
    Document.sortedItems, Document.KeyedOnce, Document.KeyedOnceItems]

theorem Slot.given_sorted {s : Slot} {ms : List (String × Document)}
    (h : (ms.map Prod.fst).Nodup) :
    (s.given (ofMembers (Document.sortedMembers ms))).Perm ((s.given ms).map Document.sorted) := by
  have hkeys : (Document.sortedMembers ms).map Prod.fst = ms.map Prod.fst := by
    rw [Document.sortedMembers_eq_map, List.map_map]
    rfl
  have hperm := ofMembers_perm (hkeys ▸ h)
  have hgiven : s.given (Document.sortedMembers ms) = (s.given ms).map Document.sorted := by
    rw [Document.sortedMembers_eq_map]
    simp [Slot.given, List.filter_map, Function.comp_def]
  exact hgiven ▸ (hperm.filter _).map _

theorem Slot.takes_sorted {s : Slot} (hs : s.Kept) {ms : List (String × Document)}
    (h : (ms.map Prod.fst).Nodup) {e : Document} :
    s.Takes (ofMembers (Document.sortedMembers ms)) e ↔ ∃ d, s.Takes ms d ∧ d.sorted = e := by
  have hperm := Slot.given_sorted (s := s) h
  constructor
  · rintro (he | ⟨hnone, he⟩)
    · rw [he, List.singleton_perm, eq_comm] at hperm
      obtain ⟨d, hd, rfl⟩ := List.map_eq_singleton_iff.1 hperm
      exact ⟨d, .inl hd, rfl⟩
    · rw [hnone, List.nil_perm, List.map_eq_nil_iff] at hperm
      exact ⟨e, .inr ⟨hperm, he⟩, (hs e he).1⟩
  · rintro ⟨d, hd | ⟨hnone, hd⟩, rfl⟩
    · rw [hd] at hperm
      exact .inl (List.perm_singleton.1 hperm)
    · rw [hnone] at hperm
      exact .inr ⟨List.perm_nil.1 hperm, by rw [(hs d hd).1, hd]⟩

theorem forall₂_takes_sorted {slots : List Slot} (hslots : ∀ s ∈ slots, s.Kept)
    {ms : List (String × Document)} (h : (ms.map Prod.fst).Nodup) {es : List Document} :
    List.Forall₂ (Slot.Takes (ofMembers (Document.sortedMembers ms))) slots es ↔
      ∃ ds, List.Forall₂ (Slot.Takes ms) slots ds ∧ ds.map Document.sorted = es := by
  induction slots generalizing es with
  | nil => simp [eq_comm]
  | cons s slots ih =>
    obtain ⟨hs, hslots⟩ := List.forall_mem_cons.1 hslots
    simp only [List.forall₂_cons_left_iff, Slot.takes_sorted hs h, ih hslots]
    constructor
    · rintro ⟨_, _, ⟨d, hd, rfl⟩, ⟨ds, hds, rfl⟩, rfl⟩
      exact ⟨d :: ds, ⟨d, ds, hd, hds, rfl⟩, rfl⟩
    · rintro ⟨_, ⟨d, ds, hd, hds, rfl⟩, rfl⟩
      exact ⟨_, _, ⟨d, hd, rfl⟩, ⟨ds, hds, rfl⟩, rfl⟩

theorem map_sorted_defaults {slots : List Slot} (hslots : ∀ s ∈ slots, s.Kept) {ds : List Document}
    (h : List.Forall₂ (fun s d => s.default? = some d) slots ds) : ds.map Document.sorted = ds := by
  induction h with
  | nil => rfl
  | cons hd _ ih =>
    obtain ⟨hs, hslots⟩ := List.forall_mem_cons.1 hslots
    rw [List.map_cons, (hs _ hd).1, ih hslots]

/-- A kept document gives the kept members. -/
theorem gives_sorted {slots : List Slot} (hslots : ∀ s ∈ slots, s.Kept) {d : Document}
    (h : d.KeyedOnce) {es : List Document} :
    Gives slots d.sorted es ↔ ∃ ds, Gives slots d ds ∧ ds.map Document.sorted = es := by
  cases d with
  | array items =>
    have hdrop : ∀ s ∈ slots.drop items.length, s.Kept := fun s hs =>
      hslots s (List.mem_of_mem_drop hs)
    simp only [Document.sorted, Document.sortedItems_eq_map, gives_array_iff, List.length_map]
    constructor
    · rintro ⟨rest, hlength, hrest, rfl⟩
      refine ⟨items ++ rest, ⟨rest, hlength, hrest, rfl⟩, ?_⟩
      rw [List.map_append, map_sorted_defaults hdrop hrest]
    · rintro ⟨_, ⟨rest, hlength, hrest, rfl⟩, rfl⟩
      refine ⟨rest, hlength, hrest, ?_⟩
      rw [List.map_append, map_sorted_defaults hdrop hrest]
  | object ms =>
    simp only [Document.sorted, gives_object_iff]
    exact forall₂_takes_sorted hslots h.1
  | _ =>
    constructor
    · rintro ⟨⟩
    · rintro ⟨_, ⟨⟩, -⟩

theorem Slot.Takes.keyedOnce {s : Slot} (hs : s.Kept) {ms : List (String × Document)}
    (hms : ∀ m ∈ ms, m.2.KeyedOnce) {d : Document} (h : s.Takes ms d) : d.KeyedOnce := by
  obtain hd | ⟨-, hd⟩ := h
  · have hmem : d ∈ s.given ms := by rw [hd]; exact List.mem_singleton_self d
    obtain ⟨m, hm, rfl⟩ := List.mem_map.1 hmem
    exact hms m (List.mem_filter.1 hm).1
  · exact (hs d hd).2

/-- The members of a document repeat no key where the document does not. -/
theorem Gives.keyedOnce {slots : List Slot} (hslots : ∀ s ∈ slots, s.Kept) {d : Document}
    {ds : List Document} (h : Gives slots d ds) (hd : d.KeyedOnce) : ∀ e ∈ ds, e.KeyedOnce := by
  intro e he
  cases h with
  | object hds =>
    obtain ⟨s, hs, htakes⟩ := forall₂_mem_right hds he
    exact htakes.keyedOnce (hslots s hs) (Document.keyedOnceMembers_iff.1 hd.2)
  | array hlength hrest =>
    obtain he | he := List.mem_append.1 he
    · exact Document.keyedOnceItems_iff.1 hd e he
    · obtain ⟨s, hs, hdefault⟩ := forall₂_mem_right hrest he
      exact (hslots s (List.mem_of_mem_drop hs) e hdefault).2

/-! ### Descriptions -/

@[simp] theorem sorted_eq_text {d : Document} {s : String} : d.sorted = .text s ↔ d = .text s := by
  cases d <;> simp [Document.sorted]

theorem Operator.named_sorted {d : Document} {op : Operator} :
    Operator.Named d.sorted op ↔ Operator.Named d op := by
  simp [Operator.Named]

theorem Connective.named_sorted {d : Document} {c : Connective} :
    Connective.Named d.sorted c ↔ Connective.Named d c := by
  simp [Connective.Named]

mutual

theorem Operand.described_sorted : ∀ (d : Document) {o : Operand},
    Operand.Described d.sorted o ↔ Operand.Described d o
  | .null, _ | .flag _, _ | .number _, _ | .text _, _ => Iff.rfl
  | .array ds, _ => by
    constructor
    · rintro ⟨h⟩
      exact .list ((Operand.described_sortedItems ds).1 ‹_›)
    · rintro ⟨h⟩
      exact .list ((Operand.described_sortedItems ds).2 ‹_›)
  | .object _, _ => by constructor <;> rintro ⟨⟩

theorem Operand.described_sortedItems : ∀ (ds : List Document) {os : List Operand},
    List.Forall₂ Operand.Described (Document.sortedItems ds) os ↔
      List.Forall₂ Operand.Described ds os
  | [], _ => Iff.rfl
  | d :: ds, _ => by
    simp only [Document.sortedItems, List.forall₂_cons_left_iff, Operand.described_sorted d,
      Operand.described_sortedItems ds]

end

theorem Rule.described_sorted {d : Document} (h : d.KeyedOnce) {r : Rule} :
    Rule.Described d.sorted r ↔ Rule.Described d r := by
  simp only [Rule.described_iff, gives_sorted Rule.slots_kept h]
  constructor
  · rintro ⟨_, _, _, ⟨ds, hds, hmap⟩, hop, hvalue, hword⟩
    simp only [List.map_eq_cons_iff, List.map_eq_nil_iff, sorted_eq_text] at hmap
    obtain ⟨_, _, rfl, rfl, _, _, rfl, rfl, _, _, rfl, rfl, _, _, rfl, rfl, rfl⟩ := hmap
    exact ⟨_, _, _, hds, Operator.named_sorted.1 hop, (Operand.described_sorted _).1 hvalue,
      Connective.named_sorted.1 hword⟩
  · rintro ⟨_, _, _, hds, hop, hvalue, hword⟩
    exact ⟨_, _, _, ⟨_, hds, rfl⟩, Operator.named_sorted.2 hop, (Operand.described_sorted _).2 hvalue,
      Connective.named_sorted.2 hword⟩

theorem Rule.described_sortedItems {ds : List Document} (h : ∀ d ∈ ds, d.KeyedOnce)
    {rules : List Rule} : List.Forall₂ Rule.Described (ds.map Document.sorted) rules ↔
      List.Forall₂ Rule.Described ds rules := by
  induction ds generalizing rules with
  | nil => rfl
  | cons d ds ih =>
    obtain ⟨hd, hds⟩ := List.forall_mem_cons.1 h
    simp only [List.map_cons, List.forall₂_cons_left_iff, Rule.described_sorted hd, ih hds]

/-- A list of this kind is kept as a list of what is kept of its items. -/
theorem listed_sorted {α : Type} {R : Document → α → Prop} {d : Document} {as : List α}
    (h : d.KeyedOnce) (hR : ∀ ds : List Document, (∀ d ∈ ds, d.KeyedOnce) →
      (List.Forall₂ R (ds.map Document.sorted) as ↔ List.Forall₂ R ds as)) :
    Listed R d.sorted as ↔ Listed R d as := by
  unfold Listed
  cases d with
  | array ds =>
    have hds := hR ds (Document.keyedOnceItems_iff.1 h)
    simpa [Document.sorted, Document.sortedItems_eq_map] using hds
  | _ => simp [Document.sorted]

mutual

/-- Where no object repeats a key, the kept document describes the same group. -/
theorem Group.described_sorted : ∀ (g : Group) {d : Document}, d.KeyedOnce →
    (Group.Described d.sorted g ↔ Group.Described d g)
  | .mk rules groups c, d, h => by
    have hrules {e : Document} (he : e.KeyedOnce) :
        Listed Rule.Described e.sorted rules ↔ Listed Rule.Described e rules :=
      listed_sorted he fun _ hds => Rule.described_sortedItems hds
    have hgroups {e : Document} (he : e.KeyedOnce) :
        Listed Group.Described e.sorted groups ↔ Listed Group.Described e groups :=
      listed_sorted he fun _ hds => Group.described_sortedItems groups hds
    simp only [Group.described_iff, gives_sorted Group.slots_kept h]
    constructor
    · rintro ⟨_, _, _, ⟨ds, hds, hmap⟩, hrs, hgs, hword⟩
      have honce := hds.keyedOnce Group.slots_kept h
      simp only [List.map_eq_cons_iff, List.map_eq_nil_iff] at hmap
      obtain ⟨rs, _, rfl, rfl, gs, _, rfl, rfl, _, _, rfl, rfl, rfl⟩ := hmap
      exact ⟨_, _, _, hds, (hrules (honce rs (by simp))).1 hrs, (hgroups (honce gs (by simp))).1 hgs,
        Connective.named_sorted.1 hword⟩
    · rintro ⟨rs, gs, _, hds, hrs, hgs, hword⟩
      have honce := hds.keyedOnce Group.slots_kept h
      exact ⟨_, _, _, ⟨_, hds, rfl⟩, (hrules (honce rs (by simp))).2 hrs,
        (hgroups (honce gs (by simp))).2 hgs, Connective.named_sorted.2 hword⟩

theorem Group.described_sortedItems : ∀ (groups : List Group) {ds : List Document},
    (∀ d ∈ ds, d.KeyedOnce) → (List.Forall₂ Group.Described (ds.map Document.sorted) groups ↔
      List.Forall₂ Group.Described ds groups)
  | [], ds, _ => by simp
  | g :: groups, [], _ => by simp
  | g :: groups, d :: ds, h => by
    obtain ⟨hd, hds⟩ := List.forall_mem_cons.1 h
    simp only [List.map_cons, List.forall₂_cons, Group.described_sorted g hd,
      Group.described_sortedItems groups hds]

end

end RuleTree
