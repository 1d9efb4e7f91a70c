import Mathlib.Data.Finset.Card
import RuleTree.Proofs.Json.Kept
import RuleTree.Proofs.Text.Bytes
import RuleTree.Schema

/-! Schemas as finite maps. Members in ascending order are told apart by looking their keys up, so that a schema is what
its declarations say of each name: the last declaration of a name counts, in whatever order different names are
declared. And a saved schema is loaded as it was. -/

namespace RuleTree

open Json

/-! ### Looking up members -/

section Members

variable {α : Type} {ms ms' : List (String × α)} {key name : String} {value : α}

theorem lookup_cons_eq_ite :
    ((key, value) :: ms).lookup name = if name = key then some value else ms.lookup name := by
  rw [List.lookup_cons]
  split <;> simp_all

theorem lookup_insertMember :
    (insertMember key value ms).lookup name = if name = key then some value else ms.lookup name := by
  induction ms with
  | nil => exact lookup_cons_eq_ite
  | cons m rest ih =>
    obtain ⟨k, v⟩ := m
    unfold insertMember
    split
    · exact lookup_cons_eq_ite
    · split
      · next heq =>
        subst heq
        rw [lookup_cons_eq_ite, lookup_cons_eq_ite]
        split <;> rfl
      · next hne =>
        rw [lookup_cons_eq_ite, lookup_cons_eq_ite, ih]
        split
        · next heq =>
          subst heq
          rw [if_neg (Ne.symm hne)]
        · rfl

/-- The last of several members with the same key is kept. -/
theorem lookup_ofMembers : (ofMembers ms).lookup name = ms.reverse.lookup name := by
  induction ms using List.reverseRecOn with
  | nil => rfl
  | append_singleton ms m ih =>
    rw [ofMembers, List.foldl_append, ← ofMembers, List.reverse_append]
    exact lookup_insertMember.trans (ih ▸ lookup_cons_eq_ite.symm)

theorem lookup_reverse_eq_some_iff :
    ms.reverse.lookup name = some value ↔
      ∃ before after, ms = before ++ (name, value) :: after ∧ ∀ m ∈ after, m.1 ≠ name := by
  rw [List.lookup_eq_some_iff]
  constructor
  · rintro ⟨after, before, hsplit, hafter⟩
    refine ⟨before.reverse, after.reverse, ?_, fun m hm => ?_⟩
    · rw [← List.reverse_reverse ms, hsplit, List.reverse_append, List.reverse_cons, List.append_assoc,
        List.singleton_append]
    · exact (bne_iff_ne.1 (hafter m (List.mem_reverse.1 hm))).symm
  · rintro ⟨before, after, rfl, hafter⟩
    refine ⟨after.reverse, before.reverse, ?_, fun m hm => ?_⟩
    · rw [List.reverse_append, List.reverse_cons, List.append_assoc, List.singleton_append]
    · exact bne_iff_ne.2 (hafter m (List.mem_reverse.1 hm)).symm

theorem lookup_eq_none_iff_forall : ms.lookup name = none ↔ ∀ m ∈ ms, m.1 ≠ name := by
  rw [List.lookup_eq_none_iff]
  exact forall₂_congr fun m _ => bne_iff_ne.trans ne_comm

theorem lookup_eq_head?_filter :
    ms.lookup name = ((ms.filter fun m => m.1 = name).head?).map Prod.snd := by
  induction ms with
  | nil => rfl
  | cons m rest ih =>
    obtain ⟨k, v⟩ := m
    rw [lookup_cons_eq_ite]
    by_cases hname : name = k
    · rw [if_pos hname, List.filter_cons_of_pos (by simp [hname])]
      rfl
    · rw [if_neg hname, List.filter_cons_of_neg (by simpa using Ne.symm hname), ih]

/-- What is found depends on the members of that name alone. -/
theorem lookup_reverse_congr
    (h : (ms.filter fun m => m.1 = name) = ms'.filter fun m => m.1 = name) :
    ms.reverse.lookup name = ms'.reverse.lookup name := by
  rw [lookup_eq_head?_filter, lookup_eq_head?_filter, List.filter_reverse, List.filter_reverse, h]

/-! ### Members in order -/

theorem Json.Ascending.nodup (h : Ascending ms) : (ms.map Prod.fst).Nodup :=
  (List.pairwise_map.2 h).imp ne_of_lt

theorem Json.Ascending.mem_iff (h : Ascending ms) : (key, value) ∈ ms ↔ ms.lookup key = some value := by
  induction ms with
  | nil => simp
  | cons m rest ih =>
    obtain ⟨k, v⟩ := m
    obtain ⟨hfirst, hrest⟩ := List.pairwise_cons.1 h
    rw [lookup_cons_eq_ite, List.mem_cons, ih hrest]
    split
    · next heq =>
      subst heq
      have hnone : rest.lookup key ≠ some value := by
        rw [ne_eq, ← ih hrest]
        exact fun hmem => lt_irrefl key (hfirst (key, value) hmem)
      simp [hnone, eq_comm]
    · next hne => simp [hne]

/-- Members in order are determined by what is found of each key. -/
theorem Json.Ascending.ext (h : Ascending ms) (h' : Ascending ms')
    (hsame : ∀ name, ms.lookup name = ms'.lookup name) : ms = ms' := by
  have hperm : ms.Perm ms' := by
    rw [List.perm_ext_iff_of_nodup (h.nodup.of_map _) (h'.nodup.of_map _)]
    rintro ⟨key, value⟩
    rw [h.mem_iff, h'.mem_iff, hsame]
  refine hperm.eq_of_pairwise (fun a b _ _ hab hba => ?_) h h'
  exact absurd hba (lt_asymm hab)

end Members

/-! ### Saving and loading -/

theorem FieldKind.ofName?_name (k : FieldKind) : ofName? k.name = some k := by
  cases k <;> decide

theorem FieldKind.decode_of_holds {k : FieldKind} {n : Node} (h : n.Holds (.text k.name)) : decode n = .ok k := by
  cases h
  rw [decode, ofVariant, ofName?_name]

namespace Schema

/-- The schema as a document, its fields in their order. -/
def document (s : Schema) : Document := .object (s.fields.map fun f => (f.1, .text f.2.name))

theorem json_eq_write (s : Schema) : s.json = s.document.write := by
  have hmembers : ∀ fields : List (String × FieldKind),
      Document.writeMembers (fields.map fun f => (f.1, .text f.2.name)) =
        fields.map fun f => (f.1, writeText f.2.name) := by
    intro fields
    induction fields with
    | nil => rfl
    | cons f rest ih => rw [List.map_cons, List.map_cons, Document.writeMembers, ih, Document.write]
  rw [json, document, Document.write, hmembers]

theorem whole_document (s : Schema) : s.document.Whole :=
  Document.wholeMembers_iff.2 (List.forall_mem_map.2 fun _ _ => trivial)

theorem nesting_document_le (s : Schema) : s.document.nesting ≤ 1 := by
  have hmembers : Document.nestingMembers (s.fields.map fun f => (f.1, .text f.2.name)) ≤ 0 :=
    Document.nestingMembers_le_iff.2 (List.forall_mem_map.2 fun _ _ => Nat.le_refl 0)
  rw [document, Document.nesting]
  omega

theorem decodeMembers_of_hold {fields : List (String × FieldKind)} {members : Members}
    (h : members.Hold (fields.map fun f => (f.1, .text f.2.name))) : decodeMembers members = .ok fields := by
  induction fields generalizing members with
  | nil =>
    cases h
    rfl
  | cons f rest ih =>
    cases h with
    | cons hvalue htail =>
      rw [decodeMembers, FieldKind.decode_of_holds hvalue, ih htail]
      rfl

theorem decode_of_holds {s : Schema} (hs : Ascending s.fields) {n : Node} (h : n.Holds s.document) :
    decode n = .ok s := by
  cases h with
  | object hmembers =>
    simp only [decode, Node.content, decodeMembers_of_hold hmembers]
    exact congrArg (fun fields => Except.ok (⟨fields⟩ : Schema)) hs.ofMembers_eq

/-- A schema is read back from what is written of it. -/
theorem parse_of_ascending {s : Schema} (hs : Ascending s.fields) : parse s.json = .ok s := by
  have hdepth : s.document.nesting ≤ nestingLimit := Nat.le_trans s.nesting_document_le (by decide)
  rw [parse, json_eq_write, decodeText_write s.whole_document hdepth fun _ => decode_of_holds hs]
  rfl

/-! ### Declarations -/

/-- The schema of these declarations, made one after the other. -/
def ofDeclarations (ds : List (String × FieldKind)) : Schema := ds.foldl (fun s d => s.declare d.1 d.2) empty

theorem fields_ofDeclarations (ds : List (String × FieldKind)) : (ofDeclarations ds).fields = ofMembers ds :=
  (List.foldl_hom fields fun _ _ => rfl).symm

theorem ascending_ofDeclarations (ds : List (String × FieldKind)) : Ascending (ofDeclarations ds).fields := by
  rw [fields_ofDeclarations]
  exact ascending_ofMembers ds

theorem kind?_ofDeclarations (ds : List (String × FieldKind)) (name : String) :
    (ofDeclarations ds).kind? name = ds.reverse.lookup name := by
  rw [kind?, fields_ofDeclarations, lookup_ofMembers]

theorem kind?_eq_none_iff (ds : List (String × FieldKind)) (name : String) :
    (ofDeclarations ds).kind? name = none ↔ ∀ d ∈ ds, d.1 ≠ name := by
  rw [kind?_ofDeclarations, lookup_eq_none_iff_forall]
  simp only [List.mem_reverse]

/-- The names of the fields are the names that were declared. -/
theorem mem_names_iff (ds : List (String × FieldKind)) (name : String) :
    name ∈ (ofDeclarations ds).fields.map Prod.fst ↔ name ∈ ds.map Prod.fst := by
  have hnames : ∀ ms : List (String × FieldKind), name ∈ ms.map Prod.fst ↔ ¬ ∀ m ∈ ms, m.1 ≠ name := by
    intro ms
    simp
  rw [hnames, hnames, ← kind?_eq_none_iff ds, kind?, lookup_eq_none_iff_forall]

theorem size_ofDeclarations (ds : List (String × FieldKind)) :
    (ofDeclarations ds).size = (ds.map Prod.fst).toFinset.card := by
  have hsame : (ds.map Prod.fst).toFinset = ((ofDeclarations ds).fields.map Prod.fst).toFinset := by
    ext name
    rw [List.mem_toFinset, List.mem_toFinset, mem_names_iff]
  rw [hsame, List.toFinset_card_of_nodup (ascending_ofDeclarations ds).nodup, List.length_map, size]

/-- Declarations of different names may change places. -/
theorem ofDeclarations_congr {ds ds' : List (String × FieldKind)}
    (h : ∀ name, (ds'.filter fun d => d.1 = name) = ds.filter fun d => d.1 = name) :
    ofDeclarations ds' = ofDeclarations ds := by
  have hfields : (ofDeclarations ds').fields = (ofDeclarations ds).fields := by
    apply (ascending_ofDeclarations ds').ext (ascending_ofDeclarations ds)
    intro name
    have hkind := kind?_ofDeclarations ds' name
    rw [lookup_reverse_congr (h name), ← kind?_ofDeclarations] at hkind
    exact hkind
  exact congrArg Schema.mk hfields

/-- A schema is a finite map. The kind of a name is that of its last declaration, the size is the number of names, and
declarations of different names may be made in any order. What is saved of the schema is loaded as the same schema; it
is an object with one member for each name and its kind, the names in ascending order of their bytes. -/
theorem ofDeclarations_faithful (ds : List (String × FieldKind)) :
    let s := ofDeclarations ds
    (∀ name k, s.kind? name = some k ↔
      ∃ before after, ds = before ++ (name, k) :: after ∧ ∀ d ∈ after, d.1 ≠ name) ∧
    (∀ name, s.kind? name = none ↔ ∀ d ∈ ds, d.1 ≠ name) ∧
    s.size = (ds.map Prod.fst).toFinset.card ∧
    (∀ ds' : List (String × FieldKind),
      (∀ name, (ds'.filter fun d => d.1 = name) = ds.filter fun d => d.1 = name) → ofDeclarations ds' = s) ∧
    parse s.json = .ok s ∧
    ∃ members : List (String × FieldKind),
      Spells s.json.toList (.object (members.map fun m => (m.1, .text m.2.name))) ∧
      (members.map fun m => utf8 m.1).Pairwise (· < ·) ∧
      ∀ name k, (name, k) ∈ members ↔ s.kind? name = some k := by
  intro s
  have hs : Ascending s.fields := ascending_ofDeclarations ds
  refine ⟨fun name k => ?_, kind?_eq_none_iff ds, size_ofDeclarations ds, fun ds' h => ofDeclarations_congr h,
    parse_of_ascending hs, s.fields, ?_, ?_, fun name k => hs.mem_iff⟩
  · rw [kind?_ofDeclarations, lookup_reverse_eq_some_iff]
  · rw [json_eq_write]
    exact spells_write s.whole_document
  · exact List.pairwise_map.2 (hs.imp utf8_lt)

/-- A name that is declared twice, one that is written with an escape, and one of two bytes. -/
theorem ofDeclarations_faithful_repeated :
    let ds : List (String × FieldKind) := [("é", .flag), ("b", .text), ("\"", .number), ("b", .choice)]
    let ds' : List (String × FieldKind) := [("b", .text), ("b", .choice), ("\"", .number), ("é", .flag)]
    (∀ name, (ds'.filter fun d => d.1 = name) = ds.filter fun d => d.1 = name) ∧
      ofDeclarations ds' = ofDeclarations ds ∧ (ofDeclarations ds).kind? "b" = some .choice ∧
      (ofDeclarations ds).size = 3 ∧
      parse "\x7b\"\\\"\":\"number\",\"b\":\"enum\",\"é\":\"bool\"\x7d" = .ok (ofDeclarations ds) := by
  intro ds ds'
  obtain ⟨hkind, -, hsize, horder, hparse, -⟩ := ofDeclarations_faithful ds
  have hsame : ∀ name, (ds'.filter fun d => d.1 = name) = ds.filter fun d => d.1 = name := by
    intro name
    by_cases hb : "b" = name
    · subst hb
      decide
    · by_cases he : "é" = name
      · subst he
        decide
      · simp [ds, ds', List.filter_cons, hb, he]
  have hjson : (ofDeclarations ds).json = "\x7b\"\\\"\":\"number\",\"b\":\"enum\",\"é\":\"bool\"\x7d" := by
    decide +kernel
  refine ⟨hsame, horder ds' hsame, ?_, ?_, ?_⟩
  · exact (hkind "b" .choice).2 ⟨[("é", .flag), ("b", .text), ("\"", .number)], [], rfl, nofun⟩
  · rw [hsize]
    decide
  · rw [← hjson]
    exact hparse

end Schema

end RuleTree
