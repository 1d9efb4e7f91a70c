import RuleTree.Json.Path
import RuleTree.Proofs.Json.Kept
import RuleTree.Proofs.Text.Parts

/-! Fields of a document by their paths. A path leads where its segments do: a segment is the key of a member, or the
digits of an index. The path of a position therefore reads what is there, unless the whole path is itself a key of the
document, and what is read at any path stands at one of these two places. -/

namespace RuleTree.Json

/-! ### Positions -/

/-- A way from a document into one of its parts. An index is a word, for no array is longer. -/
inductive Branch where
  | member (key : String)
  | item (index : UInt64)

namespace Document

/-- The part behind one branch. -/
inductive Child : Document → Branch → Document → Prop
  | member {members : List (String × Document)} {key : String} {d : Document} :
      members.lookup key = some d → Child (.object members) (.member key) d
  | item {items : List Document} {index : UInt64} {d : Document} :
      items[index.toNat]? = some d → Child (.array items) (.item index) d

/-- The part at a position, one branch after the other. -/
inductive At : Document → List Branch → Document → Prop
  | here {d : Document} : At d [] d
  | behind {d c e : Document} {b : Branch} {rest : List Branch} : Child d b c → At c rest e → At d (b :: rest) e

end Document

/-! ### Segments -/

/-- Decimal digits of this value, any zeros and a plus in front of them allowed. -/
def Counts (s : List Char) (n : Nat) : Prop :=
  ∃ digits, (s = digits ∨ s = '+' :: digits) ∧ digits ≠ [] ∧ (∀ c ∈ digits, c.isDigit = true) ∧
    Nat.ofDigitChars 10 digits 0 = n

/-- The segment of a path takes this branch. -/
inductive Selects : String → Branch → Prop
  | member (key : String) : Selects key (.member key)
  | item {segment : String} {index : UInt64} : Counts segment.toList index.toNat → Selects segment (.item index)

/-- The segment for a branch: the key itself, or the index in decimal. -/
def Branch.segment : Branch → String
  | member key => key
  | item index => toString index.toNat

/-- The path of a position. -/
def pathOf (position : List Branch) : String := ".".intercalate (position.map Branch.segment)

theorem exists_digits_parseCount? (s : List Char) : ∃ digits,
    (s = digits ∧ digits.head? ≠ some '+' ∨ s = '+' :: digits) ∧
      parseCount? s = if digits.isEmpty || !digits.all Char.isDigit then none
        else if Nat.ofDigitChars 10 digits 0 < UInt64.size then some (Nat.ofDigitChars 10 digits 0) else none := by
  unfold parseCount?
  split
  · next rest => exact ⟨rest, .inr rfl, rfl⟩
  · next hplus =>
    refine ⟨s, .inl ⟨rfl, fun hhead => ?_⟩, rfl⟩
    obtain ⟨rest, hs⟩ := List.head?_eq_some_iff.1 hhead
    exact hplus rest hs

theorem parseCount?_eq_some_iff {s : List Char} {n : Nat} :
    parseCount? s = some n ↔ Counts s n ∧ n < UInt64.size := by
  obtain ⟨digits, hs, hparse⟩ := exists_digits_parseCount? s
  rw [hparse]
  constructor
  · intro h
    split at h
    · cases h
    · next hdigits =>
      split at h
      · next hsize =>
        cases h
        rw [Bool.not_eq_true, Bool.or_eq_false_iff, Bool.not_eq_false', List.all_eq_true, List.isEmpty_eq_false_iff]
          at hdigits
        exact ⟨⟨digits, hs.imp_left And.left, hdigits.1, hdigits.2, rfl⟩, hsize⟩
      · cases h
  · rintro ⟨⟨digits', hs', hne, hdigits, rfl⟩, hsize⟩
    -- a plus is no digit, so both ways to split it off agree
    have hsame : digits = digits' := by
      rcases hs with ⟨rfl, hhead⟩ | rfl
      · rcases hs' with hs' | hs'
        · exact hs'
        · exact absurd (by rw [hs']; rfl) hhead
      · rcases hs' with rfl | hs'
        · exact absurd (hdigits '+' List.mem_cons_self) (by decide)
        · exact List.tail_eq_of_cons_eq hs'
    subst hsame
    have hparts : (digits.isEmpty || !digits.all Char.isDigit) = false := by
      rw [Bool.or_eq_false_iff, Bool.not_eq_false', List.all_eq_true, List.isEmpty_eq_false_iff]
      exact ⟨hne, hdigits⟩
    rw [hparts, if_neg Bool.false_ne_true, if_pos hsize]

theorem counts_toString (n : Nat) : Counts (toString n).toList n := by
  rw [Nat.toString_eq_ofList_toDigits, String.toList_ofList]
  exact ⟨Nat.toDigits 10 n, .inl rfl, Nat.toDigits_ne_nil, isDigit_toDigits n, Nat.ofDigitChars_ten_toDigits⟩

theorem selects_segment (b : Branch) : Selects b.segment b := by
  cases b with
  | member key => exact .member key
  | item index => exact .item (counts_toString index.toNat)

theorem segments_pathOf {position : List Branch} (hkeys : ∀ key, .member key ∈ position → '.' ∉ key.toList)
    (hposition : position ≠ []) : Document.segments (pathOf position) = position.map Branch.segment := by
  refine splitOn_intercalate_toList (fun s hs => ?_) (by simpa using hposition)
  obtain ⟨b, hb, rfl⟩ := List.mem_map.1 hs
  cases b with
  | member key => exact hkeys key hb
  | item index =>
    intro hpoint
    rw [Branch.segment, Nat.toString_eq_ofList_toDigits, String.toList_ofList] at hpoint
    exact absurd (isDigit_toDigits index.toNat _ hpoint) (by decide)

namespace Document

variable {d e : Document}

/-! ### Following a path -/

theorem child?_eq_some_iff {segment : String} :
    d.child? segment = some e ↔ ∃ b, Selects segment b ∧ d.Child b e := by
  constructor
  · intro h
    cases d with
    | object members => exact ⟨.member segment, .member segment, .member h⟩
    | array items =>
      obtain ⟨n, hn, hitem⟩ := Option.bind_eq_some_iff.1 h
      obtain ⟨hcounts, hsize⟩ := parseCount?_eq_some_iff.1 hn
      have hindex : (UInt64.ofNat n).toNat = n := UInt64.toNat_ofNat_of_lt' hsize
      refine ⟨.item (.ofNat n), .item ?_, .item ?_⟩
      · rwa [hindex]
      · rwa [hindex]
    | null | flag | number | text => cases h
  · rintro ⟨b, hselects, hchild⟩
    cases hchild with
    | member hlookup =>
      cases hselects
      exact hlookup
    | @item items index _ hitem =>
      cases hselects with
      | item hcounts =>
        have hcount := parseCount?_eq_some_iff.2 ⟨hcounts, index.toNat_lt_size⟩
        rw [child?, hcount]
        exact hitem

/-- A path is followed to the parts at the positions that its segments select. -/
theorem follow?_eq_some_iff {segments : List String} :
    d.follow? segments = some e ↔ ∃ position, List.Forall₂ Selects segments position ∧ d.At position e := by
  induction segments generalizing d with
  | nil =>
    simp only [follow?, Option.some.injEq, List.forall₂_nil_left_iff, exists_eq_left]
    constructor
    · rintro rfl
      exact .here
    · rintro ⟨⟩
      rfl
  | cons segment rest ih =>
    rw [follow?, Option.bind_eq_some_iff]
    simp only [child?_eq_some_iff, ih]
    constructor
    · rintro ⟨c, ⟨b, hb, hchild⟩, position, hposition, hat⟩
      exact ⟨b :: position, .cons hb hposition, .behind hchild hat⟩
    · rintro ⟨_, _ | ⟨hb, hposition⟩, hat⟩
      obtain _ | ⟨hchild, hat⟩ := hat
      exact ⟨_, ⟨_, hb, hchild⟩, _, hposition, hat⟩

/-- The path of a position is followed to what is there. -/
theorem At.follow?_segments {position : List Branch} (h : d.At position e) :
    d.follow? (position.map Branch.segment) = some e := by
  refine follow?_eq_some_iff.2 ⟨position, ?_, h⟩
  rw [List.forall₂_map_left_iff, List.forall₂_same]
  exact fun b _ => selects_segment b

/-! ### Fields -/

variable {path : String}

theorem child_object_iff {members : List (String × Document)} {key : String} :
    (object members).Child (.member key) e ↔ members.lookup key = some e := by
  constructor
  · rintro ⟨hlookup⟩
    exact hlookup
  · exact .member

/-- A key of the document that is the whole path comes first. -/
theorem field_of_child (h : d.Child (.member path) e) : d.field path = e.leaf := by
  cases h with
  | member hlookup => simp only [field, hlookup, Option.some_or]

theorem field_of_no_child (h : ∀ c, ¬ d.Child (.member path) c) :
    d.field path = match d.follow? (segments path) with
      | some part => part.leaf
      | none => .missing := by
  cases d with
  | object members =>
    have hlookup : members.lookup path = none :=
      Option.eq_none_iff_forall_ne_some.2 fun c hc => h c (child_object_iff.2 hc)
    have hfield : (object members).field path =
        match (members.lookup path).or ((object members).follow? (segments path)) with
        | some part => part.leaf
        | none => .missing := rfl
    rw [hfield, hlookup, Option.none_or]
  | _ => rfl

/-- What is read at a path stands behind the key that is the whole path, or, if there is none, at a position that the
segments of the path select. -/
theorem field_eq_iff {v : FieldValue} (hv : v ≠ .missing) :
    d.field path = v ↔ ∃ e, e.leaf = v ∧ (d.Child (.member path) e ∨ (∀ c, ¬ d.Child (.member path) c) ∧
      ∃ position, List.Forall₂ Selects (segments path) position ∧ d.At position e) := by
  by_cases hmember : ∃ c, d.Child (.member path) c
  · obtain ⟨c, hc⟩ := hmember
    rw [field_of_child hc]
    constructor
    · intro h
      exact ⟨c, h, .inl hc⟩
    · rintro ⟨e, rfl, he | ⟨hnone, -⟩⟩
      · rw [← field_of_child hc, field_of_child he]
      · exact absurd hc (hnone c)
  · rw [not_exists] at hmember
    rw [field_of_no_child hmember]
    simp only [← follow?_eq_some_iff]
    constructor
    · intro h
      cases hfollow : d.follow? (segments path) with
      | none => exact absurd (by rw [← h, hfollow]) hv
      | some e =>
        rw [hfollow] at h
        exact ⟨e, h, .inr ⟨hmember, rfl⟩⟩
    · rintro ⟨e, rfl, he | ⟨-, hfollow⟩⟩
      · exact absurd he (hmember e)
      · rw [hfollow]

/-! ### Parts of a document that was read -/

theorem Kept.child {depth : Nat} {b : Branch} (h : d.Kept depth) (hchild : d.Child b e) :
    ∃ depth', e.Kept depth' := by
  cases hchild with
  | member hlookup =>
    obtain ⟨before, after, rfl, -⟩ := List.lookup_eq_some_iff.1 hlookup
    cases h with
    | object _ hmembers => exact ⟨_, hmembers _ (List.mem_append_right before List.mem_cons_self)⟩
  | item hitem =>
    cases h with
    | array hitems => exact ⟨_, hitems _ (List.mem_of_getElem? hitem)⟩

theorem Kept.at {depth : Nat} {position : List Branch} (h : d.Kept depth) (hat : d.At position e) :
    ∃ depth', e.Kept depth' := by
  induction hat generalizing depth with
  | here => exact ⟨depth, h⟩
  | behind hchild _ ih =>
    obtain ⟨depth', hc⟩ := h.child hchild
    exact ih hc

/-- An integer is read in its narrowest kind. -/
theorem Kept.field_eq_ofInt {depth : Nat} {n : Number} {i : Int} (h : d.Kept depth)
    (hfield : d.field path = .number n) (hi : n.toInt? = some i) : n = .ofInt i := by
  obtain ⟨e, hleaf, hplace⟩ := (field_eq_iff (by simp)).1 hfield
  obtain ⟨depth', he⟩ : ∃ depth', e.Kept depth' := by
    rcases hplace with hchild | ⟨-, position, -, hat⟩
    · exact h.child hchild
    · exact h.at hat
  cases he with
  | number hn =>
    cases hleaf
    cases hn with
    | integer hword =>
      rw [Number.toInt?_ofInt hword] at hi
      cases hi
      rfl
    | real => cases hi
  | _ => cases hleaf

/-! ### Addresses -/

/-- A key of the document reads what is behind it, points or not. The path of a position whose keys have no point reads
what is there, unless it is a key of the document. Whatever is read at a path stands behind that key or, where there is
none, at a position that the segments of the path select. And an integer of a document that was read is of the
narrowest kind. -/
theorem field_addresses (d : Document) :
    (∀ key e, d.Child (.member key) e → d.field key = e.leaf) ∧
    (∀ position e, position ≠ [] → (∀ key, .member key ∈ position → '.' ∉ key.toList) → d.At position e →
      (∀ c, ¬ d.Child (.member (pathOf position)) c) → d.field (pathOf position) = e.leaf) ∧
    (∀ path v, v ≠ .missing → (d.field path = v ↔ ∃ e, e.leaf = v ∧ (d.Child (.member path) e ∨
      (∀ c, ¬ d.Child (.member path) c) ∧
        ∃ position, List.Forall₂ Selects (segments path) position ∧ d.At position e))) ∧
    ∀ depth path n i, d.Kept depth → d.field path = .number n → n.toInt? = some i → n = .ofInt i := by
  refine ⟨fun _ _ => field_of_child, ?_, fun _ _ => field_eq_iff, fun _ _ _ _ => Kept.field_eq_ofInt⟩
  intro position e hposition hkeys hat hnone
  rw [field_of_no_child hnone, segments_pathOf hkeys hposition, hat.follow?_segments]

/-- A member of an item of a member, whose key is empty, with a key beside it that the path of the item spells. -/
theorem field_addresses_item :
    let d : Document := .object
      [("a", .array [.null, .object [("", .number (.signed 5))]]), ("a.1", .flag true)]
    let position : List Branch := [.member "a", .item 1, .member ""]
    d.At position (.number (.signed 5)) ∧ pathOf position = "a.1." ∧ d.Kept 3 ∧
      d.field "a.1." = .number (.signed 5) ∧ d.field "a.+01." = .number (.signed 5) ∧
      d.field "a.1" = .flag true ∧ Number.signed 5 = .ofInt 5 := by
  intro d position
  have hat : d.At position (.number (.signed 5)) :=
    .behind (.member rfl) (.behind (.item rfl) (.behind (.member rfl) .here))
  have hpath : pathOf position = "a.1." := by decide +kernel
  have hsegments : segments "a.+01." = ["a", "+01", ""] := by decide +kernel
  have hkept : d.Kept 3 := by
    have hnumber : (Number.ofInt 5).Legible := .integer ⟨by decide, by decide⟩
    have hinner : (object [("", .number (.signed 5))]).Kept 1 :=
      .object (List.pairwise_singleton _ _) (List.forall_mem_singleton.2 (.number hnumber))
    have hitems : (array [.null, .object [("", .number (.signed 5))]]).Kept 2 :=
      .array (List.forall_mem_cons.2 ⟨.null, List.forall_mem_singleton.2 hinner⟩)
    refine .object ?_ (List.forall_mem_cons.2 ⟨hitems, List.forall_mem_singleton.2 .flag⟩)
    exact List.pairwise_pair.2 (by decide)
  obtain ⟨hkey, hposition, hread, hnarrow⟩ := field_addresses d
  have hfive : d.field (pathOf position) = .number (.signed 5) := by
    refine hposition position _ (List.cons_ne_nil _ _) ?_ hat ?_
    · intro key hmem
      obtain rfl | rfl : key = "a" ∨ key = "" := by simpa [position] using hmem
      · decide
      · decide
    · rw [hpath]
      exact fun c hc => nomatch child_object_iff.1 hc
  rw [hpath] at hfive
  refine ⟨hat, hpath, hkept, hfive, ?_, hkey "a.1" _ (.member rfl), hnarrow 3 _ _ 5 hkept hfive rfl⟩
  refine (hread "a.+01." _ (by simp)).2 ⟨_, rfl, .inr ⟨?_, position, ?_, hat⟩⟩
  · exact fun c hc => nomatch child_object_iff.1 hc
  · rw [hsegments]
    have hitem : Counts "+01".toList 1 := ⟨['0', '1'], .inr rfl, by decide, by simp, rfl⟩
    exact .cons (.member _) (.cons (.item hitem) (.cons (.member _) .nil))

end Document

end RuleTree.Json
