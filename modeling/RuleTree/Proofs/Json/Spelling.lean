import RuleTree.Proofs.Json.Number
import RuleTree.Proofs.Json.Scanning

/-! Spellings of a document: the texts that write its parts in their order, with any space between them.
Writing a document whose numbers are finite spells what its numbers are read back as, and so the document
itself where they are integers. -/

namespace RuleTree.Json

/-- What stands before a part of a bracket: space, with a comma in it unless the part is the first. -/
def Leads (first : Bool) (lead : List Char) : Prop :=
  if first then Blank lead else ∃ ws ws', Blank ws ∧ Blank ws' ∧ lead = ws ++ ',' :: ws'

mutual

/-- The text spells the document. -/
inductive Spells : List Char → Document → Prop
  | null : Spells ['n', 'u', 'l', 'l'] .null
  | yes : Spells ['t', 'r', 'u', 'e'] (.flag true)
  | no : Spells ['f', 'a', 'l', 's', 'e'] (.flag false)
  | number {t : List Char} {n : Number} : Takes readNumeral Delimits t n → Spells t (.number n)
  | text {t : List Char} {s : String} : Takes readText Anywhere t s → Spells ('"' :: t) (.text s)
  | array {t : List Char} {ds : List Document} :
      SpellsItems true t ds → Spells ('[' :: t) (.array ds)
  | object {t : List Char} {ms : List (String × Document)} :
      SpellsMembers true t ms → Spells ('\x7b' :: t) (.object ms)

/-- The text spells the items of a list, from some item on, and its bracket. -/
inductive SpellsItems : Bool → List Char → List Document → Prop
  | nil {first : Bool} {ws : List Char} : Blank ws → SpellsItems first (ws ++ [']']) []
  | cons {first : Bool} {lead t u : List Char} {d : Document} {ds : List Document} :
      Leads first lead → Spells t d → SpellsItems false u ds →
        SpellsItems first (lead ++ (t ++ u)) (d :: ds)

/-- The text spells the members of an object, from some member on, and its brace. -/
inductive SpellsMembers : Bool → List Char → List (String × Document) → Prop
  | nil {first : Bool} {ws : List Char} : Blank ws → SpellsMembers first (ws ++ ['\x7d']) []
  | cons {first : Bool} {lead key ws ws' t u : List Char} {k : String} {d : Document}
      {ms : List (String × Document)} :
      Leads first lead → Takes readText Anywhere key k → Blank ws → Blank ws' → Spells t d →
        SpellsMembers false u ms →
          SpellsMembers first (lead ++ '"' :: (key ++ (ws ++ ':' :: (ws' ++ (t ++ u))))) ((k, d) :: ms)

end

theorem leads_nil : Leads true [] := blank_nil

theorem leads_comma : Leads false [','] := ⟨[], [], blank_nil, blank_nil, rfl⟩

theorem writeText_toList (s : String) :
    (writeText s).toList = '"' :: (s.toList.flatMap escapedChar ++ ['"']) := by
  rw [writeText, String.toList_ofList]
  rfl

theorem takes_writeText (s : String) :
    Takes readText Anywhere (s.toList.flatMap escapedChar ++ ['"']) s := by
  intro c rest hc _
  rw [List.append_assoc] at hc
  exact readText_written hc

theorem spells_writeText (s : String) : Spells (writeText s).toList (.text s) := by
  rw [writeText_toList]
  exact .text (takes_writeText s)

theorem SpellsMembers.written {first : Bool} {lead ws ws' t u : List Char} {k : String} {d : Document}
    {ms : List (String × Document)} (hlead : Leads first lead) (hws : Blank ws) (hws' : Blank ws')
    (hd : Spells t d) (hms : SpellsMembers false u ms) :
    SpellsMembers first (lead ++ ((writeText k).toList ++ (ws ++ ':' :: (ws' ++ (t ++ u))))) ((k, d) :: ms) := by
  rw [writeText_toList, List.cons_append]
  exact .cons hlead (takes_writeText k) hws hws' hd hms

/-- A spelling begins with a character that neither is space nor closes a list. -/
theorem Spells.head {t : List Char} {d : Document} (h : Spells t d) :
    ∃ ch more, t = ch :: more ∧ Cursor.isSpace ch = false ∧ ch ≠ ']' := by
  cases h with
  | null | yes | no => exact ⟨_, _, rfl, by decide, by decide⟩
  | number hn =>
    obtain ⟨c, more, hc, hnumeral, -⟩ := hn.numeral_head
    refine ⟨c, more, hc, not_isSpace_of_numeral hnumeral, ?_⟩
    rintro rfl
    revert hnumeral
    decide
  | text _ => exact ⟨_, _, rfl, by decide, by decide⟩
  | array _ => exact ⟨_, _, rfl, by decide, by decide⟩
  | object _ => exact ⟨_, _, rfl, by decide, by decide⟩

theorem delimits_leads {lead : List Char} (h : Leads false lead) (rest : List Char) :
    Delimits (lead ++ rest) := by
  obtain ⟨ws, ws', hws, -, rfl⟩ := h
  cases ws with
  | nil => exact delimits_cons (by decide) _
  | cons c ws => exact delimits_of_isSpace (hws c List.mem_cons_self) _

theorem delimits_blank {ws : List Char} (h : Blank ws) {c : Char}
    (hc : c.isDigit = false ∧ c ≠ '.' ∧ c ≠ 'e' ∧ c ≠ 'E') (rest : List Char) :
    Delimits (ws ++ c :: rest) := by
  cases ws with
  | nil => exact delimits_cons hc _
  | cons c ws => exact delimits_of_isSpace (h c List.mem_cons_self) _

theorem SpellsItems.delimits {u : List Char} {ds : List Document} (h : SpellsItems false u ds)
    (rest : List Char) : Delimits (u ++ rest) := by
  cases h with
  | nil hws =>
    rw [List.append_assoc]
    exact delimits_blank hws (by decide) _
  | cons hlead _ _ =>
    rw [List.append_assoc]
    exact delimits_leads hlead _

theorem SpellsMembers.delimits {u : List Char} {ms : List (String × Document)}
    (h : SpellsMembers false u ms) (rest : List Char) : Delimits (u ++ rest) := by
  cases h with
  | nil hws =>
    rw [List.append_assoc]
    exact delimits_blank hws (by decide) _
  | cons hlead _ _ _ _ _ =>
    rw [List.append_assoc]
    exact delimits_leads hlead _

/-! ### Writing on one line -/

mutual

/-- Are all numbers of the document integers of 64 bits, in their narrowest kind? -/
def Document.Whole : Document → Prop
  | .number n => ∃ i, IsWord i ∧ n = .ofInt i
  | .array items => Document.WholeItems items
  | .object members => Document.WholeMembers members
  | _ => True

def Document.WholeItems : List Document → Prop
  | [] => True
  | d :: rest => d.Whole ∧ Document.WholeItems rest

def Document.WholeMembers : List (String × Document) → Prop
  | [] => True
  | (_, d) :: rest => d.Whole ∧ Document.WholeMembers rest

end

mutual

/-- Are all numbers of the document finite? -/
def Document.Finite : Document → Prop
  | .number n => n.finite = true
  | .array items => Document.FiniteItems items
  | .object members => Document.FiniteMembers members
  | _ => True

def Document.FiniteItems : List Document → Prop
  | [] => True
  | d :: rest => d.Finite ∧ Document.FiniteItems rest

def Document.FiniteMembers : List (String × Document) → Prop
  | [] => True
  | (_, d) :: rest => d.Finite ∧ Document.FiniteMembers rest

end

mutual

/-- The document with every number as it is read back. -/
def Document.reread : Document → Document
  | .number n => .number n.reread
  | .array items => .array (Document.rereadItems items)
  | .object members => .object (Document.rereadMembers members)
  | d => d

def Document.rereadItems : List Document → List Document
  | [] => []
  | d :: rest => d.reread :: Document.rereadItems rest

def Document.rereadMembers : List (String × Document) → List (String × Document)
  | [] => []
  | (k, d) :: rest => (k, d.reread) :: Document.rereadMembers rest

end

mutual

/-- Integers in their narrowest kind are read back as they are. -/
theorem Document.Whole.reread : ∀ {d : Document}, d.Whole → d.Finite ∧ d.reread = d
  | .null, _ | .flag _, _ | .text _, _ => ⟨trivial, rfl⟩
  | .number n, h => by
    obtain ⟨i, hi, rfl⟩ := h
    have hvalue := Number.toInt?_ofInt hi
    exact ⟨Number.finite_of_toInt? hvalue, congrArg _ (Number.reread_of_toInt? hvalue)⟩
  | .array items, h =>
    have hwhole : Document.WholeItems items := h
    have hitems := Document.WholeItems.reread hwhole
    ⟨hitems.1, congrArg _ hitems.2⟩
  | .object members, h =>
    have hwhole : Document.WholeMembers members := h
    have hmembers := Document.WholeMembers.reread hwhole
    ⟨hmembers.1, congrArg _ hmembers.2⟩

theorem Document.WholeItems.reread : ∀ {ds : List Document}, Document.WholeItems ds →
    Document.FiniteItems ds ∧ Document.rereadItems ds = ds
  | [], _ => ⟨trivial, rfl⟩
  | d :: rest, h => by
    obtain ⟨hfinite, hd⟩ := Document.Whole.reread h.1
    obtain ⟨hfinite', hrest⟩ := Document.WholeItems.reread h.2
    exact ⟨⟨hfinite, hfinite'⟩, by rw [Document.rereadItems, hd, hrest]⟩

theorem Document.WholeMembers.reread : ∀ {ms : List (String × Document)}, Document.WholeMembers ms →
    Document.FiniteMembers ms ∧ Document.rereadMembers ms = ms
  | [], _ => ⟨trivial, rfl⟩
  | (k, d) :: rest, h => by
    obtain ⟨hfinite, hd⟩ := Document.Whole.reread h.1
    obtain ⟨hfinite', hrest⟩ := Document.WholeMembers.reread h.2
    exact ⟨⟨hfinite, hfinite'⟩, by rw [Document.rereadMembers, hd, hrest]⟩

end

/-- Written parts behind commas, and what closes them. -/
def commaParts (parts : List String) (close : Char) : List Char :=
  parts.flatMap (fun p => ',' :: p.toList) ++ [close]

theorem intercalate_toList (sep : String) (parts : List String) (p : String) :
    (sep.intercalate (p :: parts)).toList =
      p.toList ++ parts.flatMap fun q => sep.toList ++ q.toList := by
  induction parts generalizing p with
  | nil => rw [String.intercalate_singleton, List.flatMap_nil, List.append_nil]
  | cons q parts ih =>
    rw [String.intercalate_cons_cons, String.toList_append, String.toList_append, ih,
      List.flatMap_cons, List.append_assoc, List.append_assoc]

theorem writeArray_cons (p : String) (parts : List String) :
    (writeArray (p :: parts)).toList = '[' :: (p.toList ++ commaParts parts ']') := by
  rw [writeArray, String.toList_append, String.toList_append, intercalate_toList, commaParts,
    ← List.append_assoc p.toList]
  rfl

theorem writeObject_cons (k v : String) (ms : List (String × String)) :
    (writeObject ((k, v) :: ms)).toList = '\x7b' :: ((writeMember k v).toList ++
      commaParts (ms.map fun (k, v) => writeMember k v) '\x7d') := by
  have hopen : "\x7b".toList = ['\x7b'] := rfl
  have hclose : "\x7d".toList = ['\x7d'] := rfl
  rw [writeObject, List.map_cons, String.toList_append, String.toList_append, intercalate_toList,
    commaParts, hopen, hclose, List.append_assoc, List.append_assoc, List.singleton_append]
  rfl

theorem writeMember_toList (k v : String) :
    (writeMember k v).toList = (writeText k).toList ++ ':' :: v.toList := by
  have hcolon : ":".toList = [':'] := rfl
  rw [writeMember, String.toList_append, String.toList_append, List.append_assoc, hcolon,
    List.singleton_append]

mutual

/-- A written document spells what its numbers are read back as. -/
theorem spells_reread : ∀ d : Document, d.Finite → Spells d.write.toList d.reread
  | .null, _ => .null
  | .flag true, _ => .yes
  | .flag false, _ => .no
  | .number n, h => .number fun _ _ => readNumeral_numeral (numeral_reread h)
  | .text s, _ => spells_writeText s
  | .array [], _ => .array (.nil blank_nil)
  | .array (d :: ds), h => by
    have hds := SpellsItems.cons leads_nil (spells_reread d h.1) (spells_rereadItems ds h.2)
    rw [Document.write, Document.writeItems, writeArray_cons]
    exact .array hds
  | .object [], _ => .object (.nil blank_nil)
  | .object ((k, d) :: ms), h => by
    have hms := SpellsMembers.written (k := k) leads_nil blank_nil blank_nil (spells_reread d h.1)
      (spells_rereadMembers ms h.2)
    simp only [List.nil_append] at hms
    rw [Document.write, Document.writeMembers, writeObject_cons, writeMember_toList,
      List.append_assoc, List.cons_append]
    exact .object hms

/-- The items behind the first one. -/
theorem spells_rereadItems : ∀ ds : List Document, Document.FiniteItems ds →
    SpellsItems false (commaParts (Document.writeItems ds) ']') (Document.rereadItems ds)
  | [], _ => .nil blank_nil
  | d :: ds, h => by
    have hds := SpellsItems.cons leads_comma (spells_reread d h.1) (spells_rereadItems ds h.2)
    simpa [commaParts, Document.writeItems, Document.rereadItems] using hds

/-- The members behind the first one. -/
theorem spells_rereadMembers : ∀ ms : List (String × Document), Document.FiniteMembers ms →
    SpellsMembers false
      (commaParts ((Document.writeMembers ms).map fun (k, v) => writeMember k v) '\x7d')
      (Document.rereadMembers ms)
  | [], _ => .nil blank_nil
  | (k, d) :: ms, h => by
    have hms := SpellsMembers.written (k := k) leads_comma blank_nil blank_nil (spells_reread d h.1)
      (spells_rereadMembers ms h.2)
    simpa [commaParts, Document.writeMembers, Document.rereadMembers, writeMember_toList] using hms

end

theorem spells_write {d : Document} (h : d.Whole) : Spells d.write.toList d := by
  obtain ⟨hfinite, hreread⟩ := h.reread
  have hspells := spells_reread d hfinite
  rwa [hreread] at hspells

end RuleTree.Json
