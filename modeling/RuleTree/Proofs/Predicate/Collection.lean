import RuleTree.Predicate.Collection

/-! What the passes over a list give, and on which elements they call the predicate. All of them agree on the elements
that hold; those that look for a single element call the predicate up to it and no further. -/

namespace RuleTree.Predicate

variable {ε α : Type}

/-- The calls for these elements, one after the other. -/
def callsOn (p : Predicate ε α) (xs : List α) : List ε := xs.flatMap fun x => (p.test x).calls

/-- The elements up to and including the first one that `q` picks, or all of them if it picks none. -/
def throughFirst (q : α → Bool) (xs : List α) : List α := xs.take (xs.findIdx q + 1)

theorem callsOn_cons (p : Predicate ε α) (x : α) (xs : List α) :
    p.callsOn (x :: xs) = (p.test x).calls ++ p.callsOn xs := List.flatMap_cons

theorem throughFirst_cons (q : α → Bool) (x : α) (xs : List α) :
    throughFirst q (x :: xs) = if q x then [x] else x :: throughFirst q xs := by
  cases hx : q x <;> simp [throughFirst, List.findIdx_cons, hx]

/-! ### Passes over all elements -/

/-- The elements that hold, in their order, each as often as it occurs. -/
theorem filter_eq (p : Predicate ε α) (xs : List α) :
    p.filter xs = (xs.filter fun x => (p.test x).holds, p.callsOn xs) := by
  induction xs with
  | nil => rfl
  | cons x xs ih => rw [filter, ih, List.filter_cons, callsOn_cons]

theorem filterCopied_eq (copy : α → α) (p : Predicate ε α) (xs : List α) :
    p.filterCopied copy xs = ((xs.filter fun x => (p.test x).holds).map copy, p.callsOn xs) := by
  rw [filterCopied, filter_eq]

/-- What is kept of the elements before stands in front of what is kept of the others. -/
theorem retainFrom_eq (p : Predicate ε α) (kept xs : List α) :
    p.retainFrom kept xs = (kept.reverse ++ xs.filter fun x => (p.test x).holds, p.callsOn xs) := by
  induction xs generalizing kept with
  | nil => simp [retainFrom, callsOn]
  | cons x xs ih =>
    rw [retainFrom, ih, callsOn_cons, List.filter_cons]
    dsimp only
    split
    · rw [List.reverse_cons, List.append_assoc, List.singleton_append]
    · rfl

theorem retain_eq (p : Predicate ε α) (xs : List α) :
    p.retain xs = (xs.filter fun x => (p.test x).holds, p.callsOn xs) :=
  retainFrom_eq p [] xs

theorem count_eq (p : Predicate ε α) (xs : List α) :
    p.count xs = ((xs.filter fun x => (p.test x).holds).length, p.callsOn xs) := by
  rw [count, filter_eq]

/-! ### Passes that look for one element -/

theorem positionFrom_eq (p : Predicate ε α) (i : Nat) (xs : List α) :
    p.positionFrom i xs = ((xs.findIdx? fun x => (p.test x).holds).map (· + i),
      p.callsOn (throughFirst (fun x => (p.test x).holds) xs)) := by
  induction xs generalizing i with
  | nil => rfl
  | cons x xs ih =>
    rw [positionFrom, ih, List.findIdx?_cons, throughFirst_cons]
    split
    · rw [Option.map_some, Nat.zero_add, callsOn_cons, callsOn, List.flatMap_nil, List.append_nil]
    · rw [callsOn_cons, Option.map_map]
      simp [Function.comp_def, Nat.add_assoc, Nat.add_comm 1]

theorem position?_eq (p : Predicate ε α) (xs : List α) :
    p.position? xs = (xs.findIdx? fun x => (p.test x).holds,
      p.callsOn (throughFirst (fun x => (p.test x).holds) xs)) := by
  rw [position?, positionFrom_eq]
  simp

theorem find?_eq (p : Predicate ε α) (xs : List α) :
    p.find? xs = (xs.find? fun x => (p.test x).holds,
      p.callsOn (throughFirst (fun x => (p.test x).holds) xs)) := by
  rw [find?, position?_eq, List.find?_eq_bind_findIdx?_getElem?]

theorem any_eq (p : Predicate ε α) (xs : List α) :
    p.any xs = (xs.any fun x => (p.test x).holds,
      p.callsOn (throughFirst (fun x => (p.test x).holds) xs)) := by
  rw [any, position?_eq]
  dsimp only
  rw [List.findIdx?_isSome]

theorem all_eq (p : Predicate ε α) (xs : List α) :
    p.all xs = (xs.all fun x => (p.test x).holds,
      p.callsOn (throughFirst (fun x => !(p.test x).holds) xs)) := by
  rw [all, position?_eq]
  dsimp only
  rw [List.findIdx?_isNone]
  simp [Predicate.not, callsOn]

/-! ### Agreement -/

/-- All passes over a list agree on its elements that hold. Those that take all of these, or count them, call the
predicate once for each element, in order; the others call it up to the element that settles the answer. -/
theorem passes_agree (copy : α → α) (p : Predicate ε α) (xs : List α) :
    let holds x := (p.test x).holds
    let kept := xs.filter holds
    let calls := p.callsOn (throughFirst holds xs)
    (p.filter xs = (kept, p.callsOn xs) ∧ p.filterCopied copy xs = (kept.map copy, p.callsOn xs) ∧
      p.retain xs = (kept, p.callsOn xs) ∧ p.count xs = (kept.length, p.callsOn xs)) ∧
    (((p.any xs).1 = true ↔ kept ≠ []) ∧ (p.any xs).2 = calls) ∧
    (((p.all xs).1 = true ↔ kept.length = xs.length) ∧
      (p.all xs).2 = p.callsOn (throughFirst (fun x => !holds x) xs)) ∧
    ((∀ i, (p.position? xs).1 = some i ↔
        ∃ h : i < xs.length, holds xs[i] = true ∧ ∀ j (hj : j < i), holds xs[j] = false) ∧
      ((p.position? xs).1 = none ↔ kept = []) ∧ (p.position? xs).2 = calls) ∧
    (∀ x, (p.find? xs).1 = some x ↔ ∃ i, (p.position? xs).1 = some i ∧ xs[i]? = some x) ∧
      ((p.find? xs).1 = none ↔ kept = []) ∧ (p.find? xs).2 = calls := by
  intro holds kept calls
  have hkept : kept = [] ↔ ∀ x ∈ xs, holds x = false := by simp [kept]
  refine ⟨⟨filter_eq p xs, filterCopied_eq copy p xs, retain_eq p xs, count_eq p xs⟩, ?_, ?_, ?_, ?_⟩
  · rw [any_eq, ne_eq, hkept]
    simp [holds, calls]
  · rw [all_eq, List.length_filter_eq_length_iff]
    simp [holds]
  · rw [position?_eq, hkept]
    exact ⟨fun i => by simp [holds, List.findIdx?_eq_some_iff_getElem], List.findIdx?_eq_none_iff, rfl⟩
  · rw [find?_eq, position?_eq, hkept]
    refine ⟨fun x => ?_, by simp [holds], rfl⟩
    rw [List.find?_eq_bind_findIdx?_getElem?, Option.bind_eq_some_iff]

end RuleTree.Predicate
