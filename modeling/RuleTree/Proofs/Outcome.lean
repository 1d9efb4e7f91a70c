import Mathlib.Data.List.Forall2

/-! When a chain of steps that may fail succeeds, each of its steps does; when it fails, one step does and those before
it do not. -/

namespace RuleTree

theorem bind_eq_ok_iff {ε α β : Type} {x : Except ε α} {f : α → Except ε β} {b : β} :
    (x >>= f) = .ok b ↔ ∃ a, x = .ok a ∧ f a = .ok b := by
  cases x <;> simp [bind, Except.bind]

theorem bind_eq_error_iff {ε α β : Type} {x : Except ε α} {f : α → Except ε β} {e : ε} :
    (x >>= f) = .error e ↔ x = .error e ∨ ∃ a, x = .ok a ∧ f a = .error e := by
  cases x <;> simp [bind, Except.bind]

theorem map_eq_ok_iff {ε α β : Type} {x : Except ε α} {f : α → β} {b : β} :
    x.map f = .ok b ↔ ∃ a, x = .ok a ∧ f a = b := by
  cases x <;> simp [Except.map]

theorem mapError_eq_ok_iff {ε ε' α : Type} {x : Except ε α} {f : ε → ε'} {a : α} :
    x.mapError f = .ok a ↔ x = .ok a := by
  cases x <;> simp [Except.mapError]

theorem toOption_eq_some_iff {ε α : Type} {x : Except ε α} {a : α} :
    x.toOption = some a ↔ x = .ok a := by
  cases x <;> simp [Except.toOption]

theorem isOk_iff {ε α : Type} {x : Except ε α} : x.isOk = true ↔ ∃ a, x = .ok a := by
  cases x <;> simp [Except.isOk, Except.toBool]

theorem exists_ok_iff {ε α : Type} {x : Except ε α} : (∃ a, x = .ok a) ↔ ∀ e, ¬ x = .error e := by
  cases x <;> simp

/-- What makes the outcomes of a step is all that it asks for. -/
theorem isOk_iff_exists {ε α β : Type} {x : Except ε α} {p : β → Prop} {f : β → α}
    (h : ∀ a, x = .ok a ↔ ∃ b, p b ∧ a = f b) : x.isOk = true ↔ ∃ b, p b := by
  rw [isOk_iff]
  constructor
  · rintro ⟨a, ha⟩
    obtain ⟨b, hb, -⟩ := (h a).1 ha
    exact ⟨b, hb⟩
  · rintro ⟨b, hb⟩
    exact ⟨f b, (h _).2 ⟨b, hb, rfl⟩⟩

theorem mapM_eq_ok_iff {ε α β : Type} {f : α → Except ε β} {xs : List α} {ys : List β} :
    xs.mapM f = .ok ys ↔ List.Forall₂ (fun x y => f x = .ok y) xs ys := by
  induction xs generalizing ys with
  | nil => simp [pure, Except.pure, eq_comm]
  | cons x rest ih =>
    simp only [List.mapM_cons, bind_eq_ok_iff, List.forall₂_cons_left_iff, ih, pure, Except.pure,
      Except.ok.injEq]
    grind

/-- A list is split at its first element or behind it. -/
theorem exists_split_cons {α : Type} {R : List α → α → List α → Prop} {first : α} {rest : List α} :
    (∃ before x after, first :: rest = before ++ x :: after ∧ R before x after) ↔
      R [] first rest ∨ ∃ before x after, rest = before ++ x :: after ∧ R (first :: before) x after := by
  constructor
  · rintro ⟨before, x, after, hsplit, hx⟩
    obtain ⟨rfl, hfirst⟩ | ⟨before, rfl, rfl⟩ := List.cons_eq_append_iff.1 hsplit
    · cases hfirst
      exact .inl hx
    · exact .inr ⟨before, x, after, rfl, hx⟩
  · rintro (h | ⟨before, x, after, rfl, hx⟩)
    · exact ⟨[], first, rest, rfl, h⟩
    · exact ⟨first :: before, x, after, rfl, hx⟩

theorem exists_first_cons {α : Type} {P Q : α → Prop} {first : α} {rest : List α} :
    (∃ before x after, first :: rest = before ++ x :: after ∧ (∀ y ∈ before, Q y) ∧ P x) ↔
      P first ∨ Q first ∧ ∃ before x after, rest = before ++ x :: after ∧ (∀ y ∈ before, Q y) ∧ P x := by
  rw [exists_split_cons]
  simp only [List.not_mem_nil, false_imp_iff, implies_true, true_and, List.forall_mem_cons, and_assoc, and_left_comm,
    exists_and_left]

theorem mapM_eq_error_iff {ε α β : Type} {f : α → Except ε β} {xs : List α} {e : ε} :
    xs.mapM f = .error e ↔
      ∃ before x after, xs = before ++ x :: after ∧ (∀ y ∈ before, ∃ b, f y = .ok b) ∧ f x = .error e := by
  induction xs with
  | nil => simp [pure, Except.pure]
  | cons first rest ih =>
    rw [exists_first_cons, ← ih, List.mapM_cons, bind_eq_error_iff]
    simp only [bind_eq_error_iff, pure, Except.pure, reduceCtorEq, and_false, exists_false, or_false,
      exists_and_right]

/-- Of what the elements give, the first one that `q` picks is given by the first element whose outcome it picks. -/
theorem find?_eq_some_iff_of_forall₂ {ε α β : Type} {f : α → Except ε β} {q : β → Bool} {xs : List α}
    {ys : List β} (h : List.Forall₂ (fun x y => f x = .ok y) xs ys) {b : β} :
    ys.find? q = some b ↔ ∃ before x after, xs = before ++ x :: after ∧
      (∀ z ∈ before, ∃ y, f z = .ok y ∧ q y = false) ∧ f x = .ok b ∧ q b = true := by
  induction h with
  | nil => simp
  | @cons x y xs ys hxy _ ih =>
    rw [exists_first_cons, ← ih, hxy, List.find?_cons]
    simp only [Except.ok.injEq, exists_eq_left']
    cases hq : q y with
    | true =>
      simp only [Option.some.injEq, reduceCtorEq, false_and, or_false]
      exact ⟨fun h => ⟨h, h ▸ hq⟩, And.left⟩
    | false =>
      simp only [true_and]
      refine ⟨.inr, fun h => h.resolve_left ?_⟩
      rintro ⟨rfl, hb⟩
      cases hq.symm.trans hb

theorem forall₂_mem_right {α β : Type} {R : α → β → Prop} {as : List α} {bs : List β}
    (h : List.Forall₂ R as bs) {b : β} (hb : b ∈ bs) : ∃ a ∈ as, R a b := by
  induction h with
  | nil => simp at hb
  | @cons a b' as bs hab _ ih =>
    obtain rfl | hb := List.mem_cons.1 hb
    · exact ⟨a, List.mem_cons_self, hab⟩
    · obtain ⟨a', ha', hR⟩ := ih hb
      exact ⟨a', List.mem_cons_of_mem a ha', hR⟩

end RuleTree
