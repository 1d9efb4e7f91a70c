import RuleTree.Predicate.Shared
import RuleTree.Proofs.Tree.Duality
import RuleTree.Proofs.Tree.Refold

/-! Predicates put together from others. A predicate that was built from leaves and constants, however its parts were
joined, copied or left out, has the truth of the Boolean expression that it was built by, and calls the leaves that a
short circuit calls. So expressions that are equal by laws that keep the order of their leaves cannot be told apart. -/

namespace RuleTree

variable {ε α : Type}

/-! ### Verdicts -/

namespace Verdict

theorem join_eq (c : Connective) (v w : Verdict ε) : v.join c w =
    ⟨c.apply v.holds w.holds, v.calls ++ if v.holds = c.settledBy then [] else w.calls⟩ := by
  obtain ⟨b, labels⟩ := v
  cases c <;> cases b <;> simp [join, Connective.settledBy, Connective.apply]

/-- What settles the inner join settles the outer one. -/
theorem join_assoc (c : Connective) (u v w : Verdict ε) : (u.join c v).join c w = u.join c (v.join c w) := by
  by_cases hu : u.holds = c.settledBy
  · simp only [join, if_pos hu]
  · simp only [join, if_neg hu]
    split
    · rfl
    · rw [List.append_assoc]

theorem not_not (v : Verdict ε) : v.not.not = v := by
  rw [not, not, Bool.not_not]

end Verdict

/-! ### Expressions -/

/-- How two predicates that are there are joined: as a method of the left one, or by a function that takes sides that
may be absent, called for one connective or for any. -/
inductive Joining where
  | method
  | sides
  | combine

def Joining.join : Joining → Connective → Shared ε α → Shared ε α → ExceptT Violation (StateM Nat) (Shared ε α)
  | method, c, a, b => .lift (a.join c b)
  | sides, c, a, b => Shared.joinPresent c (some a) (some b)
  | combine, c, a, b => Shared.combine c a b

theorem Joining.run_join (how : Joining) (c : Connective) (a b : Shared ε α) (next : Nat) :
    (how.join c a b).run.run next = (.ok ⟨next, a.predicate.join c b.predicate⟩, next + 1) := by
  cases how <;> rfl

inductive Side where
  | left
  | right

/-- Joins a predicate on one side to nothing on the other. -/
def Side.joinAlone : Side → Connective → Shared ε α → ExceptT Violation (StateM Nat) (Shared ε α)
  | left, c, a => Shared.joinPresent c (some a) none
  | right, c, a => Shared.joinPresent c none (some a)

/-- Nothing on one side gives back the very predicate on the other. -/
theorem Side.joinAlone_eq (side : Side) (c : Connective) (a : Shared ε α) : side.joinAlone c a = pure a := by
  cases side <;> rfl

/-- What a predicate is built from, with `n` predicates at hand of which copies may be taken. -/
inductive Expression (ε α : Type) : Nat → Type
  | leaf {n : Nat} (label : ε) (f : α → Bool) : Expression ε α n
  | constant {n : Nat} (b : Bool) : Expression ε α n
  | given {n : Nat} (i : Fin n) : Expression ε α n
  | copy {n : Nat} (e : Expression ε α n) : Expression ε α n
  /-- Builds `e` once, and puts it at hand for what `body` builds. -/
  | share {n : Nat} (e : Expression ε α n) (body : Expression ε α (n + 1)) : Expression ε α n
  | not {n : Nat} (e : Expression ε α n) : Expression ε α n
  | join {n : Nat} (how : Joining) (c : Connective) (left right : Expression ε α n) : Expression ε α n
  | alone {n : Nat} (side : Side) (c : Connective) (e : Expression ε α n) : Expression ε α n

/-- One more in front of those that are given. -/
def push {β : Type} {n : Nat} (b : β) (given : Fin n → β) : Fin (n + 1) → β := Fin.cases b given

theorem comp_push {β γ : Type} {n : Nat} (f : β → γ) (b : β) (given : Fin n → β) :
    (fun i => f (push b given i)) = push (f b) fun i => f (given i) := by
  funext i
  cases i using Fin.cases <;> rfl

namespace Expression

/-- Builds the predicate, its parts from left to right. -/
def build : {n : Nat} → Expression ε α n → (Fin n → Shared ε α) → ExceptT Violation (StateM Nat) (Shared ε α)
  | _, leaf label f, _ => .lift (Shared.make (.leaf label f))
  | _, constant b, _ => .lift (Shared.make (.always b))
  | _, given i, hand => pure (hand i).copy
  | _, copy e, hand => do return (← e.build hand).copy
  | _, share e body, hand => do body.build (push (← e.build hand) hand)
  | _, not e, hand => do .lift (← e.build hand).not
  | _, join how c left right, hand => do how.join c (← left.build hand) (← right.build hand)
  | _, alone side c e, hand => do side.joinAlone c (← e.build hand)

/-! ### Meaning -/

/-- The truth of the expression for an input, given that of the predicates at hand. -/
def value (x : α) : {n : Nat} → Expression ε α n → (Fin n → Bool) → Bool
  | _, leaf _ f, _ => f x
  | _, constant b, _ => b
  | _, given i, hand => hand i
  | _, copy e, hand => e.value x hand
  | _, share e body, hand => body.value x (push (e.value x hand) hand)
  | _, not e, hand => !e.value x hand
  | _, join _ c left right, hand => c.apply (left.value x hand) (right.value x hand)
  | _, alone _ _ e, hand => e.value x hand

/-- The leaves that are called in turn: those of the right side of a join only where the left one does not settle it. -/
def calls (x : α) : {n : Nat} → Expression ε α n → (Fin n → Verdict ε) → List ε
  | _, leaf label _, _ => [label]
  | _, constant _, _ => []
  | _, given i, hand => (hand i).calls
  | _, copy e, hand => e.calls x hand
  | _, share e body, hand => body.calls x (push ⟨e.value x fun i => (hand i).holds, e.calls x hand⟩ hand)
  | _, not e, hand => e.calls x hand
  | _, join _ c left right, hand =>
    left.calls x hand ++ if (left.value x fun i => (hand i).holds) = c.settledBy then [] else right.calls x hand
  | _, alone _ _ e, hand => e.calls x hand

variable {n : Nat} {x : α}

def verdict (x : α) (e : Expression ε α n) (hand : Fin n → Verdict ε) : Verdict ε :=
  ⟨e.value x fun i => (hand i).holds, e.calls x hand⟩

theorem verdict_share (e : Expression ε α n) (body : Expression ε α (n + 1)) (hand : Fin n → Verdict ε) :
    (share e body).verdict x hand = body.verdict x (push (e.verdict x hand) hand) := by
  rw [verdict, verdict, comp_push]
  rfl

theorem verdict_not (e : Expression ε α n) (hand : Fin n → Verdict ε) :
    (not e).verdict x hand = (e.verdict x hand).not := rfl

theorem verdict_join (how : Joining) (c : Connective) (left right : Expression ε α n) (hand : Fin n → Verdict ε) :
    (join how c left right).verdict x hand =
      (left.verdict x hand).join c (right.verdict x hand) :=
  (Verdict.join_eq c (left.verdict x hand) (right.verdict x hand)).symm

/-! ### Building -/

theorem run_bind_of_ok {β γ : Type} {m : ExceptT Violation (StateM Nat) β} {f : β → ExceptT Violation (StateM Nat) γ}
    {b : β} {next next' : Nat} (h : m.run.run next = (.ok b, next')) :
    (m >>= f).run.run next = (f b).run.run next' := by
  simp only [ExceptT.run_bind, StateT.run_bind, h]
  rfl

/-- Building succeeds, and the predicate that is built says what the expression does. -/
theorem exists_build (e : Expression ε α n) (hand : Fin n → Shared ε α) (next : Nat) :
    ∃ a next', (e.build hand).run.run next = (.ok a, next') ∧
      ∀ x, a.predicate.test x = e.verdict x fun i => (hand i).predicate.test x := by
  induction e generalizing next with
  | leaf label f => exact ⟨_, _, rfl, fun _ => rfl⟩
  | constant b => exact ⟨_, _, rfl, fun _ => rfl⟩
  | given i => exact ⟨hand i, next, rfl, fun _ => rfl⟩
  | copy e ih =>
    obtain ⟨a, next', hrun, htest⟩ := ih hand next
    exact ⟨a, next', run_bind_of_ok hrun, htest⟩
  | share e body ihe ihbody =>
    obtain ⟨a, next', hrun, htest⟩ := ihe hand next
    obtain ⟨b, last, hrun', htest'⟩ := ihbody (push a hand) next'
    refine ⟨b, last, (run_bind_of_ok hrun).trans hrun', fun x => ?_⟩
    rw [htest', verdict_share, ← htest, comp_push fun s : Shared ε α => s.predicate.test x]
  | not e ih =>
    obtain ⟨a, next', hrun, htest⟩ := ih hand next
    refine ⟨_, _, (run_bind_of_ok hrun).trans rfl, fun x => ?_⟩
    rw [verdict_not, ← htest]
    rfl
  | join how c left right ihl ihr =>
    obtain ⟨a, next', hrun, htest⟩ := ihl hand next
    obtain ⟨b, last, hrun', htest'⟩ := ihr hand next'
    refine ⟨_, _, (run_bind_of_ok hrun).trans ((run_bind_of_ok hrun').trans (how.run_join c a b last)), fun x => ?_⟩
    rw [verdict_join, ← htest, ← htest']
    exact Predicate.join_test c a.predicate b.predicate x
  | alone side c e ih =>
    obtain ⟨a, next', hrun, htest⟩ := ih hand next
    refine ⟨a, next', (run_bind_of_ok hrun).trans ?_, htest⟩
    rw [side.joinAlone_eq]
    rfl

/-- What the predicate that is built says of an input. -/
def tested (e : Expression ε α n) (hand : Fin n → Shared ε α) (next : Nat) (x : α) : Except Violation (Verdict ε) :=
  ((e.build hand).run.run next).1.map fun a => a.predicate.test x

theorem tested_eq (e : Expression ε α n) (hand : Fin n → Shared ε α) (next : Nat) (x : α) :
    e.tested hand next x = .ok (e.verdict x fun i => (hand i).predicate.test x) := by
  obtain ⟨a, next', hrun, htest⟩ := exists_build e hand next
  rw [tested, hrun, ← htest]
  rfl

/-! ### Laws -/

/-- Whatever predicates are at hand, the two give every input the same outcome by the same calls in the same order. -/
def Agrees (e e' : Expression ε α n) : Prop :=
  ∀ hand next next' x, e.tested hand next x = e'.tested hand next' x

theorem agrees_of_verdict {e e' : Expression ε α n} (h : ∀ x hand, e.verdict x hand = e'.verdict x hand) :
    e.Agrees e' := by
  intro hand next next' x
  rw [tested_eq, tested_eq, h]

theorem join_assoc_agrees (how how' outer outer' : Joining) (c : Connective) (p q r : Expression ε α n) :
    (join outer c (join how c p q) r).Agrees (join outer' c p (join how' c q r)) := by
  apply agrees_of_verdict
  intro x hand
  simp only [verdict_join, Verdict.join_assoc]

theorem not_not_agrees (p : Expression ε α n) : p.not.not.Agrees p := by
  apply agrees_of_verdict
  intro x hand
  rw [verdict_not, verdict_not, Verdict.not_not]

theorem not_join_agrees (how how' : Joining) (c : Connective) (p q : Expression ε α n) :
    (join how c p q).not.Agrees (join how' c.dual p.not q.not) := by
  apply agrees_of_verdict
  intro x hand
  simp only [verdict_not, verdict_join, Verdict.join_not]

theorem holds_join_self (how : Joining) (c : Connective) (p : Expression ε α n) (hand : Fin n → Shared ε α)
    (next next' : Nat) (x : α) :
    ((join how c p p).tested hand next x).map Verdict.holds = (p.tested hand next' x).map Verdict.holds := by
  rw [tested_eq, tested_eq, verdict_join, Except.map, Except.map, Verdict.join_holds, Connective.apply_self]

/-- Joining two copies of one predicate. -/
theorem share_join_agrees (how how' : Joining) (c : Connective) (p : Expression ε α n) :
    (share p (join how c (given 0) (given 0))).Agrees (join how' c p p) := by
  apply agrees_of_verdict
  intro x hand
  rw [verdict_share, verdict_join, verdict_join]
  rfl

/-- Joined to nothing, a predicate stays the one that it is, with no other made. -/
theorem build_alone (side : Side) (c : Connective) (e : Expression ε α n) (hand : Fin n → Shared ε α) :
    (alone side c e).build hand = e.build hand := by
  simp only [build, Side.joinAlone_eq, bind_pure]

/-- Predicates form a Boolean algebra with short circuits. What is built from an expression says what the expression
says and calls the leaves that it calls; a side that is absent leaves the other as it is, and two absent sides break the
contract of the connective that is named. So joins are associative, two negations cancel and the laws of De Morgan hold,
calls included; a join of a predicate with itself, or with its own copy, is the predicate as far as the truth goes. -/
theorem tested_algebra {n : Nat} :
    (∀ (e : Expression ε α n) hand next x, e.tested hand next x = .ok
      ⟨e.value x fun i => ((hand i).predicate.test x).holds, e.calls x fun i => (hand i).predicate.test x⟩) ∧
    (∀ c (a : Shared ε α) next,
      (∃ b, (Shared.joinPresent c (some a) none).run.run next = (.ok b, next) ∧ b.isSame a = true) ∧
      (∃ b, (Shared.joinPresent c none (some a)).run.run next = (.ok b, next) ∧ b.isSame a = true) ∧
      ∀ b, ∃ d, (Shared.joinPresent c (some a) (some b)).run.run next = (.ok d, next + 1) ∧ d.serial = next) ∧
    (∀ side c (e : Expression ε α n) hand, (alone side c e).build hand = e.build hand) ∧
    (∀ c next, ∃ v, (Shared.joinPresent c none none : ExceptT Violation (StateM Nat) (Shared ε α)).run.run next =
      (.error v, next) ∧ v.message = "contract violation: " ++ c.name ++ "() needs at least one predicate") ∧
    (∀ how how' outer outer' c (p q r : Expression ε α n),
      (join outer c (join how c p q) r).Agrees (join outer' c p (join how' c q r))) ∧
    (∀ p : Expression ε α n, p.not.not.Agrees p) ∧
    (∀ how how' (p q : Expression ε α n),
      (join how .or p q).not.Agrees (join how' .and p.not q.not) ∧
      (join how .and p q).not.Agrees (join how' .or p.not q.not)) ∧
    ∀ how c (p : Expression ε α n) hand next next' x,
      ((join how c p p).tested hand next x).map Verdict.holds = (p.tested hand next' x).map Verdict.holds ∧
      ((share p (join how c (given 0) (given 0))).tested hand next x).map Verdict.holds =
        (p.tested hand next' x).map Verdict.holds := by
  refine ⟨tested_eq,
    fun c a next => ⟨⟨a, rfl, beq_self_eq_true _⟩, ⟨a, rfl, beq_self_eq_true _⟩, fun b => ⟨_, rfl, rfl⟩⟩, build_alone,
    fun c next => ⟨_, rfl, ?_⟩, join_assoc_agrees, not_not_agrees, fun how how' p q => ⟨?_, ?_⟩,
    fun how c p hand next next' x => ⟨?_, ?_⟩⟩
  · rfl
  · exact not_join_agrees how how' .or p q
  · exact not_join_agrees how how' .and p q
  · exact holds_join_self how c p hand next next' x
  · rw [share_join_agrees how how c p hand next next x]
    exact holds_join_self how c p hand next next' x

/-- The sides of a join cannot be swapped: the truth is the same, but another leaf is called. -/
example :
    let p : Expression String Nat 0 := leaf "p" (· == 1)
    let q : Expression String Nat 0 := leaf "q" fun _ => true
    ((join .method .or p q).calls 1 Fin.elim0 = ["p"]) ∧ (join .method .or q p).calls 1 Fin.elim0 = ["q"] := by
  decide

end Expression

end RuleTree
