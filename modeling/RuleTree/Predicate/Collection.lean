import RuleTree.Predicate.Basic

/-! Predicates over lists: which elements hold, how many, and the first. Each gives its answer with the
calls it made. -/

namespace RuleTree.Predicate

variable {ε α : Type}

/-- The elements that hold, in order. -/
def filter (p : Predicate ε α) : List α → List α × List ε
  | [] => ([], [])
  | x :: xs =>
    let v := p.test x
    let (kept, calls) := p.filter xs
    (if v.holds then x :: kept else kept, v.calls ++ calls)

/-- Copies of the elements that hold, in order. -/
def filterCopied (copy : α → α) (p : Predicate ε α) (xs : List α) : List α × List ε :=
  let (kept, calls) := p.filter xs
  (kept.map copy, calls)

/-- Takes the elements that do not hold out of a list in one pass; `kept` is what stays of the part before `xs`, the
last element first. -/
def retainFrom (p : Predicate ε α) (kept : List α) : List α → List α × List ε
  | [] => (kept.reverse, [])
  | x :: xs =>
    let v := p.test x
    let (whole, calls) := p.retainFrom (if v.holds then x :: kept else kept) xs
    (whole, v.calls ++ calls)

/-- What stays of a list when the elements that do not hold are taken out of it. -/
def retain (p : Predicate ε α) (xs : List α) : List α × List ε := p.retainFrom [] xs

/-- How many elements hold. -/
def count (p : Predicate ε α) (xs : List α) : Nat × List ε :=
  let (kept, calls) := p.filter xs
  (kept.length, calls)

/-- The index of the first element that holds, counted from `i`; nothing behind it is tested. -/
def positionFrom (p : Predicate ε α) (i : Nat) : List α → Option Nat × List ε
  | [] => (none, [])
  | x :: xs =>
    let v := p.test x
    if v.holds then (some i, v.calls)
    else
      let (found, calls) := p.positionFrom (i + 1) xs
      (found, v.calls ++ calls)

/-- The index of the first element that holds. -/
def position? (p : Predicate ε α) (xs : List α) : Option Nat × List ε := p.positionFrom 0 xs

/-- The first element that holds. -/
def find? (p : Predicate ε α) (xs : List α) : Option α × List ε :=
  let (found, calls) := p.position? xs
  (found.bind (xs[·]?), calls)

/-- Does some element hold? Nothing behind the first one is tested. -/
def any (p : Predicate ε α) (xs : List α) : Bool × List ε :=
  let (found, calls) := p.position? xs
  (found.isSome, calls)

/-- Does every element hold? Nothing behind the first one that fails is tested. -/
def all (p : Predicate ε α) (xs : List α) : Bool × List ε :=
  let (found, calls) := p.not.position? xs
  (found.isNone, calls)

end RuleTree.Predicate
