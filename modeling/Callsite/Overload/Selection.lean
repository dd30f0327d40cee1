import Callsite.Key
import Callsite.Typing.TypeId

/-!
# Selecting an overload

The candidates of a template compete for a call by their declared types. A candidate is eligible if
it declares as many types as the call has operands and each operand's type is the declared one or
may be widened to it. The eligible candidates with the most exact positions are the best, and the
one registered first wins. If another best candidate declares the same types as the winner, no one
wins and the answer lists these twins.
-/

namespace Callsite

/-- A member of a template with the types of its arguments. -/
structure Candidate where
  function : FunctionIndex
  types : List TypeId
deriving DecidableEq

/-- The outcome of a selection. -/
inductive Selection where
  | found (winner : FunctionIndex)
  | noMatch
  | ambiguous (twins : List FunctionIndex)
deriving DecidableEq

/-- The number of positions at which the given type is the declared one; `none` if the lengths
differ or if some other given type cannot be widened to the declared one. -/
def exactPositions? (widens : TypeId → TypeId → Bool) : List TypeId → List TypeId → Option Nat
  | [], [] => some 0
  | want :: declared, given :: runtime =>
    if want = given then (exactPositions? widens declared runtime).map (· + 1)
    else if widens given want then exactPositions? widens declared runtime
    else none
  | _, _ => none

/-- Only a candidate with as many types as there are operands has exact positions to count. -/
theorem length_eq_of_exactPositions? {widens : TypeId → TypeId → Bool}
    {declared runtime : List TypeId} {n : Nat}
    (h : exactPositions? widens declared runtime = some n) :
    declared.length = runtime.length := by
  induction declared generalizing runtime n with
  | nil => cases runtime <;> simp_all [exactPositions?]
  | cons want declared ih =>
    cases runtime with
    | nil => simp [exactPositions?] at h
    | cons given runtime =>
      simp only [exactPositions?] at h
      split at h
      · obtain ⟨m, hm, -⟩ := Option.map_eq_some_iff.1 h
        simpa using ih hm
      · split at h
        · simpa using ih h
        · simp at h

namespace Selection

/-- The eligible candidates, each with its number of exact positions. -/
def eligible (widens : TypeId → TypeId → Bool) (candidates : List Candidate)
    (runtime : List TypeId) : List (Candidate × Nat) :=
  candidates.filterMap fun candidate =>
    (exactPositions? widens candidate.types runtime).map (candidate, ·)

/-- The candidates with the greatest number of exact positions. -/
def best (scored : List (Candidate × Nat)) : List Candidate :=
  let most := (scored.map (·.2)).foldl max 0
  (scored.filter (·.2 == most)).map (·.1)

/-- Puts a candidate before the first of some others that was not registered before it. -/
def place (candidate : Candidate) : List Candidate → List Candidate
  | [] => [candidate]
  | other :: rest =>
    if candidate.function.number ≤ other.function.number then candidate :: other :: rest
    else other :: place candidate rest

/-- Candidates in the order of their registration. -/
def inOrder (candidates : List Candidate) : List Candidate :=
  candidates.foldr place []

/-- Placing a candidate adds it and changes nothing else. -/
theorem place_perm (candidate : Candidate) (others : List Candidate) :
    (place candidate others).Perm (candidate :: others) := by
  induction others with
  | nil => exact List.Perm.refl _
  | cons other rest ih =>
    unfold place
    split
    · exact List.Perm.refl _
    · exact (ih.cons other).trans (List.Perm.swap candidate other rest)

/-- Ordering candidates neither adds nor drops any. -/
theorem inOrder_perm (candidates : List Candidate) : (inOrder candidates).Perm candidates := by
  induction candidates with
  | nil => exact List.Perm.refl _
  | cons candidate rest ih => exact (place_perm candidate _).trans (ih.cons candidate)

/-- What the best candidates, in order, decide: the first wins unless it has a twin. -/
def decideAmong : List Candidate → Selection
  | [] => .noMatch
  | winner :: others =>
    match others.filter (·.types = winner.types) with
    | [] => .found winner.function
    | twins => .ambiguous (winner.function :: twins.map (·.function))

end Selection

/-- The candidate that a call with these operand types selects. -/
def select (widens : TypeId → TypeId → Bool) (candidates : List Candidate)
    (runtime : List TypeId) : Selection :=
  Selection.decideAmong
    (Selection.inOrder (Selection.best (Selection.eligible widens candidates runtime)))

end Callsite
