import Callsite.Proofs.Memory.Provenance

/-!
# Stable services

If the answers of a type service on texts never change, a text names at most one type
(`TypeService.Names`), and a function has one signature, found whenever it is asked for: the
argument types that are remembered are those that resolving the arguments again gives
(`Callee.result_argumentTypes`).
-/

namespace Callsite

open Relation (ReflTransGen)

variable {β : Type}

/-- Whether the service answers with the type when it is asked for the text first. A stable service
gives this answer at all times. -/
def TypeService.Names (types : TypeService) (text : String) (id : TypeId) : Prop :=
  types.resolve 0 text = some id

/-- The types of the function's arguments, resolved when nothing is remembered. -/
def Callee.signature (types : TypeService) (callee : Callee β) :
    Except UnknownType (List TypeId) :=
  (resolveArguments types callee.name callee.arguments 0).result

variable {types : TypeService}

/-- The answers of a stable service are those it gives first. -/
theorem TypeService.Stable.answersWithin (hstable : types.Stable) :
    types.AnswersWithin types.Names := by
  intro earlier text id hid
  rw [TypeService.Names, hstable 0 earlier, hid]

/-- Texts resolved later have the types they had at first. -/
theorem result_resolveArguments (hstable : types.Stable) (function : String)
    (arguments : List Argument) (earlier later : Nat) :
    (resolveArguments types function arguments earlier).result =
      (resolveArguments types function arguments later).result := by
  induction arguments generalizing earlier later with
  | nil => rfl
  | cons argument rest ih =>
    rw [resolveArguments, resolveArguments, hstable later earlier]
    cases types.resolve earlier argument.elementType with
    | none => rfl
    | some id =>
      have hrest := ih (earlier + 1) (later + 1)
      simp only [Answer.result_map, hrest]

/-- Arguments are resolved exactly to the types that the texts of their element types name. -/
theorem result_resolveArguments_eq_ok_iff (hstable : types.Stable) {function : String}
    {arguments : List Argument} {earlier : Nat} {ids : List TypeId} :
    (resolveArguments types function arguments earlier).result = .ok ids ↔
      List.Forall₂ (fun argument id => types.Names argument.elementType id) arguments ids := by
  constructor
  · intro h
    refine (forall₂_of_resolveArguments h).imp ?_
    rintro argument id ⟨n, hid⟩
    exact hstable.answersWithin n _ id hid
  · intro h
    induction h generalizing earlier with
    | nil => rfl
    | cons hid _ ih =>
      rw [resolveArguments, hstable earlier 0, hid]
      rw [Answer.result_map, ih]
      rfl

/-! ## Services that agree on texts -/

/-- Whether another service has the same answers on texts. The two may differ in anything else. -/
def TypeService.SameTexts (types other : TypeService) : Prop :=
  ∀ earlier text, other.resolve earlier text = types.resolve earlier text

namespace TypeService.SameTexts

variable {other : TypeService}

/-- Services with the same answers on texts are stable together. -/
theorem stable (h : types.SameTexts other) (hstable : types.Stable) : other.Stable := by
  intro earlier later text
  rw [h, h, hstable earlier later]

/-- For services with the same answers on texts the same texts name the same types. -/
theorem names_eq (h : types.SameTexts other) : other.Names = types.Names := by
  funext text id
  rw [TypeService.Names, TypeService.Names, h]

/-- A service with the same answers on texts as a stable one answers as that does first. -/
theorem answersWithin (h : types.SameTexts other) (hstable : types.Stable) :
    other.AnswersWithin types.Names := by
  rw [← h.names_eq]
  exact (h.stable hstable).answersWithin

/-- Services with the same answers on texts resolve arguments to the same types. -/
theorem resolveArguments_eq (h : types.SameTexts other) (function : String)
    (arguments : List Argument) (earlier : Nat) :
    resolveArguments other function arguments earlier =
      resolveArguments types function arguments earlier := by
  induction arguments generalizing earlier with
  | nil => rfl
  | cons argument rest ih => rw [resolveArguments, resolveArguments, h, ih]

/-- For services with the same answers on texts a function has the same signature. -/
theorem signature_eq (h : types.SameTexts other) :
    (Callee.signature other : Callee β → _) = Callee.signature types := by
  funext callee
  rw [Callee.signature, Callee.signature, h.resolveArguments_eq]

end TypeService.SameTexts

/-! ## Signatures -/

namespace Callee

variable {registry : Registry β} {memory : Memory β} {callee : Callee β}

/-- A function has a signature exactly if the texts of its arguments name the types in it. -/
theorem signature_eq_ok_iff (hstable : types.Stable) {ids : List TypeId} :
    callee.signature types = .ok ids ↔ callee.TypedWithin types.Names ids :=
  result_resolveArguments_eq_ok_iff hstable

/-- Whatever is remembered, the argument types of a registered function are its signature. -/
theorem result_argumentTypes (hstable : types.Stable) (hcallee : registry.Registered callee)
    (hmemory : memory.TypesFrom registry types.Names) :
    (callee.argumentTypes types memory).result = callee.signature types := by
  cases hknown : memory.types? callee.index with
  | some ids =>
    obtain ⟨other, hother, htyped⟩ := hmemory _ ids hknown
    obtain rfl := Option.some.inj (hcallee.symm.trans hother)
    rw [argumentTypes_of_known hknown, (signature_eq_ok_iff hstable).2 htyped]
    rfl
  | none =>
    -- the arguments are resolved later than for the signature, with the same answers
    have hresolve := result_resolveArguments hstable callee.name callee.arguments
      memory.resolutions 0
    rw [argumentTypes_of_unknown hknown, signature, ← hresolve]
    cases hresult : (resolveArguments types callee.name callee.arguments
        memory.resolutions).result with
    | error error =>
      have hmemory : (memory.resolveArguments types callee.name callee.arguments).result =
        .error error := hresult
      rw [Answer.andThen_of_error hmemory]
    | ok ids =>
      have hmemory : (memory.resolveArguments types callee.name callee.arguments).result =
        .ok ids := hresult
      rw [Answer.andThen_of_ok hmemory]
      rfl

end Callee

/-! ## Candidates -/

/-- Whether a candidate is the function with `answers` for its argument types. -/
def Callee.IsCandidate (answers : String → TypeId → Prop) (callee : Callee β)
    (candidate : Candidate) : Prop :=
  candidate.function = callee.index ∧ callee.TypedWithin answers candidate.types

section Candidates

variable {registry : Registry β} {callees : List (Callee β)}

/-- The candidates that functions make do not depend on what is remembered. -/
theorem result_candidatesOf (hstable : types.Stable)
    (hcallees : ∀ callee ∈ callees, registry.Registered callee) {memory other : Memory β}
    (hmemory : memory.TypesFrom registry types.Names)
    (hother : other.TypesFrom registry types.Names) :
    (candidatesOf types callees memory).result = (candidatesOf types callees other).result := by
  induction callees generalizing memory other with
  | nil => rfl
  | cons callee rest ih =>
    obtain ⟨hcallee, hregistered⟩ := List.forall_mem_cons.1 hcallees
    rw [candidatesOf, candidatesOf]
    refine Answer.result_andThen_congr id ?_ fun declared _ => ?_
    · rw [Callee.result_argumentTypes hstable hcallee hmemory,
        Callee.result_argumentTypes hstable hcallee hother]
    · have hrest := ih hregistered
        (Registry.typesFrom_learnsTypes hstable.answersWithin
          (Callee.argumentTypes_learns hcallee) hmemory)
        (Registry.typesFrom_learnsTypes hstable.answersWithin
          (Callee.argumentTypes_learns hcallee) hother)
      rw [Answer.result_map, Answer.result_map, hrest]

/-- Functions make the candidates that have their keys and the types that their texts name. -/
theorem result_candidatesOf_eq_ok (hstable : types.Stable)
    (hcallees : ∀ callee ∈ callees, registry.Registered callee) {memory : Memory β}
    (hmemory : memory.TypesFrom registry types.Names) {candidates : List Candidate}
    (h : List.Forall₂ (Callee.IsCandidate types.Names) callees candidates) :
    (candidatesOf types callees memory).result = .ok candidates := by
  induction h generalizing memory with
  | nil => rfl
  | cons hfirst _ ih =>
    rename_i callee candidate rest others _
    obtain ⟨hindex, htyped⟩ := hfirst
    obtain ⟨hcallee, hregistered⟩ := List.forall_mem_cons.1 hcallees
    have hdeclared : (callee.argumentTypes types memory).result = .ok candidate.types := by
      rw [Callee.result_argumentTypes hstable hcallee hmemory]
      exact (Callee.signature_eq_ok_iff hstable).2 htyped
    have hlater := Registry.typesFrom_learnsTypes hstable.answersWithin
      (Callee.argumentTypes_learns hcallee) hmemory
    rw [candidatesOf, Answer.andThen_of_ok hdeclared, Answer.result_map,
      ih hregistered hlater, ← hindex]
    rfl

/-- Functions with known types are candidates with `answers` for their types if only such are
known. -/
theorem isCandidate_of_knows {answers : String → TypeId → Prop} {memory : Memory β}
    (hmemory : memory.TypesFrom registry answers)
    (hcallees : ∀ callee ∈ callees, registry.Registered callee) {candidates : List Candidate}
    (h : List.Forall₂ memory.Knows callees candidates) :
    List.Forall₂ (Callee.IsCandidate answers) callees candidates := by
  have hboth := (List.forall₂_and_left _ _).2 ⟨hcallees, h⟩
  refine hboth.imp ?_
  rintro callee candidate ⟨hcallee, hindex, hknown⟩
  obtain ⟨other, hother, htyped⟩ := hmemory _ _ hknown
  obtain rfl := Option.some.inj (hcallee.symm.trans hother)
  exact ⟨hindex, htyped⟩

end Candidates

end Callsite
