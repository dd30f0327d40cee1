import Callsite.Proofs.Binding.CallTyping

/-!
# How binding fails

Binding a call takes several questions in a row, each of which has failures of its own. Only six
kinds of them can come out (`Registry.BindFailure`): a function or a type is unknown, no overload or
two of them take the operands, a factory does not support them, or the context does not fit. All but
the first and the last come from looking for the function that is reached and from dispatching it
(`Registry.OperandFailure`). The tables of a registry agree with each other, so that a template or a
factory that a function names is found, and each operand of an admitted call stands for an argument.
-/

namespace Callsite

variable {β : Type}

/-- The failures that finding the function of a call and dispatching it can have. -/
inductive Registry.OperandFailure (registry : Registry β) (types : TypeService)
    (runtime : List TypeId) : ResolveError → Prop
  | unknownType (failure : UnknownType) :
    OperandFailure registry types runtime (.unknownType failure)
  | noMatch (target : String) :
    OperandFailure registry types runtime (.noMatch target (types.describe runtime))
  | ambiguous (target : String) (twins : List FunctionIndex) :
    OperandFailure registry types runtime
      (.ambiguous target (types.describe runtime) (registry.namesOf twins))
  | unsupported {id : FactoryId} {entry : FactoryEntry β}
    (hentry : registry.factory? id = some entry) :
    OperandFailure registry types runtime
      (.unsupported entry.factory.name (types.describe runtime))

/-- The failures that binding a call of a function can have. -/
inductive Registry.BindFailure (registry : Registry β) (types : TypeService)
    (function : FunctionIndex) (runtime : List TypeId) (context : TypeId) : ResolveError → Prop
  | unknownFunction (hnone : registry.function? function = none) :
    BindFailure registry types function runtime context (.unknownFunction function)
  | unknownType (failure : UnknownType) :
    BindFailure registry types function runtime context (.unknownType failure)
  | noMatch (target : String) :
    BindFailure registry types function runtime context
      (.noMatch target (types.describe runtime))
  | ambiguous (target : String) (twins : List FunctionIndex) :
    BindFailure registry types function runtime context
      (.ambiguous target (types.describe runtime) (registry.namesOf twins))
  | unsupported {id : FactoryId} {entry : FactoryEntry β}
    (hentry : registry.factory? id = some entry) :
    BindFailure registry types function runtime context
      (.unsupported entry.factory.name (types.describe runtime))
  | contextMismatch {reached : Callee β} (hreached : registry.Registered reached)
    (hcontext : registry.supportsContext types reached context = false) :
    BindFailure registry types function runtime context
      (registry.contextMismatch types reached context)

namespace Registry

variable {registry : Registry β} {types : TypeService} {memory : Memory β}
  {function : FunctionIndex} {runtime : List TypeId} {context : TypeId} {failure : ResolveError}

/-- Finding a function and dispatching it do not fail for a context. -/
theorem OperandFailure.ne_contextMismatch (h : registry.OperandFailure types runtime failure)
    (name needed given : String) : failure ≠ .contextMismatch name needed given := by
  rintro rfl
  cases h

/-- What finding a function and dispatching it fail with, binding a call fails with. -/
theorem OperandFailure.bindFailure (h : registry.OperandFailure types runtime failure) :
    registry.BindFailure types function runtime context failure := by
  cases h with
  | unknownType failure => exact .unknownType failure
  | noMatch target => exact .noMatch target
  | ambiguous target twins => exact .ambiguous target twins
  | unsupported hentry => exact .unsupported hentry

/-- Making candidates only fails with an unknown type; a selection among them fails if none takes
the operands or two are equally good. -/
theorem operandFailure_of_selectOverload {template : Template}
    (h : (registry.selectOverload types template runtime memory).result = .error failure) :
    registry.OperandFailure types runtime failure := by
  rw [selectOverload] at h
  rcases Answer.result_andThen_eq_error.1 h with hfirst | ⟨candidates, _, hselect⟩
  · obtain ⟨unknown, _, rfl⟩ := Answer.result_mapError_eq_error.1 hfirst
    exact .unknownType unknown
  · split at hselect
    · exact absurd hselect (by simp [Answer.ok])
    · obtain rfl := Except.error.inj hselect
      exact .noMatch template.name
    · rename_i twins _
      obtain rfl := Except.error.inj hselect
      exact .ambiguous template.name twins

/-- Finding the function that a call reaches fails as selecting an overload does, for its template
and the winner are found. -/
theorem operandFailure_of_target (h : registry.WellFormed)
    (hwinners : memory.WinnersFrom registry) {callee : Callee β}
    (hfailure : (registry.target types callee runtime memory).result = .error failure) :
    registry.OperandFailure types runtime failure := by
  cases hfamily : registry.family? callee with
  | none =>
    rw [target_of_family?_none hfamily] at hfailure
    exact absurd hfailure (by simp [Answer.ok])
  | some template =>
    have htemplate := template?_of_family? h hfamily
    rw [target, hfamily] at hfailure
    rcases Answer.result_andThen_eq_error.1 hfailure with hresolve | ⟨winner, hwinner, hreached⟩
    · cases hknown : memory.winner? template.id runtime with
      | some winner =>
        rw [resolveTemplate_of_known htemplate hknown] at hresolve
        exact absurd hresolve (by simp [Answer.ok])
      | none =>
        rw [resolveTemplate_of_unknown htemplate hknown, Answer.result_andThen_ok] at hresolve
        exact operandFailure_of_selectOverload hresolve
    · -- the winner is a member, and members are functions
      have hmember := mem_members_of_resolveTemplate h hwinners htemplate hwinner
      obtain ⟨reached, hfound, _⟩ := (h.mem_members_iff htemplate winner).1 hmember
      rw [hfound] at hreached
      exact absurd hreached (by simp [Answer.ok])

/-- Dispatching a function fails for its operands or the types of its arguments, for its factory is
found. -/
theorem operandFailure_of_dispatch (h : registry.WellFormed) {callee : Callee β}
    (hcallee : registry.Registered callee)
    (hfailure : (registry.dispatch types callee runtime memory).result = .error failure) :
    registry.OperandFailure types runtime failure := by
  by_cases hfactory : ∃ id, callee.owner = .factory id
  · obtain ⟨id, howner⟩ := hfactory
    have hknown := h.owner_known hcallee
    rw [howner] at hknown
    have hentry : registry.factory? id = some _ := List.getElem?_eq_getElem hknown
    rw [dispatch, howner] at hfailure
    dsimp only at hfailure
    rw [resolveFactory, hentry] at hfailure
    dsimp only at hfailure
    split at hfailure
    · exact absurd hfailure (by simp [Answer.ok])
    · split at hfailure
      · obtain rfl := Except.error.inj hfailure
        exact .unsupported hentry
      · exact absurd hfailure (by simp [Answer.ok])
  · rw [dispatch_eq_ownDispatch (not_exists.1 hfactory), Callee.ownDispatch] at hfailure
    rcases Answer.result_andThen_eq_error.1 hfailure with htypes | ⟨declared, _, hlayout⟩
    · obtain ⟨unknown, _, rfl⟩ := Answer.result_mapError_eq_error.1 htypes
      exact .unknownType unknown
    · split at hlayout
      · rename_i error herror
        obtain rfl : error = failure := Except.error.inj hlayout
        rw [Callee.eq_mismatch_of_layout herror]
        exact .noMatch callee.name
      · exact absurd hlayout (by simp [Answer.ok])

/-- Binding a call fails in one of six ways, wherever remembered winners are members of their
templates. -/
theorem bindFailure_of_bind (h : registry.WellFormed) (hwinners : memory.WinnersFrom registry)
    (hfailure : (registry.bind types function runtime context memory).result = .error failure) :
    registry.BindFailure types function runtime context failure := by
  rw [bind] at hfailure
  cases hcallee : registry.function? function with
  | none =>
    rw [hcallee] at hfailure
    obtain rfl := Except.error.inj hfailure
    exact .unknownFunction hcallee
  | some callee =>
    rw [hcallee] at hfailure
    rcases Answer.result_andThen_eq_error.1 hfailure with htarget | ⟨reached, hreached, hnext⟩
    · exact (operandFailure_of_target h hwinners htarget).bindFailure
    · have hregistered := registered_of_target h (h.registered hcallee) hreached
      by_cases hcontext : registry.supportsContext types reached context = true
      · rw [if_pos hcontext, Answer.result_map_eq_error] at hnext
        exact (operandFailure_of_dispatch h hregistered hnext).bindFailure
      · rw [if_neg hcontext] at hnext
        obtain rfl := Except.error.inj hnext
        exact .contextMismatch hregistered (by simpa using hcontext)

end Registry

end Callsite
