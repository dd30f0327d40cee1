import Callsite.Proofs.Memory.Permanence

/-!
# Requests of factories

A question makes a request of a factory if it asks for a dispatch by the factory's key, or if it is
a call that reaches a function of the factory in a context that the function can run in
(`Registry.request?`). A request is served from the memory if it can be; otherwise the factory is
asked, and what it supports is remembered (`Registry.Serves`). No other question touches a factory
(`Registry.answerBy_asksNone`).
-/

namespace Callsite

variable {β : Type} {scoring : Scoring}

/-! ## Requests -/

/-- The dispatch that a reply hands out. -/
def Reply.dispatch? : Reply β → Option (Dispatch β)
  | .dispatch made => some made
  | .binding bound => some bound.dispatch
  | .absent | .function _ | .types _ | .verdict _ | .name _ | .argument _ => none

/-- A request of a factory: the operand types it was for, and what was answered. -/
structure Request (β : Type) where
  factory : FactoryId
  runtime : List TypeId
  answer : Except ResolveError (Reply β)
deriving DecidableEq

namespace Request

/-- The dispatch that was handed out, if the factory supports the operand types. -/
def dispatch? (request : Request β) : Option (Dispatch β) :=
  request.answer.toOption.bind Reply.dispatch?

/-- Whether the factory does not support the operand types. -/
def isUnsupported (request : Request β) : Bool :=
  match request.answer with
  | .error (.unsupported _ _) => true
  | _ => false

variable {request : Request β}

/-- A request that was answered with a dispatch is not unsupported. -/
theorem isUnsupported_of_dispatch? {dispatch : Dispatch β} (h : request.dispatch? = some dispatch) :
    request.isUnsupported = false := by
  rw [dispatch?] at h
  rw [isUnsupported]
  split
  · rename_i herror
    rw [herror] at h
    exact absurd h (by simp [Except.toOption])
  · rfl

/-- A request that is unsupported was answered with no dispatch. -/
theorem dispatch?_of_error {error : ResolveError} (h : request.answer = .error error) :
    request.dispatch? = none := by
  rw [dispatch?, h]
  rfl

end Request

namespace Registry

/-- The factory that a question makes a request of, with the operand types. -/
def reaches? (registry : Registry β) (types : TypeService) (query : Query) (memory : Memory β) :
    Option (FactoryId × List TypeId) :=
  match query with
  | .resolveFactory id runtime => (registry.factory? id).map fun _ => (id, runtime)
  | .bind function runtime context =>
    (registry.function? function).bind fun callee =>
      match (registry.target types callee runtime memory).result with
      | .error _ => none
      | .ok reached =>
        if registry.supportsContext types reached context then
          match reached.owner with
          | .factory id => some (id, runtime)
          | .nobody | .struct _ => none
        else none
  | .function _ | .find _ | .argumentTypes _ | .resolveTemplate _ _ | .supportsContext _ _
  | .argumentName _ _ _ | .argument _ _ _ => none

/-- The request that a question makes, if it makes one. -/
def request? (scoring : Scoring) (registry : Registry β) (types : TypeService) (query : Query)
    (memory : Memory β) : Option (Request β) :=
  (registry.reaches? types query memory).map fun (id, runtime) =>
    ⟨id, runtime, (registry.answerBy scoring types query memory).result⟩

/-- The requests that a history of questions makes, in order. -/
def requests (scoring : Scoring) (registry : Registry β) :
    List (TypeService × Query) → Memory β → List (Request β)
  | [], _ => []
  | (types, query) :: rest, memory =>
    (registry.request? scoring types query memory).toList ++
      registry.requests scoring rest (registry.answerBy scoring types query memory).state

end Registry

/-! ## Questions that make no request -/

/-- Whether no factory was asked since an earlier memory, and no dispatch of one was learnt. Other
dispatches may have been made. -/
structure Memory.AsksNone (memory later : Memory β) : Prop where
  dispatches_eq : later.dispatches = memory.dispatches
  questions_eq : later.questions = memory.questions
  made_le : memory.made ≤ later.made

namespace Memory.AsksNone

variable {memory later last : Memory β}

/-- No factory was asked since now. -/
theorem refl (memory : Memory β) : memory.AsksNone memory :=
  ⟨rfl, rfl, Nat.le_refl _⟩

/-- No factory was asked since a memory if none was asked until a later one and since then. -/
theorem trans (h : memory.AsksNone later) (hlater : later.AsksNone last) : memory.AsksNone last :=
  ⟨hlater.dispatches_eq.trans h.dispatches_eq, hlater.questions_eq.trans h.questions_eq,
    Nat.le_trans h.made_le hlater.made_le⟩

/-- Learning about argument types asks no factory. -/
theorem of_sameBesideTypes (h : memory.SameBesideTypes later) : memory.AsksNone later :=
  ⟨h.dispatches_eq, h.questions_eq, Nat.le_of_eq h.made_eq.symm⟩

/-- The same dispatches are remembered. -/
theorem dispatch?_eq (h : memory.AsksNone later) (id : FactoryId) (runtime : List TypeId) :
    later.dispatch? id runtime = memory.dispatch? id runtime := by
  rw [dispatch?, dispatch?, h.dispatches_eq]

/-- Every factory was asked as often. -/
theorem asked_eq (h : memory.AsksNone later) (id : FactoryId) :
    later.asked id = memory.asked id := by
  rw [asked, asked, h.questions_eq]

/-- As many dispatches are remembered for every factory. -/
theorem remembered_eq (h : memory.AsksNone later) (id : FactoryId) :
    later.remembered id = memory.remembered id := by
  rw [remembered, remembered, h.dispatches_eq]

end Memory.AsksNone

namespace Registry

variable {registry : Registry β} {types : TypeService} {memory : Memory β}

/-- Asking for argument types asks no factory. -/
theorem argumentTypes_asksNone {callee : Callee β} (hcallee : registry.Registered callee) :
    memory.AsksNone (callee.argumentTypes types memory).state :=
  .of_sameBesideTypes (sameBesideTypes_of_learnsTypes (Callee.argumentTypes_learns hcallee))

/-- Resolving a template asks no factory. -/
theorem resolveTemplate_asksNone (hregistry : registry.WellFormed) (id : TemplateId)
    (runtime : List TypeId) :
    memory.AsksNone (registry.resolveTemplate types id runtime memory).state := by
  cases htemplate : registry.template? id with
  | none =>
    rw [resolveTemplate_of_template?_none htemplate]
    exact .refl memory
  | some template =>
    cases hknown : memory.winner? id runtime with
    | some winner =>
      rw [resolveTemplate_of_known htemplate hknown]
      exact .refl memory
    | none =>
      have hselected : memory.AsksNone
          (registry.selectOverload types template runtime memory).state := by
        rw [state_selectOverload]
        exact .of_sameBesideTypes (sameBesideTypes_of_learnsTypes
          (candidatesOf_learns (hregistry.registered_of_mem_membersOf template)))
      rw [resolveTemplate_of_unknown htemplate hknown]
      refine Answer.state_andThen hselected fun winner _ => ?_
      exact ⟨hselected.dispatches_eq, hselected.questions_eq, hselected.made_le⟩

/-- Finding the function that a call reaches asks no factory. -/
theorem target_asksNone (hregistry : registry.WellFormed) (callee : Callee β)
    (runtime : List TypeId) :
    memory.AsksNone (registry.target types callee runtime memory).state := by
  rw [target]
  cases registry.family? callee with
  | none => exact .refl memory
  | some template =>
    have hresolved : memory.AsksNone
        (registry.resolveTemplate types template.id runtime memory).state :=
      resolveTemplate_asksNone hregistry template.id runtime
    refine Answer.state_andThen hresolved fun winner _ => ?_
    cases registry.function? winner with
    | none => exact hresolved
    | some reached => exact hresolved

/-- A dispatch of a function's own code asks no factory. -/
theorem ownDispatch_asksNone {callee : Callee β} (hcallee : registry.Registered callee)
    (runtime : List TypeId) : memory.AsksNone (callee.ownDispatch types runtime memory).state := by
  have htypes : memory.AsksNone (callee.argumentTypes types memory).state :=
    argumentTypes_asksNone hcallee
  rw [Callee.ownDispatch]
  refine Answer.state_andThen htypes fun declared _ => ?_
  cases callee.layout types declared runtime with
  | error error => exact htypes
  | ok layout =>
    exact ⟨htypes.dispatches_eq, htypes.questions_eq, Nat.le_succ_of_le htypes.made_le⟩

/-- A question about one function asks no factory if what it asks of the function asks none. -/
theorem about_asksNone (hregistry : registry.WellFormed) {function : FunctionIndex}
    {ask : Callee β → Answer (Memory β) ResolveError (Reply β)}
    (hask : ∀ callee, registry.Registered callee → memory.AsksNone (ask callee).state) :
    memory.AsksNone (registry.about function memory ask).state := by
  rw [about]
  cases hcallee : registry.function? function with
  | none => exact .refl memory
  | some callee => exact hask callee (hregistry.registered hcallee)

/-- A call that makes no request asks no factory, even if it is bound. -/
theorem bind_asksNone (hregistry : registry.WellFormed) {function : FunctionIndex}
    {runtime : List TypeId} {context : TypeId}
    (h : registry.reaches? types (.bind function runtime context) memory = none) :
    memory.AsksNone (registry.bind types function runtime context memory).state := by
  rw [bind]
  cases hcallee : registry.function? function with
  | none => exact .refl memory
  | some callee =>
    rw [reaches?, hcallee, Option.bind_some] at h
    have htarget : memory.AsksNone (registry.target types callee runtime memory).state :=
      target_asksNone hregistry callee runtime
    refine Answer.state_andThen htarget fun reached hreached => ?_
    rw [hreached] at h
    dsimp only at h
    cases hcontext : registry.supportsContext types reached context with
    | false => exact htarget
    | true =>
      have hregistered := registered_of_target hregistry (hregistry.registered hcallee) hreached
      have howner : ∀ id, reached.owner ≠ .factory id := by
        intro id hid
        rw [hcontext, if_pos rfl, hid] at h
        exact absurd h (by simp)
      rw [if_pos rfl, Answer.state_map, dispatch_eq_ownDispatch howner]
      exact htarget.trans (ownDispatch_asksNone hregistered runtime)

/-- A question that makes no request asks no factory. -/
theorem answerBy_asksNone (hregistry : registry.WellFormed) {query : Query}
    (h : registry.reaches? types query memory = none) :
    memory.AsksNone (registry.answerBy scoring types query memory).state := by
  cases query with
  | function index => exact about_asksNone hregistry fun _ _ => .refl memory
  | find name => exact .refl memory
  | argumentTypes function =>
    exact about_asksNone hregistry fun _ hcallee => argumentTypes_asksNone hcallee
  | resolveTemplate id runtime => exact resolveTemplate_asksNone hregistry id runtime
  | resolveFactory id runtime =>
    have hnone : registry.factory? id = none := Option.map_eq_none_iff.1 h
    rw [answerBy, resolveFactory, hnone]
    exact .refl memory
  | supportsContext function context => exact about_asksNone hregistry fun _ _ => .refl memory
  | argumentName function operand total => exact about_asksNone hregistry fun _ _ => .refl memory
  | argument function operand total => exact about_asksNone hregistry fun _ _ => .refl memory
  | bind function runtime context => exact bind_asksNone hregistry h

end Registry

/-! ## How a request is served -/

/-- How a request is served, and what is learnt: a dispatch that is remembered is handed out and the
factory is not asked; otherwise it is asked, and either a dispatch of its variant is made, with a
serial number of its own, and remembered, or the operand types are not supported and nothing is. -/
inductive Registry.Serves (registry : Registry β) (types : TypeService) (request : Request β)
    (memory later : Memory β) : Prop
  | known {dispatch : Dispatch β}
    (hknown : memory.dispatch? request.factory request.runtime = some dispatch)
    (hanswer : request.dispatch? = some dispatch) (hlater : memory.AsksNone later)
  | created {entry : FactoryEntry β} {dispatch : Dispatch β}
    (hentry : registry.factory? request.factory = some entry)
    (hnew : memory.dispatch? request.factory request.runtime = none)
    (hvariant : entry.factory.variant? (memory.asked request.factory) types request.runtime =
      some dispatch.toVariant)
    (hanswer : request.dispatch? = some dispatch)
    (hserial : memory.made ≤ dispatch.serial) (hmade : dispatch.serial < later.made)
    (hdispatches : later.dispatches =
      memory.dispatches ++ [((request.factory, request.runtime), dispatch)])
    (hquestions : later.questions = memory.questions ++ [request.factory])
  | refused {entry : FactoryEntry β}
    (hentry : registry.factory? request.factory = some entry)
    (hnew : memory.dispatch? request.factory request.runtime = none)
    (hvariant : entry.factory.variant? (memory.asked request.factory) types request.runtime = none)
    (hanswer : request.answer =
      .error (.unsupported entry.factory.name (types.describe request.runtime)))
    (hmade : memory.made ≤ later.made) (hdispatches : later.dispatches = memory.dispatches)
    (hquestions : later.questions = memory.questions ++ [request.factory])

namespace Registry

variable {registry : Registry β} {types : TypeService} {memory : Memory β}

/-- A call makes a request of a factory if it reaches a function of the factory that can run in the
context. -/
theorem reaches?_bind_eq_some_iff {function : FunctionIndex} {operands runtime : List TypeId}
    {context : TypeId} {id : FactoryId} :
    registry.reaches? types (.bind function operands context) memory = some (id, runtime) ↔
      operands = runtime ∧ ∃ callee reached, registry.function? function = some callee ∧
        (registry.target types callee operands memory).result = .ok reached ∧
          registry.supportsContext types reached context = true ∧ reached.owner = .factory id := by
  rw [reaches?, Option.bind_eq_some_iff]
  constructor
  · rintro ⟨callee, hcallee, hrest⟩
    split at hrest
    · exact absurd hrest (by simp)
    · rename_i reached hreached
      split at hrest
      · rename_i hcontext
        split at hrest
        · rename_i owner howner
          obtain ⟨rfl, rfl⟩ := Prod.mk.inj (Option.some.inj hrest)
          exact ⟨rfl, callee, reached, hcallee, hreached, hcontext, howner⟩
        · exact absurd hrest (by simp)
        · exact absurd hrest (by simp)
      · exact absurd hrest (by simp)
  · rintro ⟨rfl, callee, reached, hcallee, hreached, hcontext, howner⟩
    refine ⟨callee, hcallee, ?_⟩
    rw [hreached]
    dsimp only
    rw [if_pos hcontext, howner]

/-- A question that makes a request has the answer of the factory, with the dispatch in a reply. No
factory was asked on the way to it. -/
theorem exists_of_reaches? (hregistry : registry.WellFormed) (scoring : Scoring) {query : Query}
    {id : FactoryId} {runtime : List TypeId}
    (h : registry.reaches? types query memory = some (id, runtime)) :
    ∃ (entry : FactoryEntry β) (middle : Memory β) (reply : Dispatch β → Reply β),
      registry.factory? id = some entry ∧ memory.AsksNone middle ∧
        (∀ dispatch, (reply dispatch).dispatch? = some dispatch) ∧
          registry.answerBy scoring types query memory =
            (registry.resolveFactory types id runtime middle).map reply := by
  cases query with
  | resolveFactory asked operands =>
    obtain ⟨entry, hentry, heq⟩ := Option.map_eq_some_iff.1 h
    obtain ⟨rfl, rfl⟩ := Prod.mk.inj heq
    exact ⟨entry, memory, .dispatch, hentry, .refl memory, fun _ => rfl, rfl⟩
  | bind function operands context =>
    obtain ⟨rfl, callee, reached, hcallee, hreached, hcontext, howner⟩ :=
      reaches?_bind_eq_some_iff.1 h
    have hregistered := registered_of_target hregistry (hregistry.registered hcallee) hreached
    have hknown := hregistry.owner_known hregistered
    rw [howner] at hknown
    refine ⟨_, (registry.target types callee operands memory).state,
      fun dispatch => .binding ⟨reached.index, dispatch⟩, List.getElem?_eq_getElem hknown,
      target_asksNone hregistry callee operands, fun _ => rfl, ?_⟩
    rw [answerBy, bind_of_target hcallee hreached hcontext, dispatch, howner]
    exact Answer.map_map _ _ _
  | _ => exact absurd h (by simp [reaches?])

/-- Every request is served in one of the three ways. -/
theorem serves_of_request? (hregistry : registry.WellFormed) {query : Query} {request : Request β}
    (h : registry.request? scoring types query memory = some request) :
    registry.Serves types request memory (registry.answerBy scoring types query memory).state := by
  obtain ⟨⟨id, runtime⟩, hreaches, rfl⟩ := Option.map_eq_some_iff.1 h
  obtain ⟨entry, middle, reply, hentry, hmiddle, hreply, hanswer⟩ :=
    exists_of_reaches? hregistry scoring hreaches
  have hdispatch? := hmiddle.dispatch?_eq id runtime
  have hasked := hmiddle.asked_eq id
  rw [hanswer]
  cases hknown : memory.dispatch? id runtime with
  | some dispatch =>
    have hserved : registry.resolveFactory types id runtime middle = .ok dispatch middle :=
      resolveFactory_of_known hentry (hdispatch?.trans hknown)
    rw [hserved]
    exact .known hknown (hreply dispatch) hmiddle
  | none =>
    rw [resolveFactory, hentry]
    dsimp only
    rw [hdispatch?, hknown]
    dsimp only
    cases hvariant : entry.factory.variant? (middle.asked id) types runtime with
    | none =>
      rw [hasked] at hvariant
      exact .refused hentry hknown hvariant rfl hmiddle.made_le hmiddle.dispatches_eq
        (congrArg (· ++ [id]) hmiddle.questions_eq)
    | some variant =>
      rw [hasked] at hvariant
      exact .created hentry hknown hvariant (hreply _) hmiddle.made_le (Nat.lt_succ_self _)
        (congrArg (· ++ _) hmiddle.dispatches_eq) (congrArg (· ++ [id]) hmiddle.questions_eq)

end Registry

end Callsite
