import Callsite.Proofs.Access.Direct
import Callsite.Proofs.Registry.Drafting
import Mathlib.Data.List.Basic

/-!
# Registering by direct accesses

A new member of a template is compared with the functions that the template lists, which are looked
up directly, and it joins the template that was found before. A failure to resolve argument types is
seen as a failure of any kind at first, of which only an unknown type is expected. No history of
registrations has a fault, and freezing the draft that it leaves has none
(`Direct.applyAll_eq_ok`, `Direct.freeze_eq_ok`): a template lists functions only.
-/

namespace Callsite

variable {β : Type}

namespace Direct

variable {registry : Registry β} {types : TypeService} {draft : Draft β}

/-! ## Argument types -/

/-- A failure to resolve argument types as the refusal of a registration. -/
def registrationError : ResolveError → Except Fault RegistrationError
  | .unknownType failure => .ok (.unknownType failure)
  | failure => .error (.unexpected failure)

/-- The types of a function's arguments, for a registration. -/
def argumentTypes (types : TypeService) (callee : Callee β) (memory : Memory β) :
    Except Fault (Answer (Memory β) RegistrationError (List TypeId)) :=
  let answer := (callee.argumentTypes types memory).mapError ResolveError.unknownType
  match answer.result with
  | .ok declared => .ok (.ok declared answer.state)
  | .error failure => do return .fail (← registrationError failure) answer.state

/-- Resolving argument types only fails with an unknown type. -/
theorem argumentTypes_eq_ok (callee : Callee β) (memory : Memory β) :
    argumentTypes types callee memory =
      .ok ((callee.argumentTypes types memory).mapError .unknownType) := by
  rw [argumentTypes]
  obtain ⟨result, later⟩ := callee.argumentTypes types memory
  cases result <;> rfl

/-! ## Members of a template -/

/-- Whether arguments do not have the shape of the first overload of a template, if there is one. -/
def rejectsShape (registry : Registry β) (template : Template) (arguments : List Argument) :
    Except Fault Bool :=
  match template.members.head? with
  | none => .ok false
  | some first => do
    let callee ← functionAt registry first
    return !sameShape callee.arguments arguments

/-- The first of some functions whose argument types are `signature`. -/
def twin (registry : Registry β) (types : TypeService) (signature : List TypeId) :
    List FunctionIndex → Memory β →
      Except Fault (Answer (Memory β) RegistrationError (Option (Callee β)))
  | [], memory => .ok (.ok none memory)
  | member :: rest, memory => do
    let callee ← functionAt registry member
    andThen (← argumentTypes types callee memory) fun declared memory =>
      if declared = signature then .ok (.ok (some callee) memory)
      else twin registry types signature rest memory

/-- Enters a function, which joins the overloads of a template. -/
def enterMember (declaration : Declaration β) (owner : Owner) (id : TemplateId)
    (draft : Draft β) : Except Fault (Answer (Draft β) RegistrationError FunctionIndex) :=
  match draft.registry.accept declaration owner (some id) with
  | .error error => .ok (.fail error draft)
  | .ok callee => do
    let template ← templateAt draft.registry id
    return .ok callee.index { draft with
      registry := { draft.registry with
        functions := draft.registry.functions ++ [callee]
        names := draft.registry.names ++ [(callee.name, callee.index)]
        templates := draft.registry.templates.set id.number
          (template.add callee.index callee.arguments) } }

/-- Registers an overload of the template with a key. -/
def registerMember (types : TypeService) (key : TemplateId) (owner : Owner)
    (declaration : Declaration β) (draft : Draft β) :
    Except Fault (Answer (Draft β) RegistrationError FunctionIndex) :=
  match draft.registry.ownerError? owner with
  | some error => .ok (.fail error draft)
  | none =>
    match draft.registry.template? key with
    | none => .ok (.fail (.unknownTemplate key) draft)
    | some template => do
      if ← rejectsShape draft.registry template declaration.arguments then
        return .fail
          (.shapeMismatch template.name declaration.name (template.shapeText?.getD "")) draft
      else
        andThen (draft.learning .unknownType
            (draft.memory.resolveArguments types declaration.name declaration.arguments))
          fun signature draft => do
            let existing ← twin draft.registry types signature template.members draft.memory
            andThen (draft.learning id existing) fun
              | some existing, draft => .ok (.fail
                  (.duplicateSignature template.name (types.describe signature) existing.name)
                  draft)
              | none, draft => enterMember declaration owner key draft

/-- Members that are functions are rejected for their shape, or not, without a fault. -/
theorem rejectsShape_eq_ok {template : Template}
    (hmembers : ∀ member ∈ template.members, ∃ callee, registry.function? member = some callee)
    (arguments : List Argument) :
    rejectsShape registry template arguments = .ok (registry.rejectsShape template arguments) := by
  rw [rejectsShape, Registry.rejectsShape]
  cases hfirst : template.members.head? with
  | none => rfl
  | some first =>
    obtain ⟨callee, hcallee⟩ := hmembers first (List.mem_of_head? hfirst)
    have haccess : functionAt registry first = .ok callee := entry_eq_ok_iff.2 hcallee
    show (functionAt registry first >>= _) = _
    rw [haccess, Option.bind_some, hcallee]
    rfl

/-- Members that are functions are compared with a signature without a fault. -/
theorem twin_eq_ok (signature : List TypeId) {members : List FunctionIndex}
    (hmembers : ∀ member ∈ members, ∃ callee, registry.function? member = some callee)
    (memory : Memory β) :
    twin registry types signature members memory =
      .ok ((Draft.twin types signature (members.filterMap registry.function?)
        memory).mapError .unknownType) := by
  induction members generalizing memory with
  | nil => rfl
  | cons member rest ih =>
    obtain ⟨⟨callee, hcallee⟩, hrest⟩ := List.forall_mem_cons.1 hmembers
    have haccess : functionAt registry member = .ok callee := entry_eq_ok_iff.2 hcallee
    rw [twin, haccess, ok_bind, argumentTypes_eq_ok, ok_bind, List.filterMap_cons_some hcallee,
      Draft.twin, Answer.mapError_andThen]
    refine andThen_eq_ok fun declared _ => ?_
    by_cases htwin : declared = signature
    · rw [if_pos htwin, if_pos htwin]
      rfl
    · rw [if_neg htwin, if_neg htwin]
      exact ih hrest _

/-- An error that was seen as a refusal before is one. -/
theorem learning_mapError {ε α : Type} (f : ε → RegistrationError)
    (answer : Answer (Memory β) ε α) :
    draft.learning id (answer.mapError f) = draft.learning f answer := by
  obtain ⟨result, memory⟩ := answer
  cases result <;> rfl

/-- A function joins a template that there is without a fault. -/
theorem enterMember_eq_ok (declaration : Declaration β) {owner : Owner} {id : TemplateId}
    {template : Template} (howner : draft.registry.ownerError? owner = none)
    (htemplate : draft.registry.template? id = some template) :
    enterMember declaration owner id draft = .ok (draft.enter declaration owner (some id)) := by
  rw [enterMember, Draft.enter]
  cases haccept : draft.registry.accept declaration owner (some id) with
  | error error => rfl
  | ok callee =>
    have hlink := (Registry.acceptable_of_accept howner haccept).2.2.2
    have haccess : templateAt draft.registry id = .ok template := entry_eq_ok_iff.2 htemplate
    have hplace : draft.registry.templates[id.number]? = some template := htemplate
    dsimp only
    rw [haccess, ok_bind, Registry.enter, hlink]
    dsimp only
    rw [List.modify_eq_set_getElem?, hplace]
    rfl

/-- An overload is registered without a fault if templates list functions only. -/
theorem registerMember_eq_ok (h : draft.registry.WellFormed) (id : TemplateId) (owner : Owner)
    (declaration : Declaration β) :
    registerMember types id owner declaration draft =
      .ok (draft.registerMember types id owner declaration) := by
  rw [registerMember, Draft.registerMember]
  cases howner : draft.registry.ownerError? owner with
  | some error => rfl
  | none =>
    cases htemplate : draft.registry.template? id with
    | none => rfl
    | some template =>
      have hmembers := h.exists_function?_of_mem_members htemplate
      dsimp only
      rw [rejectsShape_eq_ok hmembers, ok_bind]
      by_cases hrejects : draft.registry.rejectsShape template declaration.arguments = true
      · rw [if_pos hrejects, if_pos hrejects]
        rfl
      · rw [if_neg hrejects, if_neg hrejects]
        refine andThen_eq_ok fun signature _ => ?_
        -- what was learnt on the way leaves the tables as they are
        show (twin draft.registry types signature template.members _ >>= _) = _
        rw [twin_eq_ok signature hmembers, ok_bind, learning_mapError]
        refine andThen_eq_ok fun existing _ => ?_
        cases existing with
        | some existing => rfl
        | none => exact enterMember_eq_ok declaration howner htemplate

/-! ## Histories of registrations -/

/-- What a draft answers to a registration. Only a new overload needs entries that it takes for
granted. -/
def apply (types : TypeService) (draft : Draft β) :
    Registration β → Except Fault (Answer (Draft β) RegistrationError Registered)
  | .member id owner declaration => do
    return (← registerMember types id owner declaration draft).map .function
  | .function owner declaration => .ok (draft.apply types (.function owner declaration))
  | .struct declaration => .ok (draft.apply types (.struct declaration))
  | .factory factory => .ok (draft.apply types (.factory factory))
  | .template name => .ok (draft.apply types (.template name))

/-- The draft after a history of registrations, refused ones included. -/
def applyAll (types : TypeService) : Draft β → List (Registration β) → Except Fault (Draft β)
  | draft, [] => .ok draft
  | draft, registration :: rest => do
    applyAll types (← apply types draft registration).state rest

/-- A registration has no fault if templates list functions only. -/
theorem apply_eq_ok (h : draft.registry.WellFormed) (registration : Registration β) :
    apply types draft registration = .ok (draft.apply types registration) := by
  cases registration with
  | member id owner declaration =>
    rw [apply, registerMember_eq_ok h, ok_bind]
    rfl
  | function owner declaration => rfl
  | struct declaration => rfl
  | factory factory => rfl
  | template name => rfl

/-- No history of registrations has a fault. -/
theorem applyAll_eq_ok (h : draft.registry.WellFormed) (registrations : List (Registration β)) :
    applyAll types draft registrations = .ok (draft.applyAll types registrations) := by
  induction registrations generalizing draft with
  | nil => rfl
  | cons registration rest ih =>
    have hadvances : draft.Advances types (draft.apply types registration).state :=
      Draft.apply_advances h registration
    rw [applyAll, apply_eq_ok h, ok_bind, ih (h.grows hadvances.grows)]
    rfl

/-! ## Freezing -/

/-- Resolves the argument types of functions, in order up to the first failure. -/
def resolveAll (types : TypeService) :
    List (Callee β) → Memory β → Except Fault (Answer (Memory β) RegistrationError Unit)
  | [], memory => .ok (.ok () memory)
  | callee :: rest, memory => do
    andThen (← argumentTypes types callee memory) fun _ memory => resolveAll types rest memory

/-- Closes the draft. -/
def freeze (types : TypeService) (draft : Draft β) :
    Except Fault (Answer (Memory β) RegistrationError (Registry β)) :=
  if draft.registry.settings.eagerTypes then do
    return (← resolveAll types draft.registry.functions draft.memory).map fun () => draft.registry
  else .ok (.ok draft.registry draft.memory)

/-- The argument types of functions are resolved without a fault. -/
theorem resolveAll_eq_ok (callees : List (Callee β)) (memory : Memory β) :
    resolveAll types callees memory =
      .ok ((Draft.resolveAll types callees memory).mapError .unknownType) := by
  induction callees generalizing memory with
  | nil => rfl
  | cons callee rest ih =>
    rw [resolveAll, argumentTypes_eq_ok, ok_bind, Draft.resolveAll, Answer.mapError_andThen]
    exact andThen_eq_ok fun _ _ => ih _

/-- Freezing a draft has no fault, whatever the draft holds. -/
theorem freeze_eq_ok (draft : Draft β) : freeze types draft = .ok (draft.freeze types) := by
  rw [freeze, Draft.freeze]
  by_cases heager : draft.registry.settings.eagerTypes = true
  · rw [if_pos heager, if_pos heager, resolveAll_eq_ok, ok_bind]
    rfl
  · rw [if_neg heager, if_neg heager]

end Direct

end Callsite
