import Callsite.Proofs.Memory.Coherence
import Callsite.Proofs.Memory.Parallel

/-!
# Refused registrations

A registration that is refused leaves the tables as they were. All it can change is what is known
about argument types: those of the overloads that a new one was compared with may have become known
(`Draft.apply_refused`).

If the answers on texts never change, such knowledge makes no difference to a later registration
(`Draft.apply_upToTypes`) or question. A history of registrations can therefore be cut down to those
that are accepted (`Draft.accepted`): the tables, the outcomes and all later answers stay the same.
-/

namespace Callsite

variable {β : Type}

/-! ## What a refused registration learns -/

/-- Whether all that was learnt since an earlier memory are argument types of given functions, none
of which was known before. The number of texts resolved may have grown. -/
structure Memory.FillsTypes (types : TypeService) (callees : List (Callee β))
    (memory later : Memory β) : Prop extends memory.SameBesideTypes later where
  resolutions_le : memory.resolutions ≤ later.resolutions
  types?_cases : ∀ function, later.types? function = memory.types? function ∨
    memory.types? function = none ∧ ∃ callee ∈ callees, callee.index = function ∧
      ∃ earlier ids, later.types? function = some ids ∧
        (Callsite.resolveArguments types callee.name callee.arguments earlier).result = .ok ids

namespace Memory.FillsTypes

variable {types : TypeService} {callees others : List (Callee β)} {memory later last : Memory β}

/-- Counting texts learns no types. -/
theorem countTo {n : Nat} (hn : memory.resolutions ≤ n) :
    memory.FillsTypes types callees (memory.countTo n) :=
  ⟨⟨rfl, rfl, rfl, rfl⟩, hn, fun _ => .inl rfl⟩

/-- Nothing was learnt since now. -/
theorem refl (memory : Memory β) : memory.FillsTypes types callees memory :=
  countTo (Nat.le_refl _)

/-- What was learnt about some functions was learnt about more functions. -/
theorem mono (h : memory.FillsTypes types callees later) (hsub : callees ⊆ others) :
    memory.FillsTypes types others later := by
  refine ⟨h.toSameBesideTypes, h.resolutions_le, fun function => ?_⟩
  rcases h.types?_cases function with hsame | ⟨hnew, callee, hcallee, hfound⟩
  · exact .inl hsame
  · exact .inr ⟨hnew, callee, hsub hcallee, hfound⟩

/-- Learning about some functions may take several steps. -/
theorem trans (h : memory.FillsTypes types callees later)
    (hlater : later.FillsTypes types callees last) : memory.FillsTypes types callees last := by
  refine ⟨h.toSameBesideTypes.trans hlater.toSameBesideTypes,
    Nat.le_trans h.resolutions_le hlater.resolutions_le, fun function => ?_⟩
  rcases hlater.types?_cases function with hsame | ⟨hnew, hfound⟩
  · rw [hsame]
    exact h.types?_cases function
  · rcases h.types?_cases function with hsame | ⟨_, _, _, _, _, _, hknown, _⟩
    · exact .inr ⟨hsame.symm.trans hnew, hfound⟩
    -- types that are known by now cannot have been learnt later
    · exact absurd (hknown.symm.trans hnew) (by simp)

end Memory.FillsTypes

section Learning

variable {types : TypeService} {memory : Memory β}

/-- Asking for the types of a function learns about that function only. -/
theorem Callee.argumentTypes_fills (callee : Callee β) :
    memory.FillsTypes types [callee] (callee.argumentTypes types memory).state := by
  cases hknown : memory.types? callee.index with
  | some ids =>
    rw [argumentTypes_of_known hknown]
    exact .refl memory
  | none =>
    have hresolved : memory.FillsTypes types [callee]
        (memory.resolveArguments types callee.name callee.arguments).state :=
      .countTo (resolveArguments_le _ _ _ _)
    rw [argumentTypes_of_unknown hknown]
    refine Answer.state_andThen hresolved fun found hfound => ?_
    refine ⟨⟨rfl, rfl, rfl, rfl⟩, hresolved.resolutions_le, fun function => ?_⟩
    by_cases hfunction : function = callee.index
    · subst hfunction
      refine .inr ⟨hknown, callee, List.mem_singleton_self callee, rfl, memory.resolutions, found,
        ?_, hfound⟩
      rw [Answer.ok, Memory.types?_learnTypes, if_pos rfl, Memory.resolveArguments,
        Memory.types?_countTo, hknown]
      rfl
    · rw [Answer.ok, Memory.types?_learnTypes, if_neg hfunction, Option.or_none]
      exact .inl rfl

/-- Looking for a function with given types learns about the functions that are looked through. -/
theorem Draft.twin_fills (signature : List TypeId) (callees : List (Callee β)) :
    memory.FillsTypes types callees (Draft.twin types signature callees memory).state := by
  induction callees generalizing memory with
  | nil => exact .refl memory
  | cons callee rest ih =>
    have hfirst : memory.FillsTypes types (callee :: rest)
        (callee.argumentTypes types memory).state :=
      (Callee.argumentTypes_fills callee).mono (by simp)
    rw [Draft.twin]
    refine Answer.state_andThen hfirst fun declared _ => ?_
    split
    · exact hfirst
    · exact hfirst.trans (ih.mono (List.subset_cons_self callee rest))

end Learning

/-! ## What a refused registration leaves -/

/-- The overloads that a registration is compared with: those of the template that it is for. -/
def Registry.addressed (registry : Registry β) : Registration β → List (Callee β)
  | .member id _ _ => ((registry.template? id).map registry.membersOf).getD []
  | .function _ _ | .struct _ | .factory _ | .template _ => []

namespace Draft

/-- Whether a draft has the tables of an earlier one, and only learnt the argument types of given
functions. -/
structure OnlyLearnt (types : TypeService) (callees : List (Callee β)) (draft later : Draft β) :
    Prop where
  registry_eq : later.registry = draft.registry
  memory : draft.memory.FillsTypes types callees later.memory

variable {types : TypeService} {draft : Draft β} {callees : List (Callee β)}
  {error : RegistrationError}

/-- A draft that was not touched learnt nothing. -/
theorem onlyLearnt_refl (draft : Draft β) : draft.OnlyLearnt types callees draft :=
  ⟨rfl, .refl draft.memory⟩

/-- Resolving a context type learns no argument types. -/
theorem resolveContext_onlyLearnt (owner : String) (text : Option String) :
    draft.OnlyLearnt types callees (draft.resolveContext types owner text).state := by
  cases text with
  | none => exact onlyLearnt_refl draft
  | some text =>
    rw [resolveContext]
    split
    · exact ⟨rfl, .countTo (Nat.le_succ _)⟩
    · exact ⟨rfl, .countTo (Nat.le_succ _)⟩

/-- A declaration that is refused is not entered. -/
theorem enter_refused {declaration : Declaration β} {owner : Owner} {template : Option TemplateId}
    (h : (draft.enter declaration owner template).result = .error error) :
    (draft.enter declaration owner template).state = draft := by
  rw [enter] at h ⊢
  split at h
  · rfl
  · exact absurd h (by simp [Answer.ok])

/-- A function that is refused leaves the draft as it was. -/
theorem register_refused {owner : Owner} {declaration : Declaration β}
    (h : (draft.register owner declaration).result = .error error) :
    (draft.register owner declaration).state = draft := by
  rw [register] at h ⊢
  split at h
  · rfl
  · exact enter_refused h

/-- A struct that is refused leaves the tables as they were. -/
theorem registerStruct_refused {declaration : StructDeclaration}
    (h : (draft.registerStruct types declaration).result = .error error) :
    draft.OnlyLearnt types callees (draft.registerStruct types declaration).state := by
  rw [registerStruct] at h ⊢
  refine Answer.state_andThen_of_error h (resolveContext_onlyLearnt _ _) fun context _ hrest => ?_
  exact absurd hrest (by simp [Answer.ok])

/-- A factory that is refused leaves the tables as they were. -/
theorem registerFactory_refused {factory : Factory β}
    (h : (draft.registerFactory types factory).result = .error error) :
    draft.OnlyLearnt types callees (draft.registerFactory types factory).state := by
  rw [registerFactory] at h ⊢
  refine Answer.state_andThen_of_error h (resolveContext_onlyLearnt _ _) fun context _ hrest => ?_
  exact absurd hrest (by simp [Answer.ok])

/-- A member that a template refuses leaves the tables as they were, whichever check it failed. -/
theorem registerMember_refused {id : TemplateId} {owner : Owner} {declaration : Declaration β}
    (h : (draft.registerMember types id owner declaration).result = .error error) :
    draft.OnlyLearnt types (draft.registry.addressed (.member id owner declaration))
      (draft.registerMember types id owner declaration).state := by
  rw [registerMember] at h ⊢
  split
  · exact onlyLearnt_refl draft
  · rename_i howner
    rw [howner] at h
    split
    · exact onlyLearnt_refl draft
    · rename_i template htemplate
      rw [htemplate] at h
      rw [Registry.addressed, htemplate, Option.map_some, Option.getD_some]
      split
      · exact onlyLearnt_refl draft
      · rename_i hshape
        dsimp only at h
        rw [if_neg hshape] at h
        let resolved := draft.memory.resolveArguments types declaration.name declaration.arguments
        have hresolved : draft.memory.FillsTypes types (draft.registry.membersOf template)
            resolved.state := .countTo (resolveArguments_le _ _ _ _)
        refine Answer.state_andThen_of_error h ⟨rfl, hresolved⟩ fun signature _ hrest => ?_
        have hcompared := hresolved.trans
          (twin_fills signature (draft.registry.membersOf template))
        refine Answer.state_andThen_of_error hrest ⟨rfl, hcompared⟩ fun existing _ hlast => ?_
        cases existing with
        | some existing => exact ⟨rfl, hcompared⟩
        | none =>
          -- what was learnt in the comparison is kept although the declaration is refused after it
          dsimp only at hlast ⊢
          rw [enter_refused hlast]
          exact ⟨rfl, hcompared⟩

/-- A registration that is refused leaves the tables as they were. The only argument types that it
can have learnt are those of overloads of the template that it was for. -/
theorem apply_refused {registration : Registration β}
    (h : (draft.apply types registration).result = .error error) :
    draft.OnlyLearnt types (draft.registry.addressed registration)
      (draft.apply types registration).state := by
  cases registration with
  | function owner declaration =>
    have hstate := register_refused (Answer.result_map_eq_error.1 h)
    rw [apply, Answer.state_map, hstate]
    exact onlyLearnt_refl draft
  | struct declaration => exact registerStruct_refused (Answer.result_map_eq_error.1 h)
  | factory factory => exact registerFactory_refused (Answer.result_map_eq_error.1 h)
  | template name => exact absurd h (by simp [apply, Answer.ok])
  | member id owner declaration => exact registerMember_refused (Answer.result_map_eq_error.1 h)

/-! ## What was learnt makes no difference -/

/-- Whether two drafts have the same tables, and memories that differ only in the argument types
that they know. -/
structure SameTables (draft other : Draft β) : Prop where
  registry_eq : other.registry = draft.registry
  memory : draft.memory.SameBesideTypes other.memory

/-- Whether two drafts have the same tables, and memories that differ only in the argument types
that they know, which are those that the texts name. -/
structure UpToTypes (types : TypeService) (draft other : Draft β) : Prop extends
    draft.SameTables other where
  types_from : draft.memory.TypesFrom draft.registry types.Names
  other_from : other.memory.TypesFrom other.registry types.Names

variable {other : Draft β}

/-- Resolving a context type is alike. -/
theorem resolveContext_alike (hstable : types.Stable) (h : draft.SameTables other)
    (owner : String) (text : Option String) :
    (draft.resolveContext types owner text).Alike SameTables
      (other.resolveContext types owner text) := by
  cases text with
  | none => exact ⟨rfl, h⟩
  | some text =>
    have hcounted : ∀ n m, SameTables { draft with memory := draft.memory.countTo n }
        { other with memory := other.memory.countTo m } := fun n m =>
      ⟨h.registry_eq, h.memory.countTo n m⟩
    rw [resolveContext, resolveContext, hstable other.memory.resolutions draft.memory.resolutions]
    cases types.resolve draft.memory.resolutions text with
    | none => exact ⟨rfl, hcounted _ _⟩
    | some context => exact ⟨rfl, hcounted _ _⟩

/-- Entering a function is alike. -/
theorem enter_alike (h : draft.SameTables other) (declaration : Declaration β) (owner : Owner)
    (template : Option TemplateId) :
    (draft.enter declaration owner template).Alike SameTables
      (other.enter declaration owner template) := by
  rw [enter, enter, h.registry_eq]
  cases draft.registry.accept declaration owner template with
  | error error => exact ⟨rfl, h⟩
  | ok callee => exact ⟨rfl, rfl, h.memory⟩

/-- Registering a function is alike. -/
theorem register_alike (h : draft.SameTables other) (owner : Owner)
    (declaration : Declaration β) :
    (draft.register owner declaration).Alike SameTables (other.register owner declaration) := by
  rw [register, register, h.registry_eq]
  cases draft.registry.ownerError? owner with
  | some error => exact ⟨rfl, h⟩
  | none => exact enter_alike h declaration owner none

/-- Registering a struct is alike. -/
theorem registerStruct_alike (hstable : types.Stable) (h : draft.SameTables other)
    (declaration : StructDeclaration) :
    (draft.registerStruct types declaration).Alike SameTables
      (other.registerStruct types declaration) := by
  rw [registerStruct, registerStruct]
  refine (resolveContext_alike hstable h _ _).andThen fun context _ hlater => ?_
  rw [hlater.registry_eq]
  exact ⟨rfl, rfl, hlater.memory⟩

/-- Registering a factory is alike. -/
theorem registerFactory_alike (hstable : types.Stable) (h : draft.SameTables other)
    (factory : Factory β) :
    (draft.registerFactory types factory).Alike SameTables
      (other.registerFactory types factory) := by
  rw [registerFactory, registerFactory]
  refine (resolveContext_alike hstable h _ _).andThen fun context _ hlater => ?_
  rw [hlater.registry_eq]
  exact ⟨rfl, rfl, hlater.memory⟩

/-- Asking for a template by its name finds the same one, or makes the same one. -/
theorem template_alike (h : draft.SameTables other) (name : String) :
    (other.template name).1 = (draft.template name).1 ∧
      (draft.template name).2.SameTables (other.template name).2 := by
  rw [template, template, h.registry_eq]
  cases draft.registry.templateNames.lookup name with
  | some id => exact ⟨rfl, h⟩
  | none => exact ⟨rfl, rfl, h.memory⟩

/-- An answer about memory is alike as one about drafts with the same tables. -/
theorem learning_alike {ε ε' α : Type} {answer answerOther : Answer (Memory β) ε α}
    (hregistry : other.registry = draft.registry) (f : ε → ε')
    (h : answer.Alike Memory.SameBesideTypes answerOther) :
    (draft.learning f answer).Alike SameTables (other.learning f answerOther) :=
  ⟨congrArg (·.mapError f) h.result_eq, hregistry, h.state⟩

/-- Registering a member of a template is alike: it is compared with the same types of the same
overloads, known before or not. -/
theorem registerMember_alike (hstable : types.Stable) (hregistry : draft.registry.WellFormed)
    (h : draft.UpToTypes types other) (id : TemplateId) (owner : Owner)
    (declaration : Declaration β) :
    (draft.registerMember types id owner declaration).Alike SameTables
      (other.registerMember types id owner declaration) := by
  obtain ⟨registry, memory⟩ := draft
  obtain ⟨registryOther, later⟩ := other
  obtain rfl : registryOther = registry := h.registry_eq
  have hsame := h.toSameTables
  rw [registerMember, registerMember]
  dsimp only
  split
  · exact ⟨rfl, hsame⟩
  · split
    · exact ⟨rfl, hsame⟩
    · rename_i template htemplate
      split
      · exact ⟨rfl, hsame⟩
      · have hresolved : (memory.resolveArguments types declaration.name
            declaration.arguments).Alike (Memory.UpToTypes registryOther types)
              (later.resolveArguments types declaration.name declaration.arguments) :=
          ⟨result_resolveArguments hstable _ _ _ _, h.memory.countTo _ _, h.types_from,
            h.other_from⟩
        have hruns : registryOther.RunsAlike types types (Memory.UpToTypes registryOther types) :=
          Registry.runsAlike_of_sameTexts hstable fun _ _ => rfl
        have hcompared := fun signature => hruns.twin signature
          (hregistry.registered_of_mem_membersOf template) hresolved.state
        refine (learning_alike rfl _ (hresolved.mono (·.toSameBesideTypes))).andThen
          fun signature _ _ => ?_
        refine (learning_alike rfl _ ((hcompared signature).mono (·.toSameBesideTypes))).andThen
          fun existing _ hlater => ?_
        cases existing with
        | some existing => exact ⟨rfl, hlater⟩
        | none => exact enter_alike hlater declaration owner (some id)

/-- Every registration is alike, whatever argument types are known. -/
theorem apply_alike (hstable : types.Stable) (hregistry : draft.registry.WellFormed)
    (h : draft.UpToTypes types other) (registration : Registration β) :
    (draft.apply types registration).Alike SameTables (other.apply types registration) := by
  cases registration with
  | function owner declaration => exact (register_alike h.toSameTables owner declaration).map _
  | struct declaration => exact (registerStruct_alike hstable h.toSameTables declaration).map _
  | factory factory => exact (registerFactory_alike hstable h.toSameTables factory).map _
  | template name =>
    obtain ⟨hid, hlater⟩ := template_alike h.toSameTables name
    exact ⟨congrArg (Except.ok ∘ Registered.template) hid, hlater⟩
  | member id owner declaration =>
    exact (registerMember_alike hstable hregistry h id owner declaration).map _

/-- Drafts that differ only in the argument types that they know still do so after the same
registration. -/
theorem apply_upToTypes (hstable : types.Stable) (hregistry : draft.registry.WellFormed)
    (h : draft.UpToTypes types other) (registration : Registration β) :
    (draft.apply types registration).Alike (UpToTypes types) (other.apply types registration) := by
  obtain ⟨hresult, hsame⟩ := apply_alike hstable hregistry h registration
  have hother := hregistry
  rw [← h.registry_eq] at hother
  exact ⟨hresult, hsame,
    typesFrom_advances hstable.answersWithin (apply_advances hregistry registration) h.types_from,
    typesFrom_advances hstable.answersWithin (apply_advances hother registration) h.other_from⟩

/-- A refused registration leaves a draft that differs from it only in the argument types that it
knows. -/
theorem upToTypes_of_refused (hstable : types.Stable) (hregistry : draft.registry.WellFormed)
    (h : draft.UpToTypes types other) {registration : Registration β}
    (herror : (draft.apply types registration).result = .error error) :
    (draft.apply types registration).state.UpToTypes types other := by
  obtain ⟨hsame, hfills⟩ := apply_refused herror
  have hadvances : draft.Advances types (draft.apply types registration).state :=
    apply_advances hregistry registration
  exact ⟨⟨h.registry_eq.trans hsame.symm, hfills.toSameBesideTypes.symm.trans h.memory⟩,
    typesFrom_advances hstable.answersWithin hadvances h.types_from, h.other_from⟩

/-! ## Leaving refused registrations out -/

/-- The results of a history of registrations, in order. -/
def outcomes (types : TypeService) :
    Draft β → List (Registration β) → List (Except RegistrationError Registered)
  | _, [] => []
  | draft, registration :: rest =>
    let answer := draft.apply types registration
    answer.result :: outcomes types answer.state rest

/-- The registrations of a history that are accepted, in order. -/
def accepted (types : TypeService) : Draft β → List (Registration β) → List (Registration β)
  | _, [] => []
  | draft, registration :: rest =>
    let answer := draft.apply types registration
    match answer.result with
    | .ok _ => registration :: accepted types answer.state rest
    | .error _ => accepted types answer.state rest

/-- Without the registrations that are refused, a history has the outcomes of the others, and leads
to a draft that differs only in the argument types that it knows. -/
theorem upToTypes_accepted (hstable : types.Stable) (hregistry : draft.registry.WellFormed)
    (h : draft.UpToTypes types other) (registrations : List (Registration β)) :
    other.outcomes types (draft.accepted types registrations) =
        (draft.outcomes types registrations).filter Except.isOk ∧
      (draft.applyAll types registrations).UpToTypes types
        (other.applyAll types (draft.accepted types registrations)) := by
  induction registrations generalizing draft other with
  | nil => exact ⟨rfl, h⟩
  | cons registration rest ih =>
    have hadvances : draft.Advances types (draft.apply types registration).state :=
      apply_advances hregistry registration
    have hlater := hregistry.grows hadvances.grows
    rw [accepted, outcomes]
    cases hresult : (draft.apply types registration).result with
    | error error => exact ih hlater (upToTypes_of_refused hstable hregistry h hresult)
    | ok registered =>
      have halike := apply_upToTypes hstable hregistry h registration
      obtain ⟨houtcomes, hrest⟩ := ih hlater halike.state
      refine ⟨?_, hrest⟩
      dsimp only
      rw [outcomes, halike.result_eq, hresult, List.filter_cons_of_pos rfl, houtcomes]

/-- Drafts that differ only in the argument types that they know are frozen alike. -/
theorem freeze_alike (hstable : types.Stable) (hregistry : draft.registry.WellFormed)
    (h : draft.UpToTypes types other) :
    (draft.freeze types).Alike (Memory.UpToTypes draft.registry types) (other.freeze types) := by
  obtain ⟨registry, memory⟩ := draft
  obtain ⟨registryOther, later⟩ := other
  obtain rfl : registryOther = registry := h.registry_eq
  have hmemory : Memory.UpToTypes registryOther types memory later :=
    ⟨h.memory, h.types_from, h.other_from⟩
  rw [freeze, freeze]
  dsimp only
  split
  · have hruns : registryOther.RunsAlike types types (Memory.UpToTypes registryOther types) :=
      Registry.runsAlike_of_sameTexts hstable fun _ _ => rfl
    exact ((hruns.resolveAll hregistry.registered_of_mem_functions hmemory).mapError _).map _
  · exact ⟨rfl, hmemory⟩

end Draft

/-! ## Every history -/

/-- Registrations are all or nothing. A draft in any state has the same tables after a registration
that is refused, and has learnt at most the argument types of overloads that the new one was
compared with. If the answers on texts never change, the registrations that are refused can
therefore be left out of any history of them: the others have the same outcomes, the tables are the
same, freezing has the same result, and so has every question that is asked afterwards. -/
theorem registrations_all_or_nothing (types : TypeService) (scoring : Scoring) :
    (∀ (draft : Draft β) (registration : Registration β) (error : RegistrationError),
      (draft.apply types registration).result = .error error →
        (draft.apply types registration).state.registry = draft.registry ∧
          draft.memory.FillsTypes types (draft.registry.addressed registration)
            (draft.apply types registration).state.memory) ∧
    (types.Stable → ∀ (settings : Settings) (start : Draft β),
      Draft.start types settings = .ok start → ∀ registrations : List (Registration β),
        let draft := start.applyAll types registrations
        let spared := start.applyAll types (start.accepted types registrations)
        start.outcomes types (start.accepted types registrations) =
            (start.outcomes types registrations).filter Except.isOk ∧
          spared.registry = draft.registry ∧
          (spared.freeze types).result = (draft.freeze types).result ∧
          ∀ history : List (TypeService × Query), (∀ step ∈ history, types.SameTexts step.1) →
            (spared.registry.answerAll scoring history (spared.freeze types).state).1 =
              (draft.registry.answerAll scoring history (draft.freeze types).state).1) := by
  constructor
  · intro draft registration error herror
    obtain ⟨hregistry, hmemory⟩ := Draft.apply_refused herror
    exact ⟨hregistry, hmemory⟩
  · intro hstable settings start hstart registrations draft spared
    have hdraft : draft.registry.WellFormed := Draft.wellFormed_applyAll hstart registrations
    have htypes : start.memory.TypesFrom start.registry types.Names :=
      Draft.typesFrom_applyAll hstable.answersWithin hstart []
    have hstarts : start.UpToTypes types start :=
      ⟨⟨rfl, .refl start.memory⟩, htypes, htypes⟩
    obtain ⟨houtcomes, hspared⟩ := Draft.upToTypes_accepted hstable
      (Draft.wellFormed_applyAll hstart []) hstarts registrations
    have hfreeze := Draft.freeze_alike hstable hdraft hspared
    refine ⟨houtcomes, hspared.registry_eq, hfreeze.result_eq, fun history hhistory => ?_⟩
    -- each question is put to both registries with the same service
    have hsame : List.Forall₂ (fun step next => next.2 = step.2 ∧
        draft.registry.RunsAlike step.1 next.1 (Memory.UpToTypes draft.registry types))
        history history :=
      List.forall₂_same.2 fun step hstep =>
        ⟨rfl, Registry.runsAlike_of_sameTexts hstable (hhistory step hstep)⟩
    have hregistry : spared.registry = draft.registry := hspared.registry_eq
    rw [hregistry]
    exact (Registry.RunsAlike.answerAll hdraft hsame hfreeze.state).1

namespace Sample

/-- The draft in which the sample history goes on with an overload that is refused. -/
def compared : Draft String := start.applyAll types (history.take 4)

/-- An overload that has the argument types of another one, in other spellings. -/
def respelled : Registration String :=
  .member ⟨0⟩ .nobody ⟨"AddIntegers", some (.function "add"),
    [⟨"a", "Integer", .input⟩, ⟨"rest", "Int*", .input⟩]⟩

/-- The sample history without the overload that is refused. -/
def spared : List (Registration String) := history.eraseIdx 4

end Sample

/-- In the sample history an overload is refused for its argument types. This leaves the tables as
they were, and the sample questions have the same results as if it had never been declared. -/
theorem registrations_all_or_nothing_for_respelled :
    (Sample.compared.apply Sample.types Sample.respelled).result =
        .error (.duplicateSignature "Add" "[Int, Int]" "AddInt") ∧
      (Sample.compared.apply Sample.types Sample.respelled).state.registry =
        Sample.compared.registry ∧
      Sample.types.Stable ∧
      Draft.start Sample.types {} = .ok Sample.start ∧
      Sample.start.accepted Sample.types Sample.history = Sample.spared ∧
      (∀ step ∈ Sample.questions, Sample.types.SameTexts step.1) ∧
      ((Sample.start.applyAll Sample.types Sample.spared).registry.answerAll .jaroWinkler
          Sample.questions
          ((Sample.start.applyAll Sample.types Sample.spared).freeze Sample.types).state).1 =
        (Sample.draft.registry.answerAll .jaroWinkler Sample.questions Sample.opened).1 := by
  have hrefused : (Sample.compared.apply Sample.types Sample.respelled).result =
      .error (.duplicateSignature "Add" "[Int, Int]" "AddInt") := by decide +kernel
  have hstable : Sample.types.Stable := Catalog.service_stable _
  have haccepted : Sample.start.accepted Sample.types Sample.history = Sample.spared := by rfl
  have hquestions : ∀ step ∈ Sample.questions, Sample.types.SameTexts step.1 := by
    intro step hstep earlier text
    rw [Sample.service_of_mem_questions step hstep]
  obtain ⟨hpart, hwhole⟩ := registrations_all_or_nothing (β := String) Sample.types .jaroWinkler
  obtain ⟨htables, _⟩ := hpart Sample.compared Sample.respelled _ hrefused
  obtain ⟨_, _, _, hanswers⟩ := hwhole hstable {} Sample.start Sample.start_eq Sample.history
  rw [haccepted] at hanswers
  exact ⟨hrefused, htables, hstable, Sample.start_eq, haccepted, hquestions,
    hanswers Sample.questions hquestions⟩

end Callsite
