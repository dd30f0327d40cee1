import Callsite.Proofs.Binding.Family
import Callsite.Proofs.Overload.Unambiguous
import Callsite.Proofs.Registry.Refusal

/-!
# Eager and lazy registries agree

An eager registry resolves the argument types of all functions when it is opened, a lazy one when
they are asked for. Drafts under different settings run through the same registrations side by side,
without a difference but the settings (`Draft.withSettings`, `Draft.applyAll_withSettings`). Opening
the eager one then learns argument types only, and if the answers on texts never change, no later
answer depends on what is known of them.

If the eager one cannot be opened, the first function without a signature is to blame
(`Registry.FailsFirst`). It is no overload, for overloads have signatures when they are registered;
and the lazy registry has the same failure when it is asked for the types of this function, but for
none that was registered earlier.
-/

namespace Callsite

open Relation (ReflTransGen)

variable {β : Type} {scoring : Scoring}

/-! ## Other settings -/

/-- The same tables under other settings. -/
def Registry.withSettings (settings : Settings) (registry : Registry β) : Registry β :=
  { registry with settings }

/-- The same draft under other settings. -/
def Draft.withSettings (settings : Settings) (draft : Draft β) : Draft β :=
  { draft with registry := draft.registry.withSettings settings }

namespace Registry

/-- Questions are answered by the tables and two of the settings. -/
theorem answerBy_withSettings {registry : Registry β} {settings : Settings}
    (hsubtypes : settings.subtypeOverloads = registry.settings.subtypeOverloads)
    (hsuggest : settings.suggestNames = registry.settings.suggestNames) (types : TypeService)
    (query : Query) (memory : Memory β) :
    (registry.withSettings settings).answerBy scoring types query memory =
      registry.answerBy scoring types query memory := by
  obtain ⟨⟨_, _, _, _⟩, _, _, _, _, _, _, _⟩ := registry
  obtain ⟨_, _, _, _⟩ := settings
  dsimp only at hsubtypes hsuggest
  subst hsubtypes hsuggest
  cases query <;> rfl

/-- Histories of questions are answered by the tables and two of the settings. -/
theorem answerAll_withSettings {registry : Registry β} {settings : Settings}
    (hsubtypes : settings.subtypeOverloads = registry.settings.subtypeOverloads)
    (hsuggest : settings.suggestNames = registry.settings.suggestNames)
    (history : List (TypeService × Query)) (memory : Memory β) :
    (registry.withSettings settings).answerAll scoring history memory =
      registry.answerAll scoring history memory := by
  induction history generalizing memory with
  | nil => rfl
  | cons step rest ih =>
    obtain ⟨types, query⟩ := step
    rw [answerAll, answerAll, answerBy_withSettings hsubtypes hsuggest, ih]

end Registry

namespace Draft

variable {types : TypeService} {settings : Settings} {draft : Draft β}

/-- Two drafts that start with the same default context differ in their settings only. -/
theorem start_withSettings {other : Settings}
    (hcontext : other.defaultContext = settings.defaultContext)
    (h : start types settings = .ok draft) :
    start types other = .ok (draft.withSettings other) := by
  rw [start] at h ⊢
  rw [hcontext]
  split at h
  · obtain rfl := Except.ok.inj h
    rfl
  · exact absurd h (by simp)

/-- Whether the second of two drafts is the first under other settings. -/
def Resettled (settings : Settings) (draft later : Draft β) : Prop :=
  later = draft.withSettings settings

/-- Resolving a context type is alike under other settings. -/
theorem resolveContext_withSettings (owner : String) (text : Option String) :
    (draft.resolveContext types owner text).Alike (Resettled settings)
      ((draft.withSettings settings).resolveContext types owner text) := by
  cases text with
  | none => exact ⟨rfl, rfl⟩
  | some text =>
    rw [resolveContext, resolveContext, withSettings]
    cases types.resolve draft.memory.resolutions text with
    | none => exact ⟨rfl, rfl⟩
    | some context => exact ⟨rfl, rfl⟩

/-- Entering a function is alike under other settings. -/
theorem enter_withSettings (declaration : Declaration β) (owner : Owner)
    (template : Option TemplateId) :
    (draft.enter declaration owner template).Alike (Resettled settings)
      ((draft.withSettings settings).enter declaration owner template) := by
  have haccept : (draft.withSettings settings).registry.accept declaration owner template =
      draft.registry.accept declaration owner template := rfl
  rw [enter, enter, haccept]
  cases draft.registry.accept declaration owner template with
  | error error => exact ⟨rfl, rfl⟩
  | ok callee => exact ⟨rfl, rfl⟩

/-- Registering a function is alike under other settings. -/
theorem register_withSettings (owner : Owner) (declaration : Declaration β) :
    (draft.register owner declaration).Alike (Resettled settings)
      ((draft.withSettings settings).register owner declaration) := by
  have howner : (draft.withSettings settings).registry.ownerError? owner =
      draft.registry.ownerError? owner := rfl
  rw [register, register, howner]
  cases draft.registry.ownerError? owner with
  | some error => exact ⟨rfl, rfl⟩
  | none => exact enter_withSettings declaration owner none

/-- Registering a struct is alike under other settings. -/
theorem registerStruct_withSettings (declaration : StructDeclaration) :
    (draft.registerStruct types declaration).Alike (Resettled settings)
      ((draft.withSettings settings).registerStruct types declaration) := by
  rw [registerStruct, registerStruct]
  refine (resolveContext_withSettings _ _).andThen fun context _ hlater => ?_
  rw [hlater]
  exact ⟨rfl, rfl⟩

/-- Registering a factory is alike under other settings. -/
theorem registerFactory_withSettings (factory : Factory β) :
    (draft.registerFactory types factory).Alike (Resettled settings)
      ((draft.withSettings settings).registerFactory types factory) := by
  rw [registerFactory, registerFactory]
  refine (resolveContext_withSettings _ _).andThen fun context _ hlater => ?_
  rw [hlater]
  exact ⟨rfl, rfl⟩

/-- Asking for a template by its name is alike under other settings. -/
theorem template_withSettings (name : String) :
    ((draft.withSettings settings).template name).1 = (draft.template name).1 ∧
      Resettled settings (draft.template name).2
        ((draft.withSettings settings).template name).2 := by
  have hlookup : (draft.withSettings settings).registry.templateNames =
      draft.registry.templateNames := rfl
  rw [template, template, hlookup]
  cases draft.registry.templateNames.lookup name with
  | some id => exact ⟨rfl, rfl⟩
  | none => exact ⟨rfl, rfl⟩

/-- An answer about memory is alike as one about drafts under different settings. -/
theorem learning_withSettings {ε ε' α : Type} (f : ε → ε') (answer : Answer (Memory β) ε α) :
    (draft.learning f answer).Alike (Resettled settings)
      ((draft.withSettings settings).learning f answer) :=
  ⟨rfl, rfl⟩

/-- Registering a member of a template is alike under other settings. -/
theorem registerMember_withSettings (id : TemplateId) (owner : Owner)
    (declaration : Declaration β) :
    (draft.registerMember types id owner declaration).Alike (Resettled settings)
      ((draft.withSettings settings).registerMember types id owner declaration) := by
  have howner : (draft.withSettings settings).registry.ownerError? owner =
      draft.registry.ownerError? owner := rfl
  have htemplate : (draft.withSettings settings).registry.template? id =
      draft.registry.template? id := rfl
  rw [registerMember, registerMember, howner, htemplate]
  cases draft.registry.ownerError? owner with
  | some error => exact ⟨rfl, rfl⟩
  | none =>
    cases draft.registry.template? id with
    | none => exact ⟨rfl, rfl⟩
    | some template =>
      have hshape : (draft.withSettings settings).registry.rejectsShape template
          declaration.arguments = draft.registry.rejectsShape template declaration.arguments := rfl
      dsimp only
      rw [hshape]
      split
      · exact ⟨rfl, rfl⟩
      · refine (learning_withSettings _ _).andThen fun signature _ hlater => ?_
        rw [hlater]
        refine (learning_withSettings _ _).andThen fun existing _ hlast => ?_
        rw [hlast]
        cases existing with
        | some existing => exact ⟨rfl, rfl⟩
        | none => exact enter_withSettings declaration owner (some id)

/-- Every registration is alike under other settings. -/
theorem apply_withSettings (registration : Registration β) :
    (draft.apply types registration).Alike (Resettled settings)
      ((draft.withSettings settings).apply types registration) := by
  cases registration with
  | function owner declaration => exact (register_withSettings owner declaration).map _
  | struct declaration => exact (registerStruct_withSettings declaration).map _
  | factory factory => exact (registerFactory_withSettings factory).map _
  | template name =>
    obtain ⟨hid, hlater⟩ : _ ∧ Resettled settings _ _ := template_withSettings name
    exact ⟨congrArg (Except.ok ∘ Registered.template) hid, hlater⟩
  | member id owner declaration => exact (registerMember_withSettings id owner declaration).map _

/-- Every history of registrations leads to the same draft under other settings. -/
theorem applyAll_withSettings (registrations : List (Registration β)) :
    (draft.withSettings settings).applyAll types registrations =
      (draft.applyAll types registrations).withSettings settings := by
  induction registrations generalizing draft with
  | nil => rfl
  | cons registration rest ih =>
    have hstep : ((draft.withSettings settings).apply types registration).state =
        (draft.apply types registration).state.withSettings settings :=
      (apply_withSettings registration).state
    rw [applyAll, List.foldl_cons, hstep]
    exact ih

/-- Every history of registrations has the same results under other settings. -/
theorem outcomes_withSettings (registrations : List (Registration β)) :
    (draft.withSettings settings).outcomes types registrations =
      draft.outcomes types registrations := by
  induction registrations generalizing draft with
  | nil => rfl
  | cons registration rest ih =>
    have hstep : (draft.apply types registration).Alike (Resettled settings)
        ((draft.withSettings settings).apply types registration) := apply_withSettings registration
    obtain ⟨hresult, hstate⟩ := hstep
    rw [outcomes, outcomes, hresult, hstate, ih]

/-- Two drafts whose settings agree on the default context can be started side by side. They have
the same outcomes of every history of registrations, and differ in their settings afterwards. -/
theorem exists_starts (h : start types settings = .ok draft)
    (registrations : List (Registration β)) (first second : Settings)
    (hfirst : first.defaultContext = settings.defaultContext)
    (hsecond : second.defaultContext = settings.defaultContext) :
    ∃ one other : Draft β, start types first = .ok one ∧ start types second = .ok other ∧
      one.outcomes types registrations = other.outcomes types registrations ∧
      (one.applyAll types registrations).registry.settings = first ∧
      other.applyAll types registrations =
        (one.applyAll types registrations).withSettings second := by
  refine ⟨_, _, start_withSettings hfirst h, start_withSettings hsecond h, ?_, ?_, ?_⟩
  · rw [outcomes_withSettings, outcomes_withSettings]
  · rw [applyAll_withSettings]
    rfl
  · rw [applyAll_withSettings, applyAll_withSettings]
    rfl

end Draft

/-! ## The first function without a signature -/

/-- The failure to resolve arguments names the function that they belong to. -/
theorem function_of_resolveArguments {types : TypeService} {function : String}
    {arguments : List Argument} {earlier : Nat} {failure : UnknownType}
    (h : (resolveArguments types function arguments earlier).result = .error failure) :
    failure.function = function := by
  induction arguments generalizing earlier with
  | nil => exact absurd h (by simp [resolveArguments, Answer.ok])
  | cons argument rest ih =>
    rw [resolveArguments] at h
    split at h
    · rw [← Except.error.inj h]
    · exact ih (Answer.result_map_eq_error.1 h)

/-- Whether a function is the first one without a signature, for the given failure. -/
structure Registry.FailsFirst (registry : Registry β) (types : TypeService) (callee : Callee β)
    (failure : UnknownType) : Prop where
  registered : registry.Registered callee
  signature_eq : callee.signature types = .error failure
  earlier : ∀ index : FunctionIndex, index.number < callee.index.number → ∃ other ids,
    registry.function? index = some other ∧ other.signature types = .ok ids

namespace Registry.FailsFirst

variable {registry : Registry β} {types : TypeService} {callee : Callee β} {failure : UnknownType}

/-- The failure names the function. -/
theorem name_eq (h : registry.FailsFirst types callee failure) : callee.name = failure.function :=
  (function_of_resolveArguments h.signature_eq).symm

/-- A function without a signature is a member of no template. -/
theorem not_mem_members (h : registry.FailsFirst types callee failure)
    (hdistinct : registry.DistinctSignatures types)
    {id : TemplateId} {template : Template} (htemplate : registry.template? id = some template) :
    callee.index ∉ template.members := by
  intro hmember
  have hcallee : callee ∈ registry.membersOf template :=
    List.mem_filterMap.2 ⟨callee.index, hmember, h.registered⟩
  obtain ⟨ids, hids⟩ := hdistinct.exists_signature id template htemplate callee hcallee
  rw [h.signature_eq] at hids
  exact absurd hids (by simp)

/-- A function without a signature is for no template. -/
theorem template_eq_none (h : registry.FailsFirst types callee failure)
    (hregistry : registry.WellFormed) (hdistinct : registry.DistinctSignatures types) :
    callee.template = none := by
  cases hlink : callee.template with
  | none => rfl
  | some id =>
    obtain ⟨template, htemplate⟩ := hregistry.template_known h.registered hlink
    have hmember := (hregistry.mem_members_iff htemplate callee.index).2
      ⟨callee, h.registered, hlink⟩
    exact absurd hmember (h.not_mem_members hdistinct htemplate)

end Registry.FailsFirst

namespace Draft

variable {registry : Registry β} {types : TypeService} {memory : Memory β} {failure : UnknownType}

/-- Resolving the types of functions in order stops at the first one without a signature. -/
theorem exists_of_resolveAll (hstable : types.Stable) {callees : List (Callee β)}
    (hcallees : ∀ callee ∈ callees, registry.Registered callee)
    (hmemory : memory.TypesFrom registry types.Names)
    (h : (resolveAll types callees memory).result = .error failure) :
    ∃ before callee after, callees = before ++ callee :: after ∧
      callee.signature types = .error failure ∧
      ∀ other ∈ before, ∃ ids, other.signature types = .ok ids := by
  induction callees generalizing memory with
  | nil => exact absurd h (by simp [resolveAll, Answer.ok])
  | cons first rest ih =>
    obtain ⟨hfirst, hrest⟩ := List.forall_mem_cons.1 hcallees
    have hsignature := Callee.result_argumentTypes hstable hfirst hmemory
    rw [resolveAll] at h
    rcases Answer.result_andThen_eq_error.1 h with hfailed | ⟨ids, hids, hlater⟩
    · exact ⟨[], first, rest, rfl, hsignature.symm.trans hfailed, by simp⟩
    · have hlearnt := Registry.typesFrom_learnsTypes hstable.answersWithin
        (Callee.argumentTypes_learns hfirst) hmemory
      obtain ⟨before, callee, after, rfl, hcallee, hbefore⟩ := ih hrest hlearnt hlater
      refine ⟨first :: before, callee, after, rfl, hcallee, ?_⟩
      exact List.forall_mem_cons.2 ⟨⟨ids, hsignature.symm.trans hids⟩, hbefore⟩

/-- If the types of all functions of a registry cannot be resolved, the first function without a
signature is to blame. -/
theorem exists_failsFirst (hstable : types.Stable) (hregistry : registry.WellFormed)
    (hmemory : memory.TypesFrom registry types.Names)
    (h : (resolveAll types registry.functions memory).result = .error failure) :
    ∃ callee, registry.FailsFirst types callee failure := by
  obtain ⟨before, callee, after, hsplit, hsignature, hbefore⟩ :=
    exists_of_resolveAll hstable hregistry.registered_of_mem_functions hmemory h
  have hplace : registry.function? ⟨before.length⟩ = some callee := by
    rw [Registry.function?, hsplit, List.getElem?_append_right (Nat.le_refl _), Nat.sub_self]
    rfl
  have hindex := hregistry.function_index hplace
  refine ⟨callee, hregistry.registered hplace, hsignature, fun index hlt => ?_⟩
  rw [hindex] at hlt
  obtain ⟨ids, hids⟩ := hbefore before[index.number] (List.getElem_mem hlt)
  refine ⟨before[index.number], ids, ?_, hids⟩
  rw [Registry.function?, hsplit, List.getElem?_append_left hlt, List.getElem?_eq_getElem hlt]

end Draft

/-! ## Opening with and without the types -/

namespace Registry

variable {registry : Registry β} {types service : TypeService} {memory : Memory β}

/-- Asked for the types of a function, a registry answers with its signature, whatever it knows. -/
theorem result_answerBy_argumentTypes (hstable : types.Stable) (hservice : types.SameTexts service)
    (hregistry : registry.WellFormed) (hmemory : memory.TypesFrom registry types.Names)
    {index : FunctionIndex} {callee : Callee β} (hcallee : registry.function? index = some callee) :
    (registry.answerBy scoring service (.argumentTypes index) memory).result =
      ((callee.signature types).mapError .unknownType).map .types := by
  rw [← hservice.names_eq] at hmemory
  have hresult := Callee.result_argumentTypes (hservice.stable hstable)
    (hregistry.registered hcallee) hmemory
  rw [hservice.signature_eq] at hresult
  rw [answerBy, about, hcallee, ← hresult]
  rfl

/-- Asked for the types of the first function without a signature, a registry answers with its
failure; asked for those of a function before it, it answers with types. -/
theorem FailsFirst.result_answerBy {failed : Callee β} {failure : UnknownType}
    (h : registry.FailsFirst types failed failure) (hstable : types.Stable)
    (hservice : types.SameTexts service) (hregistry : registry.WellFormed)
    (hmemory : memory.TypesFrom registry types.Names) :
    (registry.answerBy scoring service (.argumentTypes failed.index) memory).result =
        .error (.unknownType failure) ∧
      ∀ index : FunctionIndex, index.number < failed.index.number → ∃ ids,
        (registry.answerBy scoring service (.argumentTypes index) memory).result =
          .ok (.types ids) := by
  constructor
  · rw [result_answerBy_argumentTypes hstable hservice hregistry hmemory h.registered,
      h.signature_eq]
    rfl
  · intro index hlt
    obtain ⟨callee, ids, hcallee, hids⟩ := h.earlier index hlt
    refine ⟨ids, ?_⟩
    rw [result_answerBy_argumentTypes hstable hservice hregistry hmemory hcallee, hids]
    rfl

end Registry

namespace Draft

variable {types : TypeService} {draft : Draft β}

/-- What is learnt when a draft is frozen makes no difference to later questions, nor to what they
teach apart from argument types. -/
theorem answerAll_freeze (hstable : types.Stable) (hregistry : draft.registry.WellFormed)
    (hmemory : draft.memory.TypesFrom draft.registry types.Names)
    {history : List (TypeService × Query)} (hhistory : ∀ step ∈ history, types.SameTexts step.1) :
    (draft.registry.answerAll scoring history (draft.freeze types).state).1 =
        (draft.registry.answerAll scoring history draft.memory).1 ∧
      (draft.registry.answerAll scoring history draft.memory).2.SameBesideTypes
        (draft.registry.answerAll scoring history (draft.freeze types).state).2 := by
  have hlearns : ReflTransGen (draft.registry.LearnsTypes types) draft.memory
      (draft.freeze types).state := freeze_learns hregistry
  have hrelated : Memory.UpToTypes draft.registry types draft.memory (draft.freeze types).state :=
    ⟨Registry.sameBesideTypes_of_learnsTypes hlearns, hmemory,
      Registry.typesFrom_learnsTypes hstable.answersWithin hlearns hmemory⟩
  have halike : List.Forall₂ (fun step next => next.2 = step.2 ∧
      draft.registry.RunsAlike step.1 next.1 (Memory.UpToTypes draft.registry types))
      history history :=
    List.forall₂_same.2 fun step hstep =>
      ⟨rfl, Registry.runsAlike_of_sameTexts hstable (hhistory step hstep)⟩
  obtain ⟨hresults, hlast⟩ := Registry.RunsAlike.answerAll hregistry halike hrelated
  exact ⟨hresults, hlast.toSameBesideTypes⟩

/-- A lazy draft can always be frozen, and nothing is learnt then. -/
theorem freeze_of_lazy (h : draft.registry.settings.eagerTypes = false) :
    draft.freeze types = .ok draft.registry draft.memory := by
  rw [freeze, if_neg (by rw [h]; simp)]

/-- An eager draft can only fail to be frozen for an unknown type, when all types are resolved. -/
theorem resolveAll_of_freeze_eq_error {error : RegistrationError}
    (h : (draft.freeze types).result = .error error) :
    ∃ failure, error = .unknownType failure ∧
      (resolveAll types draft.registry.functions draft.memory).result = .error failure := by
  rw [freeze] at h
  split at h
  · obtain ⟨failure, hfailure, rfl⟩ :=
      Answer.result_mapError_eq_error.1 (Answer.result_map_eq_error.1 h)
    exact ⟨failure, rfl, hfailure⟩
  · exact absurd h (by simp [Answer.ok])

end Draft

/-! ## Every history -/

/-- Eager and lazy registries agree. Suppose that the answers on texts never change. Two drafts that
differ only in whether types are resolved eagerly have the same outcomes of all registrations, and
the lazy one can be frozen. If the eager one can be frozen as well, then to the same tables, and
every history of questions has the same results and teaches the same, argument types apart. If it
cannot, then a type is unknown: the function that the failure names is no overload, and in the lazy
registry, after every history of questions, asking for its argument types has the same failure while
all functions before it have theirs. -/
theorem eager_and_lazy_agree {types : TypeService} (hstable : types.Stable) {settings : Settings}
    {start : Draft β} (hstart : Draft.start types settings = .ok start)
    (registrations : List (Registration β)) (scoring : Scoring) :
    ∃ eagerStart lazyStart : Draft β,
      Draft.start types { settings with eagerTypes := true } = .ok eagerStart ∧
      Draft.start types { settings with eagerTypes := false } = .ok lazyStart ∧
      eagerStart.outcomes types registrations = lazyStart.outcomes types registrations ∧
      let eagerDraft := eagerStart.applyAll types registrations
      let lazyDraft := lazyStart.applyAll types registrations
      lazyDraft.freeze types = .ok lazyDraft.registry lazyDraft.memory ∧
      (∀ registry opened, eagerDraft.freeze types = .ok registry opened →
        registry = lazyDraft.registry.withSettings { settings with eagerTypes := true } ∧
        ∀ history : List (TypeService × Query), (∀ step ∈ history, types.SameTexts step.1) →
          (registry.answerAll scoring history opened).1 =
              (lazyDraft.registry.answerAll scoring history lazyDraft.memory).1 ∧
            (lazyDraft.registry.answerAll scoring history lazyDraft.memory).2.SameBesideTypes
              (registry.answerAll scoring history opened).2) ∧
      ∀ error, (eagerDraft.freeze types).result = .error error →
        ∃ failure callee, error = .unknownType failure ∧
          lazyDraft.registry.Registered callee ∧ callee.name = failure.function ∧
          callee.template = none ∧
          (∀ id template, lazyDraft.registry.template? id = some template →
            callee.index ∉ template.members) ∧
          ∀ history : List (TypeService × Query), (∀ step ∈ history, types.SameTexts step.1) →
          ∀ service : TypeService, types.SameTexts service →
            let memory := (lazyDraft.registry.answerAll scoring history lazyDraft.memory).2
            (lazyDraft.registry.answerBy scoring service (.argumentTypes callee.index)
              memory).result = .error (.unknownType failure) ∧
            ∀ index : FunctionIndex, index.number < callee.index.number → ∃ ids,
              (lazyDraft.registry.answerBy scoring service (.argumentTypes index) memory).result =
                .ok (.types ids) := by
  obtain ⟨lazyStart, eagerStart, hlazyStart, heagerStart, houtcomes, hlazy, hdrafts⟩ :=
    Draft.exists_starts hstart registrations { settings with eagerTypes := false }
      { settings with eagerTypes := true } rfl rfl
  refine ⟨eagerStart, lazyStart, heagerStart, hlazyStart, houtcomes.symm, ?_⟩
  intro eagerDraft lazyDraft
  have heager : eagerDraft = lazyDraft.withSettings { settings with eagerTypes := true } := hdrafts
  have hregistry : lazyDraft.registry.WellFormed :=
    Draft.wellFormed_applyAll hlazyStart registrations
  have htypes : lazyDraft.memory.TypesFrom lazyDraft.registry types.Names :=
    Draft.typesFrom_applyAll hstable.answersWithin hlazyStart registrations
  have hfreeze : lazyDraft.freeze types = .ok lazyDraft.registry lazyDraft.memory :=
    Draft.freeze_of_lazy (by rw [hlazy])
  refine ⟨hfreeze, ?opened, ?failed⟩
  case opened =>
    intro registry opened hopened
    obtain rfl : registry = eagerDraft.registry :=
      Draft.freeze_eq_ok (congrArg Answer.result hopened)
    obtain rfl : (eagerDraft.freeze types).state = opened := congrArg Answer.state hopened
    refine ⟨congrArg Draft.registry heager, fun history hhistory => ?_⟩
    have hanswers : ∀ memory, eagerDraft.registry.answerAll scoring history memory =
        lazyDraft.registry.answerAll scoring history memory := by
      intro memory
      rw [heager]
      exact Registry.answerAll_withSettings (by rw [hlazy]) (by rw [hlazy]) history memory
    have hmemory : eagerDraft.memory = lazyDraft.memory := by
      rw [heager]
      rfl
    rw [← hanswers, ← hmemory]
    exact Draft.answerAll_freeze hstable (Draft.wellFormed_applyAll heagerStart registrations)
      (Draft.typesFrom_applyAll hstable.answersWithin heagerStart registrations) hhistory
  case failed =>
    intro error herror
    obtain ⟨failure, rfl, hfailure⟩ := Draft.resolveAll_of_freeze_eq_error herror
    rw [heager] at hfailure
    obtain ⟨callee, hcallee⟩ := Draft.exists_failsFirst hstable hregistry htypes hfailure
    have hdistinct : lazyDraft.registry.DistinctSignatures types :=
      Draft.distinctSignatures_applyAll hstable hlazyStart registrations
    refine ⟨failure, callee, rfl, hcallee.registered, hcallee.name_eq,
      hcallee.template_eq_none hregistry hdistinct,
      fun _ _ htemplate => hcallee.not_mem_members hdistinct htemplate, ?_⟩
    intro history hhistory service hservice memory
    have hopened : lazyDraft.registry.Opened types lazyDraft.memory :=
      ⟨_, _, registrations, hlazyStart, hfreeze⟩
    have hmemory : memory.TypesFrom lazyDraft.registry types.Names :=
      hopened.typesFrom_answerAll hstable.answersWithin
        fun step hstep => (hhistory step hstep).answersWithin hstable
    exact hcallee.result_answerBy hstable hservice hregistry hmemory

namespace Sample

/-- Three functions, the last two of them with an argument whose type the sample service does not
know. -/
def unresolved : List (Registration String) :=
  [.function .nobody ⟨"Scale", some (.function "scale"), [⟨"by", "Number", .input⟩]⟩,
    .function .nobody ⟨"Turn", some (.function "turn"),
      [⟨"by", "Float", .input⟩, ⟨"around", "Vector*", .input⟩]⟩,
    .function .nobody ⟨"Paint", some (.function "paint"), [⟨"with", "Color", .input⟩]⟩]

/-- The first of the functions whose types the sample service does not know. -/
def turn : Callee String :=
  ⟨⟨1⟩, "Turn", .function "turn", .nobody, none,
    [⟨"by", "Float", .input⟩, ⟨"around", "Vector*", .input⟩]⟩

end Sample

/-- The sample questions have the same results in the eager and in the lazy registry. Three other
functions cannot be opened eagerly, for the second one has an argument of unknown type; the lazy
registry has that failure, and the types of the first function. -/
theorem eager_and_lazy_agree_on_vectors :
    Sample.types.Stable ∧ Draft.start Sample.types {} = .ok Sample.start ∧
      Draft.start Sample.types { eagerTypes := false } = .ok Sample.lazyStart ∧
      (Sample.draft.registry.answerAll .jaroWinkler Sample.questions Sample.opened).1 =
        ((Sample.lazyStart.applyAll Sample.types Sample.history).registry.answerAll .jaroWinkler
          Sample.questions (Sample.lazyStart.applyAll Sample.types Sample.history).memory).1 ∧
      let lazyDraft := Sample.lazyStart.applyAll Sample.types Sample.unresolved
      ((Sample.start.applyAll Sample.types Sample.unresolved).freeze Sample.types).result =
          .error (.unknownType ⟨"Turn", "around", "Vector*"⟩) ∧
        (lazyDraft.registry.answer Sample.types (.argumentTypes ⟨1⟩) lazyDraft.memory).result =
          .error (.unknownType ⟨"Turn", "around", "Vector*"⟩) ∧
        ∃ ids, (lazyDraft.registry.answer Sample.types (.argumentTypes ⟨0⟩)
          lazyDraft.memory).result = .ok (.types ids) := by
  have hstable : Sample.types.Stable := Catalog.service_stable _
  have hlazyStart : Draft.start Sample.types { eagerTypes := false } = .ok Sample.lazyStart := by
    rfl
  have hrefused : ((Sample.start.applyAll Sample.types Sample.unresolved).freeze
      Sample.types).result = .error (.unknownType ⟨"Turn", "around", "Vector*"⟩) := by
    rfl
  have hquestions : ∀ step ∈ Sample.questions, Sample.types.SameTexts step.1 := by
    intro step hstep earlier text
    rw [Sample.service_of_mem_questions step hstep]
  refine ⟨hstable, Sample.start_eq, hlazyStart, ?_, ?_⟩
  · obtain ⟨_, _, heager, hlazy, _, _, hopened, _⟩ :=
      eager_and_lazy_agree hstable Sample.start_eq Sample.history .jaroWinkler
    obtain rfl := Except.ok.inj (heager.symm.trans Sample.start_eq)
    obtain rfl := Except.ok.inj (hlazy.symm.trans hlazyStart)
    exact ((hopened _ _ Sample.freeze_draft).2 Sample.questions hquestions).1
  · obtain ⟨_, _, heager, hlazy, _, _, _, hfailed⟩ :=
      eager_and_lazy_agree hstable Sample.start_eq Sample.unresolved .jaroWinkler
    obtain rfl := Except.ok.inj (heager.symm.trans Sample.start_eq)
    obtain rfl := Except.ok.inj (hlazy.symm.trans hlazyStart)
    intro lazyDraft
    obtain ⟨failure, callee, herror, hcallee, hname, _, _, hanswers⟩ := hfailed _ hrefused
    obtain rfl := RegistrationError.unknownType.inj herror
    -- the failure names the function, and so its key
    have hturn : lazyDraft.registry.function? ⟨1⟩ = some Sample.turn := by rfl
    have hindex : callee.index = ⟨1⟩ :=
      (Draft.wellFormed_applyAll hlazyStart Sample.unresolved).index_eq_of_name_eq hcallee hturn
        hname
    obtain ⟨hfailure, hearlier⟩ := hanswers [] (by simp) Sample.types (fun _ _ => rfl)
    rw [hindex] at hfailure hearlier
    exact ⟨hrefused, hfailure, hearlier ⟨0⟩ (by decide)⟩

end Callsite
