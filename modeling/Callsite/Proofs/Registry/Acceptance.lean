import Callsite.Proofs.Registry.Refusal

/-!
# What an accepted registration enters

A registration that is accepted enters what it declares, under the key that it is answered with
(`Registry.Enters`), and a refused one leaves the tables as they were, so that a property of the
tables that every entry keeps holds of every draft (`Draft.tables_applyAll`).

In this way the context types of a draft are traced back to the texts that declare them
(`Registry.ContextsNamed`): the default is what the settings name, and a struct or a factory has the
context type that its own text names, if it has one.
-/

namespace Callsite

variable {β : Type}

/-! ## Entries -/

/-- What a registration that is accepted does to the tables, and the key that it is answered with. A
declared context type is one that the service answered with. -/
inductive Registry.Enters (types : TypeService) (registry : Registry β) :
    Registration β → Callsite.Registered → Registry β → Prop
  | function {owner : Owner} {declaration : Declaration β} {callee : Callee β}
    (howner : registry.ownerError? owner = none)
    (haccept : registry.accept declaration owner none = .ok callee) :
    Enters types registry (.function owner declaration) (.function callee.index)
      (registry.enter callee)
  | struct {declaration : StructDeclaration} {context : Option TypeId}
    (hcontext : Option.Rel (TypeService.Answered [types]) declaration.contextText context) :
    Enters types registry (.struct declaration) (.struct ⟨registry.structs.length⟩)
      (registry.enterStruct declaration context)
  | factory {factory : Factory β} {context : Option TypeId}
    (hcontext : Option.Rel (TypeService.Answered [types]) factory.contextText context) :
    Enters types registry (.factory factory) (.factory ⟨registry.factories.length⟩)
      (registry.enterFactory factory context)
  | known {name : String} {id : TemplateId}
    (hknown : registry.templateNames.lookup name = some id) :
    Enters types registry (.template name) (.template id) registry
  | template {name : String} (hnew : registry.templateNames.lookup name = none) :
    Enters types registry (.template name) (.template ⟨registry.templates.length⟩)
      (registry.enterTemplate name)
  | member {id : TemplateId} {owner : Owner} {declaration : Declaration β} {template : Template}
    {callee : Callee β} (howner : registry.ownerError? owner = none)
    (htemplate : registry.template? id = some template)
    (hshape : registry.rejectsShape template declaration.arguments = false)
    (haccept : registry.accept declaration owner (some id) = .ok callee) :
    Enters types registry (.member id owner declaration) (.function callee.index)
      (registry.enter callee)

namespace Draft

variable {types : TypeService} {draft : Draft β} {registered : Registered}

/-- A function that is entered passed the checks. -/
theorem exists_of_enter_ok {owner : Owner} {declaration : Declaration β}
    {template : Option TemplateId} {index : FunctionIndex}
    (h : (draft.enter declaration owner template).result = .ok index) :
    ∃ callee, draft.registry.accept declaration owner template = .ok callee ∧
      callee.index = index ∧
        (draft.enter declaration owner template).state.registry = draft.registry.enter callee := by
  rw [enter] at h ⊢
  cases haccept : draft.registry.accept declaration owner template with
  | error error =>
    rw [haccept] at h
    exact absurd h (by simp [Answer.fail])
  | ok callee =>
    rw [haccept] at h
    exact ⟨callee, rfl, Except.ok.inj h, rfl⟩

/-- Resolving a context type gives what the service answers, if there is a text, and leaves the
tables as they are. -/
theorem resolveContext_eq_ok {owner : String} {text : Option String} {context : Option TypeId}
    (h : (draft.resolveContext types owner text).result = .ok context) :
    Option.Rel (TypeService.Answered [types]) text context ∧
      (draft.resolveContext types owner text).state.registry = draft.registry := by
  cases text with
  | none =>
    obtain rfl := Except.ok.inj h
    exact ⟨.none, rfl⟩
  | some text =>
    rw [resolveContext] at h ⊢
    cases hresolve : types.resolve draft.memory.resolutions text with
    | none =>
      simp only [hresolve] at h
      exact absurd h (by simp [Answer.fail])
    | some found =>
      simp only [hresolve] at h ⊢
      obtain rfl := Except.ok.inj h
      exact ⟨.some ⟨types, List.mem_singleton_self types, _, hresolve⟩, rfl⟩

/-- A function that is registered is entered. -/
theorem register_enters {owner : Owner} {declaration : Declaration β} {index : FunctionIndex}
    (h : (draft.register owner declaration).result = .ok index) :
    draft.registry.Enters types (.function owner declaration) (.function index)
      (draft.register owner declaration).state.registry := by
  rw [register] at h ⊢
  cases howner : draft.registry.ownerError? owner with
  | some error =>
    rw [howner] at h
    exact absurd h (by simp [Answer.fail])
  | none =>
    rw [howner] at h
    dsimp only at h ⊢
    obtain ⟨callee, haccept, rfl, hentered⟩ := exists_of_enter_ok h
    rw [hentered]
    exact .function howner haccept

/-- A struct that is registered is entered with the context type that its text names. -/
theorem registerStruct_enters {declaration : StructDeclaration} {id : StructId}
    (h : (draft.registerStruct types declaration).result = .ok id) :
    draft.registry.Enters types (.struct declaration) (.struct id)
      (draft.registerStruct types declaration).state.registry := by
  rw [registerStruct] at h ⊢
  obtain ⟨context, hcontext, hid⟩ := Answer.result_andThen_eq_ok.1 h
  obtain ⟨hanswered, hsame⟩ := resolveContext_eq_ok hcontext
  obtain rfl := Except.ok.inj hid
  rw [Answer.andThen_of_ok hcontext]
  dsimp only [Answer.ok]
  rw [hsame]
  exact .struct hanswered

/-- A factory that is registered is entered with the context type that its text names. -/
theorem registerFactory_enters {factory : Factory β} {id : FactoryId}
    (h : (draft.registerFactory types factory).result = .ok id) :
    draft.registry.Enters types (.factory factory) (.factory id)
      (draft.registerFactory types factory).state.registry := by
  rw [registerFactory] at h ⊢
  obtain ⟨context, hcontext, hid⟩ := Answer.result_andThen_eq_ok.1 h
  obtain ⟨hanswered, hsame⟩ := resolveContext_eq_ok hcontext
  obtain rfl := Except.ok.inj hid
  rw [Answer.andThen_of_ok hcontext]
  dsimp only [Answer.ok]
  rw [hsame]
  exact .factory hanswered

/-- A template that is asked for by its name is entered if there is none of the name. -/
theorem template_enters (name : String) :
    draft.registry.Enters types (.template name) (.template (draft.template name).1)
      (draft.template name).2.registry := by
  rw [template]
  split
  · rename_i id hknown
    exact .known hknown
  · rename_i hnew
    exact .template hnew

/-- A member of a template that is registered is entered. -/
theorem registerMember_enters {id : TemplateId} {owner : Owner} {declaration : Declaration β}
    {index : FunctionIndex}
    (h : (draft.registerMember types id owner declaration).result = .ok index) :
    draft.registry.Enters types (.member id owner declaration) (.function index)
      (draft.registerMember types id owner declaration).state.registry := by
  rw [registerMember] at h ⊢
  cases howner : draft.registry.ownerError? owner with
  | some error =>
    rw [howner] at h
    exact absurd h (by simp [Answer.fail])
  | none =>
    cases htemplate : draft.registry.template? id with
    | none =>
      rw [howner, htemplate] at h
      exact absurd h (by simp [Answer.fail])
    | some template =>
      rw [howner, htemplate] at h
      dsimp only at h ⊢
      split at h
      · exact absurd h (by simp [Answer.fail])
      · rename_i hshape
        obtain ⟨signature, hsignature, hnext⟩ := Answer.result_andThen_eq_ok.1 h
        obtain ⟨existing, hexisting, hlast⟩ := Answer.result_andThen_eq_ok.1 hnext
        cases existing with
        | some existing => exact absurd hlast (by simp [Answer.fail])
        | none =>
          rw [if_neg hshape, Answer.andThen_of_ok hsignature, Answer.andThen_of_ok hexisting]
          -- the declaration is checked on the tables of before, for the checks so far only learn
          obtain ⟨callee, haccept, rfl, hentered⟩ := exists_of_enter_ok hlast
          dsimp only at hentered ⊢
          rw [hentered]
          exact .member howner htemplate (by simpa using hshape) haccept

/-- A registration that is accepted enters what it declares. -/
theorem apply_enters {registration : Registration β}
    (h : (draft.apply types registration).result = .ok registered) :
    draft.registry.Enters types registration registered
      (draft.apply types registration).state.registry := by
  cases registration with
  | function owner declaration =>
    obtain ⟨index, hindex, rfl⟩ := Answer.result_map_eq_ok.1 h
    exact register_enters hindex
  | struct declaration =>
    obtain ⟨id, hid, rfl⟩ := Answer.result_map_eq_ok.1 h
    exact registerStruct_enters hid
  | factory factory =>
    obtain ⟨id, hid, rfl⟩ := Answer.result_map_eq_ok.1 h
    exact registerFactory_enters hid
  | template name =>
    obtain rfl := Except.ok.inj h
    exact template_enters name
  | member id owner declaration =>
    obtain ⟨index, hindex, rfl⟩ := Answer.result_map_eq_ok.1 h
    exact registerMember_enters hindex

/-- What every entry keeps of the tables, every history of registrations keeps. -/
theorem tables_applyAll {motive : Registry β → Prop} (h : motive draft.registry)
    (henters : ∀ {registry later : Registry β} {registration registered},
      registry.Enters types registration registered later → motive registry → motive later)
    (registrations : List (Registration β)) :
    motive (draft.applyAll types registrations).registry := by
  induction registrations generalizing draft with
  | nil => exact h
  | cons registration rest ih =>
    refine ih ?_
    cases hresult : (draft.apply types registration).result with
    | ok registered => exact henters (apply_enters hresult) h
    | error error =>
      rw [(apply_refused hresult).registry_eq]
      exact h

end Draft

/-! ## Context types and their texts -/

namespace Registry

variable {registry later : Registry β} {types : TypeService} {answers : String → TypeId → Prop}

/-- Whether the context types of a registry are those that `answers` gives for the texts that
declare them; a struct or a factory without a text declares none. -/
structure ContextsNamed (registry : Registry β) (answers : String → TypeId → Prop) : Prop where
  default : answers registry.settings.defaultContext registry.defaultContext
  struct : ∀ {id entry}, registry.struct? id = some entry →
    Option.Rel answers entry.declaration.contextText entry.context
  factory : ∀ {id entry}, registry.factory? id = some entry →
    Option.Rel answers entry.factory.contextText entry.context

/-- The text of the context type that the owner of a function declares. -/
def declaredContextText? (registry : Registry β) (callee : Callee β) : Option String :=
  match callee.owner with
  | .nobody => none
  | .struct id => (registry.struct? id).bind (·.declaration.contextText)
  | .factory id => (registry.factory? id).bind (·.factory.contextText)

/-- The text of the context type that a function needs: the one that its owner declares, or that of
the settings. -/
def contextTextOf (registry : Registry β) (callee : Callee β) : String :=
  (registry.declaredContextText? callee).getD registry.settings.defaultContext

/-- A context type that a service answered with is one that `answers` gives. -/
theorem rel_of_answered (hanswers : types.AnswersWithin answers) {text : Option String}
    {context : Option TypeId} (h : Option.Rel (TypeService.Answered [types]) text context) :
    Option.Rel answers text context := by
  cases h with
  | none => exact .none
  | some hanswered =>
    obtain ⟨service, hservice, earlier, hresolve⟩ := hanswered
    rw [List.mem_singleton.1 hservice] at hresolve
    exact .some (hanswers earlier _ _ hresolve)

/-- Every entry keeps that context types are what their texts name. -/
theorem ContextsNamed.enters (hanswers : types.AnswersWithin answers)
    {registration : Registration β} {registered : Callsite.Registered}
    (henters : registry.Enters types registration registered later)
    (h : registry.ContextsNamed answers) : later.ContextsNamed answers := by
  cases henters with
  | function => exact ⟨h.default, h.struct, h.factory⟩
  | struct hcontext =>
    refine ⟨h.default, fun hentry => ?_, h.factory⟩
    rcases getElem?_concat_eq_some_iff.1 hentry with hold | ⟨_, rfl⟩
    · exact h.struct hold
    · exact rel_of_answered hanswers hcontext
  | factory hcontext =>
    refine ⟨h.default, h.struct, fun hentry => ?_⟩
    rcases getElem?_concat_eq_some_iff.1 hentry with hold | ⟨_, rfl⟩
    · exact h.factory hold
    · exact rel_of_answered hanswers hcontext
  | known => exact h
  | template => exact ⟨h.default, h.struct, h.factory⟩
  | member => exact ⟨h.default, h.struct, h.factory⟩

/-- A function needs the context type that its context text names. -/
theorem ContextsNamed.contextOf (h : registry.ContextsNamed answers) (callee : Callee β) :
    answers (registry.contextTextOf callee) (registry.contextOf callee) := by
  have hdeclared : Option.Rel answers (registry.declaredContextText? callee)
      (registry.declaredContext? callee) := by
    rw [declaredContextText?, declaredContext?]
    cases callee.owner with
    | nobody => exact .none
    | struct id =>
      dsimp only
      cases hentry : registry.struct? id with
      | none => exact .none
      | some entry => exact h.struct hentry
    | factory id =>
      dsimp only
      cases hentry : registry.factory? id with
      | none => exact .none
      | some entry => exact h.factory hentry
  rw [contextTextOf, Registry.contextOf]
  generalize registry.declaredContextText? callee = text at hdeclared ⊢
  generalize registry.declaredContext? callee = context at hdeclared ⊢
  cases hdeclared with
  | none => exact h.default
  | some hnamed => exact hnamed

end Registry

/-- The context types of a draft are what their texts name, after every history of registrations. -/
theorem Draft.contextsNamed_applyAll {types : TypeService} {answers : String → TypeId → Prop}
    (hanswers : types.AnswersWithin answers) {settings : Settings} {start : Draft β}
    (hstart : Draft.start types settings = .ok start) (registrations : List (Registration β)) :
    (start.applyAll types registrations).registry.ContextsNamed answers := by
  refine tables_applyAll (motive := fun registry => registry.ContextsNamed answers) ?_
    (fun henters => Registry.ContextsNamed.enters hanswers henters) registrations
  rw [Draft.start] at hstart
  split at hstart
  · rename_i context hcontext
    obtain rfl := Except.ok.inj hstart
    refine ⟨hanswers 0 _ context hcontext, ?_, ?_⟩ <;>
      simp [Registry.empty, Registry.struct?, Registry.factory?]
  · exact absurd hstart (by simp)

/-- In an opened registry a function needs the context type that its context text names. -/
theorem Registry.Opened.names_contextOf {registry : Registry β} {types : TypeService}
    {memory : Memory β} (h : registry.Opened types memory) (hstable : types.Stable)
    (callee : Callee β) :
    types.Names (registry.contextTextOf callee) (registry.contextOf callee) := by
  obtain ⟨settings, start, registrations, hstart, rfl, _⟩ := h.exists_draft
  exact (Draft.contextsNamed_applyAll hstable.answersWithin hstart registrations).contextOf callee

end Callsite
