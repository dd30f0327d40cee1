import Callsite.Proofs.Binding.CallTyping
import Callsite.Proofs.Registry.Refusal

/-!
# Later registrations do not disturb a function

What a function refers to is at its place for good: its owner, and its template unless that gets
another member. `Registry.Retains` says so of tables that grew, with the template of one function
that is linked; every registration that is not for this template keeps it
(`Draft.retains_applyAll`).

On tables that retain what a function refers to, everything that the function has of its owner and
of its template is the same, and so is the answer to every question about it
(`Registry.Retains.answerBy_eq`). Two registries that are opened from a draft, before and after it
has grown, can thus not be told apart by asking about an old function.
-/

namespace Callsite

variable {β : Type} {scoring : Scoring}

/-! ## Tables that keep what a function refers to -/

/-- The template that a registration is to add an overload to. -/
def Registration.template? : Registration β → Option TemplateId
  | .member id _ _ => some id
  | .function _ _ | .struct _ | .factory _ | .template _ => none

/-- The function that a question is about, if it is about one. -/
def Query.function? : Query → Option FunctionIndex
  | .function index | .argumentTypes index | .supportsContext index _ | .argumentName index _ _
  | .argument index _ _ | .bind index _ _ => some index
  | .find _ | .resolveTemplate _ _ | .resolveFactory _ _ => none

/-- Whether other tables extend these, with all structs and factories of these at their keys and the
linked template, if there is one, as it is in these. -/
structure Registry.Retains (registry later : Registry β) (linked : Option TemplateId) : Prop
    extends registry.Extends later where
  struct?_of_some : ∀ {id entry}, registry.struct? id = some entry → later.struct? id = some entry
  factory?_of_some : ∀ {id entry}, registry.factory? id = some entry →
    later.factory? id = some entry
  template?_of_linked : ∀ {id template}, linked = some id →
    registry.template? id = some template → later.template? id = some template

namespace Registry.Retains

variable {registry later last : Registry β} {linked : Option TemplateId}

/-- Tables keep everything if they do not change. -/
theorem refl (registry : Registry β) : registry.Retains registry linked :=
  ⟨.refl registry, id, id, fun _ => id⟩

/-- What is kept twice is kept. -/
theorem trans (h : registry.Retains later linked) (hlater : later.Retains last linked) :
    registry.Retains last linked where
  toExtends := h.toExtends.trans hlater.toExtends
  struct?_of_some hentry := hlater.struct?_of_some (h.struct?_of_some hentry)
  factory?_of_some hentry := hlater.factory?_of_some (h.factory?_of_some hentry)
  template?_of_linked hid htemplate :=
    hlater.template?_of_linked hid (h.template?_of_linked hid htemplate)

end Registry.Retains

namespace Registry

variable {registry : Registry β} {linked : Option TemplateId}

/-- A function that is entered changes no template but its own. -/
theorem retains_enter {callee : Callee β}
    (h : ∀ id, linked = some id → callee.template ≠ some id) :
    registry.Retains (registry.enter callee) linked := by
  refine ⟨⟨rfl, rfl, function?_enter_of_some⟩, id, id, ?_⟩
  intro id template hid htemplate
  rw [template?_enter, htemplate, Option.map_some, if_neg (h id hid)]

/-- A struct that is entered is put at the end of its table. -/
theorem retains_enterStruct (declaration : StructDeclaration) (context : Option TypeId) :
    registry.Retains (registry.enterStruct declaration context) linked :=
  ⟨⟨rfl, rfl, id⟩, fun hentry => getElem?_concat_eq_some_iff.2 (.inl hentry), id, fun _ => id⟩

/-- A factory that is entered is put at the end of its table. -/
theorem retains_enterFactory (factory : Factory β) (context : Option TypeId) :
    registry.Retains (registry.enterFactory factory context) linked :=
  ⟨⟨rfl, rfl, id⟩, id, fun hentry => getElem?_concat_eq_some_iff.2 (.inl hentry), fun _ => id⟩

/-- A template that is entered is put at the end of its table. -/
theorem retains_enterTemplate (name : String) :
    registry.Retains (registry.enterTemplate name) linked :=
  ⟨⟨rfl, rfl, id⟩, id, id, fun _ htemplate => getElem?_concat_eq_some_iff.2 (.inl htemplate)⟩

end Registry

/-! ## Registrations for other templates -/

namespace Draft

variable {types : TypeService} {draft : Draft β} {linked : Option TemplateId}

/-- A step that only learns keeps everything in the tables. -/
theorem OnlyLearnt.retains {callees : List (Callee β)} {later : Draft β}
    (h : draft.OnlyLearnt types callees later) : draft.registry.Retains later.registry linked := by
  rw [h.registry_eq]
  exact .refl draft.registry

/-- Entering a function of another template, or of none, keeps the linked one. -/
theorem enter_retains {declaration : Declaration β} {owner : Owner} {template : Option TemplateId}
    (howner : draft.registry.ownerError? owner = none)
    (h : ∀ id, linked = some id → template ≠ some id) :
    draft.registry.Retains (draft.enter declaration owner template).state.registry linked := by
  rcases enter_cases draft declaration template howner with
    hsame | ⟨callee, hlater, _, _, _, rfl⟩
  · rw [hsame]
    exact .refl draft.registry
  · rw [hlater]
    exact Registry.retains_enter h

/-- A function outside of templates keeps what functions refer to. -/
theorem register_retains (owner : Owner) (declaration : Declaration β) :
    draft.registry.Retains (draft.register owner declaration).state.registry linked := by
  rw [register]
  split
  · exact .refl draft.registry
  · rename_i howner
    exact enter_retains howner (by simp)

/-- What is entered once a context type was resolved keeps what functions refer to if it does so
without that. -/
theorem resolveContext_andThen_retains {α : Type} {owner : String} {text : Option String}
    {next : Option TypeId → Draft β → Answer (Draft β) RegistrationError α}
    (hnext : ∀ context (later : Draft β),
      later.registry.Retains (next context later).state.registry linked) :
    draft.registry.Retains ((draft.resolveContext types owner text).andThen next).state.registry
      linked := by
  have hcontext : draft.OnlyLearnt types [] (draft.resolveContext types owner text).state :=
    resolveContext_onlyLearnt owner text
  refine Answer.state_andThen
    (motive := fun later : Draft β => draft.registry.Retains later.registry linked)
    hcontext.retains fun context _ => ?_
  exact hcontext.retains.trans (hnext context _)

/-- A struct keeps what functions refer to. -/
theorem registerStruct_retains (declaration : StructDeclaration) :
    draft.registry.Retains (draft.registerStruct types declaration).state.registry linked := by
  rw [registerStruct]
  exact resolveContext_andThen_retains
    fun context _ => Registry.retains_enterStruct declaration context

/-- A factory keeps what functions refer to. -/
theorem registerFactory_retains (factory : Factory β) :
    draft.registry.Retains (draft.registerFactory types factory).state.registry linked := by
  rw [registerFactory]
  exact resolveContext_andThen_retains
    fun context _ => Registry.retains_enterFactory factory context

/-- Asking for a template by its name keeps what functions refer to. -/
theorem template_retains (name : String) :
    draft.registry.Retains (draft.template name).2.registry linked := by
  rw [template]
  split
  · exact .refl draft.registry
  · exact Registry.retains_enterTemplate name

/-- A member of another template keeps what functions refer to. -/
theorem registerMember_retains {id : TemplateId} (h : linked ≠ some id) (owner : Owner)
    (declaration : Declaration β) :
    draft.registry.Retains (draft.registerMember types id owner declaration).state.registry
      linked := by
  have hother : ∀ found, linked = some found → some id ≠ some found := by
    rintro found hfound hid
    exact h (hfound.trans hid.symm)
  rw [registerMember]
  split
  · exact .refl draft.registry
  · rename_i howner
    split
    · exact .refl draft.registry
    · rename_i template _
      split
      · exact .refl draft.registry
      · refine Answer.state_andThen
          (motive := fun later : Draft β => draft.registry.Retains later.registry linked)
          (.refl draft.registry) fun signature _ => ?_
        refine Answer.state_andThen
          (motive := fun later : Draft β => draft.registry.Retains later.registry linked)
          (.refl draft.registry) fun existing _ => ?_
        cases existing with
        | some existing => exact .refl draft.registry
        | none =>
          let later : Draft β := ⟨draft.registry, (twin types signature
            (draft.registry.membersOf template) (draft.memory.resolveArguments types
              declaration.name declaration.arguments).state).state⟩
          have hentered : later.registry.Retains
              (later.enter declaration owner (some id)).state.registry linked :=
            enter_retains howner hother
          exact hentered

/-- A registration that is not for the linked template keeps what functions refer to. -/
theorem apply_retains {registration : Registration β}
    (h : ∀ id, linked = some id → registration.template? ≠ some id) :
    draft.registry.Retains (draft.apply types registration).state.registry linked := by
  cases registration with
  | function owner declaration => exact register_retains owner declaration
  | struct declaration => exact registerStruct_retains declaration
  | factory factory => exact registerFactory_retains factory
  | template name => exact template_retains name
  | member id owner declaration =>
    exact registerMember_retains (fun hid => h id hid rfl) owner declaration

/-- A history in which no accepted registration is for the linked template keeps what functions
refer to. -/
theorem retains_applyAll {registrations : List (Registration β)}
    (h : ∀ id, linked = some id → ∀ registration ∈ draft.accepted types registrations,
      registration.template? ≠ some id) :
    draft.registry.Retains (draft.applyAll types registrations).registry linked := by
  induction registrations generalizing draft with
  | nil => exact .refl draft.registry
  | cons registration rest ih =>
    rw [accepted] at h
    cases hresult : (draft.apply types registration).result with
    | error error =>
      rw [hresult] at h
      exact (apply_refused hresult).retains.trans (ih h)
    | ok registered =>
      rw [hresult] at h
      have hfirst := fun id hid => h id hid registration List.mem_cons_self
      have hrest := fun id hid other hother => h id hid other (List.mem_cons_of_mem _ hother)
      exact (apply_retains hfirst).trans (ih hrest)

end Draft

/-! ## What an old function has -/

namespace Registry.Retains

variable {registry later : Registry β} {linked : Option TemplateId} {callee : Callee β}

/-- An owner that is a struct is the same. -/
theorem struct?_eq (h : registry.Retains later linked) {id : StructId}
    (howner : registry.HasOwner (.struct id)) : later.struct? id = registry.struct? id := by
  obtain ⟨entry, hentry⟩ : ∃ entry, registry.struct? id = some entry :=
    ⟨_, List.getElem?_eq_getElem howner⟩
  rw [hentry, h.struct?_of_some hentry]

/-- An owner that is a factory is the same. -/
theorem factory?_eq (h : registry.Retains later linked) {id : FactoryId}
    (howner : registry.HasOwner (.factory id)) : later.factory? id = registry.factory? id := by
  obtain ⟨entry, hentry⟩ : ∃ entry, registry.factory? id = some entry :=
    ⟨_, List.getElem?_eq_getElem howner⟩
  rw [hentry, h.factory?_of_some hentry]

section Owner

variable (h : registry.Retains later linked) (howner : registry.HasOwner callee.owner)

include h howner

/-- The name of the owner is the same. -/
theorem ownerName?_eq : later.ownerName? callee = registry.ownerName? callee := by
  rw [ownerName?, ownerName?]
  cases hcase : callee.owner with
  | nobody => rfl
  | struct id => rw [hcase] at howner; simp only [h.struct?_eq howner]
  | factory id => rw [hcase] at howner; simp only [h.factory?_eq howner]

/-- The struct that the function is a method of is the same. -/
theorem ownerStruct?_eq : later.ownerStruct? callee = registry.ownerStruct? callee := by
  rw [ownerStruct?, ownerStruct?]
  cases hcase : callee.owner with
  | nobody => rfl
  | struct id => rw [hcase] at howner; exact h.struct?_eq howner
  | factory id => rfl

/-- The module of that struct is the same. -/
theorem moduleName?_eq : later.moduleName? callee = registry.moduleName? callee := by
  rw [moduleName?, moduleName?, h.ownerStruct?_eq howner]

/-- The header of that struct is the same. -/
theorem header?_eq : later.header? callee = registry.header? callee := by
  rw [header?, header?, h.ownerStruct?_eq howner]

/-- The context type that the function needs is the same. -/
theorem contextOf_eq : later.contextOf callee = registry.contextOf callee := by
  have hdeclared : later.declaredContext? callee = registry.declaredContext? callee := by
    rw [declaredContext?, declaredContext?]
    cases hcase : callee.owner with
    | nobody => rfl
    | struct id => rw [hcase] at howner; simp only [h.struct?_eq howner]
    | factory id => rw [hcase] at howner; simp only [h.factory?_eq howner]
  rw [contextOf, contextOf, hdeclared, h.defaultContext_eq]

/-- The names of operands are the same. -/
theorem argumentName_eq (operand total : Nat) :
    later.argumentName callee operand total = registry.argumentName callee operand total := by
  have hfactory : later.factoryArgumentName? callee operand total =
      registry.factoryArgumentName? callee operand total := by
    rw [factoryArgumentName?, factoryArgumentName?]
    cases hcase : callee.owner with
    | nobody => rfl
    | struct id => rfl
    | factory id => rw [hcase] at howner; simp only [h.factory?_eq howner]
  rw [argumentName, argumentName, hfactory]

end Owner

/-- The function is found by its name where it was. -/
theorem named?_eq (h : registry.Retains later linked) (hregistry : registry.WellFormed)
    (hlater : later.WellFormed) (hcallee : registry.Registered callee) :
    later.named? callee.name = registry.named? callee.name := by
  rw [(hregistry.named_iff _ _).2 ⟨callee, hcallee, rfl⟩,
    (hlater.named_iff _ _).2 ⟨callee, h.function?_of_some hcallee, rfl⟩]

/-- A family of the linked template is the same. -/
theorem family?_eq (h : registry.Retains later linked) (hregistry : registry.WellFormed)
    (hcallee : registry.Registered callee) (hlinked : callee.template = linked) :
    later.family? callee = registry.family? callee := by
  rw [family?, family?]
  cases hid : callee.template with
  | none => rfl
  | some id =>
    obtain ⟨template, htemplate⟩ := hregistry.template_known hcallee hid
    have hlater := h.template?_of_linked (hlinked.symm.trans hid) htemplate
    rw [Option.bind_some, Option.bind_some, htemplate, hlater]

/-- The overloads that a template lists are the same. -/
theorem membersOf_eq (h : registry.Retains later linked) (hregistry : registry.WellFormed)
    {id : TemplateId} {template : Template} (htemplate : registry.template? id = some template) :
    later.membersOf template = registry.membersOf template := by
  refine List.filterMap_congr fun index hindex => ?_
  obtain ⟨other, hother⟩ := hregistry.exists_function?_of_mem_members htemplate index hindex
  rw [hother, h.function?_of_some hother]

/-! ## What is answered about an old function -/

section Asking

variable {types : TypeService} {memory : Memory β}

/-- The same overload of a template is selected. -/
theorem selectOverload_eq (h : registry.Retains later linked) (hregistry : registry.WellFormed)
    {id : TemplateId} {template : Template} (htemplate : registry.template? id = some template)
    (runtime : List TypeId) :
    later.selectOverload types template runtime memory =
      registry.selectOverload types template runtime memory := by
  have hwidens : later.widens types = registry.widens types := by
    funext given wanted
    rw [widens, widens, h.settings_eq]
  rw [selectOverload, selectOverload, h.membersOf_eq hregistry htemplate]
  refine Answer.andThen_congr fun candidates hcandidates => ?_
  have hcandidates := Answer.result_mapError_eq_ok.1 hcandidates
  have hknows := candidatesOf_knows (hregistry.registered_of_mem_membersOf template) hcandidates
  rw [hwidens]
  cases hselect : select (registry.widens types) candidates runtime with
  | found winner => rfl
  | noMatch => rfl
  | ambiguous twins =>
    -- the twins are overloads, so that each has the name that it had
    have hnames : later.namesOf twins = registry.namesOf twins := by
      refine List.filterMap_congr fun twin htwin => ?_
      obtain ⟨candidate, hmem, rfl⟩ := exists_mem_of_select_ambiguous hselect twin htwin
      obtain ⟨other, hother⟩ := hregistry.exists_function?_of_mem_members htemplate _
        (function_mem_members_of_knows hregistry hknows hmem)
      rw [hother, h.function?_of_some hother]
    dsimp only
    rw [hnames]

/-- The linked template is resolved alike. -/
theorem resolveTemplate_eq (h : registry.Retains later linked) (hregistry : registry.WellFormed)
    {id : TemplateId} {template : Template} (hid : linked = some id)
    (htemplate : registry.template? id = some template) (runtime : List TypeId) :
    later.resolveTemplate types id runtime memory =
      registry.resolveTemplate types id runtime memory := by
  have hlater := h.template?_of_linked hid htemplate
  cases hknown : memory.winner? id runtime with
  | some winner =>
    rw [resolveTemplate_of_known htemplate hknown, resolveTemplate_of_known hlater hknown]
  | none =>
    rw [resolveTemplate_of_unknown htemplate hknown, resolveTemplate_of_unknown hlater hknown,
      h.selectOverload_eq hregistry htemplate]

/-- A call of a function reaches the same function. -/
theorem target_eq (h : registry.Retains later linked) (hregistry : registry.WellFormed)
    (hcallee : registry.Registered callee) (hlinked : callee.template = linked)
    (hmemory : memory.WinnersFrom registry) (runtime : List TypeId) :
    later.target types callee runtime memory = registry.target types callee runtime memory := by
  rw [target, target, h.family?_eq hregistry hcallee hlinked]
  cases hfamily : registry.family? callee with
  | none => rfl
  | some template =>
    obtain ⟨id, hid, htemplate, _⟩ := family?_eq_some_iff.1 hfamily
    obtain rfl := hregistry.template_id htemplate
    dsimp only
    rw [h.resolveTemplate_eq hregistry (hlinked.symm.trans hid) htemplate]
    refine Answer.andThen_congr fun winner hwinner => ?_
    have hmember := mem_members_of_resolveTemplate hregistry hmemory htemplate hwinner
    obtain ⟨other, hother⟩ := hregistry.exists_function?_of_mem_members htemplate winner hmember
    rw [hother, h.function?_of_some hother]

/-- A function is dispatched alike. -/
theorem dispatch_eq (h : registry.Retains later linked)
    (howner : registry.HasOwner callee.owner) (runtime : List TypeId) :
    later.dispatch types callee runtime memory = registry.dispatch types callee runtime memory := by
  rw [dispatch, dispatch]
  cases hcase : callee.owner with
  | nobody => rfl
  | struct id => rfl
  | factory id =>
    rw [hcase] at howner
    dsimp only
    rw [resolveFactory, resolveFactory, h.factory?_eq howner]

/-- A call of a function is bound alike. -/
theorem bind_eq (h : registry.Retains later linked) (hregistry : registry.WellFormed)
    {function : FunctionIndex} (hcallee : registry.function? function = some callee)
    (hlinked : callee.template = linked) (hmemory : memory.WinnersFrom registry)
    (runtime : List TypeId) (context : TypeId) :
    later.bind types function runtime context memory =
      registry.bind types function runtime context memory := by
  have hregistered := hregistry.registered hcallee
  rw [bind, bind, hcallee, h.function?_of_some hcallee]
  dsimp only
  rw [h.target_eq hregistry hregistered hlinked hmemory]
  refine Answer.andThen_congr fun reached hreached => ?_
  have howner := hregistry.owner_known (registered_of_target hregistry hregistered hreached)
  rw [supportsContext, supportsContext, contextMismatch, contextMismatch, h.contextOf_eq howner,
    h.dispatch_eq howner]

/-- A question about a function has the same answer if it has for its entry. -/
theorem about_eq (h : registry.Retains later linked) {function : FunctionIndex}
    (hcallee : registry.function? function = some callee)
    {ask askLater : Callee β → Answer (Memory β) ResolveError (Reply β)}
    (hask : askLater callee = ask callee) :
    later.about function memory askLater = registry.about function memory ask := by
  rw [about, about, hcallee, h.function?_of_some hcallee]
  exact hask

/-- Every question about a function has the same answer, and teaches the same. -/
theorem answerBy_eq (h : registry.Retains later linked) (hregistry : registry.WellFormed)
    {function : FunctionIndex} (hcallee : registry.function? function = some callee)
    (hlinked : callee.template = linked) (hmemory : memory.WinnersFrom registry) {query : Query}
    (hquery : query.function? = some function) :
    later.answerBy scoring types query memory = registry.answerBy scoring types query memory := by
  have howner := hregistry.owner_known hcallee
  cases query with
  | function index =>
    obtain rfl := Option.some.inj hquery
    exact h.about_eq hcallee rfl
  | find name => exact absurd hquery (by simp [Query.function?])
  | argumentTypes index =>
    obtain rfl := Option.some.inj hquery
    exact h.about_eq hcallee rfl
  | resolveTemplate id runtime => exact absurd hquery (by simp [Query.function?])
  | resolveFactory id runtime => exact absurd hquery (by simp [Query.function?])
  | supportsContext index context =>
    obtain rfl := Option.some.inj hquery
    refine h.about_eq hcallee ?_
    rw [supportsContext, supportsContext, h.contextOf_eq howner]
  | argumentName index operand total =>
    obtain rfl := Option.some.inj hquery
    refine h.about_eq hcallee ?_
    rw [h.argumentName_eq howner]
  | argument index operand total =>
    obtain rfl := Option.some.inj hquery
    exact h.about_eq hcallee rfl
  | bind index runtime context =>
    obtain rfl := Option.some.inj hquery
    rw [answerBy, answerBy, h.bind_eq hregistry hcallee hlinked hmemory]

end Asking

/-- Services that answer alike for the later tables do so for these. -/
theorem alike {types other : TypeService} (h : registry.Retains later linked)
    (halike : later.Alike types other) : registry.Alike types other :=
  ⟨halike.same_texts, halike.isSubtype_eq,
    fun id entry hentry => halike.variant?_eq id entry (h.factory?_of_some hentry)⟩

end Registry.Retains

/-! ## Opened registries -/

/-- A draft remembers nothing but argument types. -/
theorem Draft.sameBesideTypes_applyAll {types : TypeService} {settings : Settings}
    {start : Draft β} (hstart : Draft.start types settings = .ok start)
    (registrations : List (Registration β)) :
    (Memory.fresh 1).SameBesideTypes (start.applyAll types registrations).memory := by
  refine applyAll_induction (motive := fun draft => (Memory.fresh 1).SameBesideTypes draft.memory)
    hstart (fun _ => .refl _) ?_ registrations
  intro draft later _ hadvances hdraft
  exact hdraft.trans (Registry.sameBesideTypes_of_learnsTypes hadvances.learns)

namespace Registry.Opened

variable {registry : Registry β} {types service : TypeService} {memory : Memory β}

/-- An opened registry remembers nothing but argument types that the texts name. -/
theorem upToTypes (h : registry.Opened types memory) (hstable : types.Stable) (n : Nat) :
    (Memory.fresh n).UpToTypes registry types memory := by
  obtain ⟨settings, start, registrations, hstart, _, hlearns⟩ := h.exists_draft
  have hfresh : (Memory.fresh n).SameBesideTypes (Memory.fresh 1 : Memory β) :=
    (Memory.SameBesideTypes.refl (.fresh 1)).countTo n 1
  have hdraft := Draft.sameBesideTypes_applyAll hstart registrations
  exact ⟨(hfresh.trans hdraft).trans (sameBesideTypes_of_learnsTypes hlearns),
    Memory.typesFrom_fresh registry types.Names n, h.typesFrom hstable.answersWithin⟩

/-- The first question to an opened registry has the result that it has when nothing is known. -/
theorem result_answerBy_eq (h : registry.Opened types memory) (hstable : types.Stable)
    (hsame : types.SameTexts service) (query : Query) (n : Nat) :
    (registry.answerBy scoring service query memory).result =
      (registry.answerBy scoring service query (.fresh n)).result :=
  ((runsAlike_of_sameTexts hstable hsame).answerBy h.wellFormed scoring query
    (h.upToTypes hstable n)).result_eq

/-- Every later question has the result that it has when nothing is known, serial numbers of
dispatches apart. -/
theorem result_answerBy_answerAll_eq (h : registry.Opened types memory) (hstable : types.Stable)
    {history : List (TypeService × Query)}
    (hhistory : ∀ step ∈ history, registry.Alike types step.1)
    (halike : registry.Alike types service) (query : Query) (n : Nat) :
    (registry.answerBy scoring service query
        (registry.answerAll scoring history memory).2).result.map Reply.unnumbered =
      (registry.answerBy scoring service query (.fresh n)).result.map Reply.unnumbered :=
  result_answerBy h.wellFormed (halike.same_texts.stable hstable) halike.steady
    (halike.coherent (h.coherent_answerAll hstable hhistory)) (.fresh n) scoring query

end Registry.Opened

/-! ## Every history -/

/-- Later registrations do not disturb a function. Let a draft that has the function go on with any
registrations, of which none that is accepted is for the template of the function. If both drafts
can be frozen with a service whose answers on texts never change, then the function, what it has of
its owner and its template, and the names of its operands are the same in both registries. Every
question about it has the same result in both when they are opened; and if the services and the
factories always answer alike, then it does so after any questions to either, serial numbers of
dispatches apart. -/
theorem functions_undisturbed {types : TypeService} {settings : Settings} {start : Draft β}
    (hstart : Draft.start types settings = .ok start) (earlier further : List (Registration β))
    {function : FunctionIndex} {callee : Callee β}
    (hcallee : (start.applyAll types earlier).registry.function? function = some callee)
    (hfurther : ∀ id, callee.template = some id →
      ∀ registration ∈ (start.applyAll types earlier).accepted types further,
        registration.template? ≠ some id)
    {registry later : Registry β} {opened reopened : Memory β}
    (hfreeze : (start.applyAll types earlier).freeze types = ⟨.ok registry, opened⟩)
    (hrefreeze : (start.applyAll types (earlier ++ further)).freeze types = ⟨.ok later, reopened⟩)
    (hstable : types.Stable) (scoring : Scoring) :
    (registry.function? function = some callee ∧ later.function? function = some callee) ∧
      later.named? callee.name = registry.named? callee.name ∧
      later.family? callee = registry.family? callee ∧
      (∀ template, registry.family? callee = some template →
        later.membersOf template = registry.membersOf template) ∧
      later.contextOf callee = registry.contextOf callee ∧
      later.ownerName? callee = registry.ownerName? callee ∧
      later.ownerStruct? callee = registry.ownerStruct? callee ∧
      later.moduleName? callee = registry.moduleName? callee ∧
      later.header? callee = registry.header? callee ∧
      (∀ operand total,
        later.argumentName callee operand total = registry.argumentName callee operand total) ∧
      (∀ service query, types.SameTexts service → query.function? = some function →
        (later.answerBy scoring service query reopened).result =
          (registry.answerBy scoring service query opened).result) ∧
      ∀ past laterPast service query, (∀ step ∈ past, later.Alike types step.1) →
        (∀ step ∈ laterPast, later.Alike types step.1) → later.Alike types service →
          query.function? = some function →
            (later.answerBy scoring service query
                (later.answerAll scoring laterPast reopened).2).result.map Reply.unnumbered =
              (registry.answerBy scoring service query
                (registry.answerAll scoring past opened).2).result.map Reply.unnumbered := by
  have hopened : registry.Opened types opened := ⟨settings, start, earlier, hstart, hfreeze⟩
  have hreopened : later.Opened types reopened :=
    ⟨settings, start, earlier ++ further, hstart, hrefreeze⟩
  have hregistry := hopened.wellFormed
  have hretains : registry.Retains later callee.template := by
    have hdraft := Draft.retains_applyAll hfurther
    rw [← Draft.applyAll_append] at hdraft
    rw [Draft.freeze_eq_ok (congrArg Answer.result hfreeze),
      Draft.freeze_eq_ok (congrArg Answer.result hrefreeze)]
    exact hdraft
  rw [← Draft.freeze_eq_ok (congrArg Answer.result hfreeze)] at hcallee
  have hregistered := hregistry.registered hcallee
  have howner := hregistry.owner_known hcallee
  -- one registry is exchanged for the other when nothing is known
  have hexchange : ∀ (service : TypeService) (query : Query), query.function? = some function →
      later.answerBy scoring service query (.fresh 0) =
        registry.answerBy scoring service query (.fresh 0) :=
    fun _ _ => hretains.answerBy_eq hregistry hcallee rfl
      ((Memory.unasked_fresh 0).winnersFrom registry)
  refine ⟨⟨hcallee, hretains.function?_of_some hcallee⟩,
    hretains.named?_eq hregistry hreopened.wellFormed hregistered,
    hretains.family?_eq hregistry hregistered rfl, ?members, hretains.contextOf_eq howner,
    hretains.ownerName?_eq howner, hretains.ownerStruct?_eq howner,
    hretains.moduleName?_eq howner, hretains.header?_eq howner,
    hretains.argumentName_eq howner, ?first, ?afterwards⟩
  case members =>
    intro template hfamily
    obtain ⟨id, _, htemplate, _⟩ := Registry.family?_eq_some_iff.1 hfamily
    exact hretains.membersOf_eq hregistry htemplate
  case first =>
    intro service query hsame hquery
    rw [hreopened.result_answerBy_eq hstable hsame query 0,
      hopened.result_answerBy_eq hstable hsame query 0, hexchange service query hquery]
  case afterwards =>
    intro past laterPast service query hpast hlaterPast halike hquery
    rw [hreopened.result_answerBy_answerAll_eq hstable hlaterPast halike query 0,
      hopened.result_answerBy_answerAll_eq hstable
        (fun step hstep => hretains.alike (hpast step hstep)) (hretains.alike halike) query 0,
      hexchange service query hquery]

namespace Sample

/-- The second overload of the sample template, which is a method. -/
def toolAdd : Callee String :=
  ⟨⟨1⟩, "Tool::Add", .function "add", .struct ⟨0⟩, some ⟨0⟩,
    [⟨"a", "Number", .input⟩, ⟨"rest", "Number*", .input⟩]⟩

/-- After the sample history: a second struct, a second template with a method of that struct, an
overload of the first template that is refused, and a second factory. -/
def further : List (Registration String) :=
  [.struct ⟨"Rig", "tools", some "RigContext", none⟩, .template "Mul",
    .member ⟨1⟩ (.struct ⟨1⟩) ⟨"Rig::Mul", some (.function "mul"), [⟨"a", "Int", .input⟩]⟩,
    respelled, .factory pairing]

/-- The draft that goes on after the sample history. -/
def grown : Draft String := start.applyAll types (history ++ further)

/-- The draft that goes on can be frozen too. -/
theorem freeze_grown :
    grown.freeze types = ⟨.ok grown.registry, (grown.freeze types).state⟩ :=
  Draft.freeze_eq_of_isOk (by decide +kernel)

end Sample

/-- The method of the sample history has the same family and the same bindings after the draft went
on, although an overload of its template was refused on the way. -/
theorem functions_undisturbed_tool_add :
    Draft.start Sample.types {} = .ok Sample.start ∧
      Sample.draft.registry.function? ⟨1⟩ = some Sample.toolAdd ∧
      (∀ registration ∈ Sample.draft.accepted Sample.types Sample.further,
        registration.template? ≠ some ⟨0⟩) ∧
      Sample.draft.freeze Sample.types = ⟨.ok Sample.draft.registry, Sample.opened⟩ ∧
      Sample.grown.freeze Sample.types =
        ⟨.ok Sample.grown.registry, (Sample.grown.freeze Sample.types).state⟩ ∧
      Sample.types.Stable ∧
      Sample.grown.registry.family? Sample.toolAdd =
        Sample.draft.registry.family? Sample.toolAdd ∧
      ∀ runtime context,
        (Sample.grown.registry.answer Sample.types (.bind ⟨1⟩ runtime context)
            (Sample.grown.freeze Sample.types).state).result =
          (Sample.draft.registry.answer Sample.types (.bind ⟨1⟩ runtime context)
            Sample.opened).result := by
  have hcallee : Sample.draft.registry.function? ⟨1⟩ = some Sample.toolAdd := by decide +kernel
  have haccepted : Sample.draft.accepted Sample.types Sample.further =
      Sample.further.eraseIdx 3 := by rfl
  have hfurther : ∀ registration ∈ Sample.draft.accepted Sample.types Sample.further,
      registration.template? ≠ some ⟨0⟩ := by
    rw [haccepted]
    decide
  have hlinked : ∀ id, Sample.toolAdd.template = some id →
      ∀ registration ∈ Sample.draft.accepted Sample.types Sample.further,
        registration.template? ≠ some id := by
    rintro id hid
    obtain rfl := Option.some.inj hid
    exact hfurther
  have hstable : Sample.types.Stable := Catalog.service_stable _
  obtain ⟨_, _, hfamily, _, _, _, _, _, _, _, hfirst, _⟩ := functions_undisturbed Sample.start_eq
    Sample.history Sample.further hcallee hlinked Sample.freeze_draft Sample.freeze_grown hstable
    .jaroWinkler
  exact ⟨Sample.start_eq, hcallee, hfurther, Sample.freeze_draft, Sample.freeze_grown, hstable,
    hfamily, fun runtime context => hfirst Sample.types (.bind ⟨1⟩ runtime context)
      (fun _ _ => rfl) rfl⟩

end Callsite
