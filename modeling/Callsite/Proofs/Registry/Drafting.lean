import Callsite.Proofs.Registry.WellFormed

/-!
# Registrations, one by one and in a row

`Draft.apply_advances` says once what a registration can do: the memory learns about argument types
only, and the tables grow by at most one step, whose checks were passed. A property of drafts that
one such step keeps holds after every history of registrations, refused ones included, by
`Draft.applyAll_induction`. The first such property is that the tables agree with each other, which
also holds of the registry that a draft is frozen into.
-/

namespace Callsite

open Relation (ReflTransGen)

variable {β : Type}

namespace Draft

/-- What one registration does to a draft. -/
structure Advances (types : TypeService) (draft later : Draft β) : Prop where
  learns : ReflTransGen (draft.registry.LearnsTypes types) draft.memory later.memory
  grows : draft.registry.Grows types later.memory later.registry

variable {types : TypeService} {draft : Draft β}

/-! ## The pieces of a registration -/

/-- Learning alone leaves the tables as they are. -/
theorem advances_of_learns {memory : Memory β}
    (h : ReflTransGen (draft.registry.LearnsTypes types) draft.memory memory) :
    draft.Advances types { draft with memory } :=
  ⟨h, .same⟩

/-- A refused registration that was not looked into changes nothing. -/
theorem advances_refl (draft : Draft β) : draft.Advances types draft :=
  advances_of_learns .refl

/-- Entering a function changes the tables only if the declaration passes all checks. -/
theorem enter_cases (draft : Draft β) (declaration : Declaration β) {owner : Owner}
    (template : Option TemplateId) (howner : draft.registry.ownerError? owner = none) :
    (draft.enter declaration owner template).state = draft ∨
      ∃ callee, (draft.enter declaration owner template).state =
          { draft with registry := draft.registry.enter callee } ∧
        draft.registry.Acceptable callee ∧ callee.name = declaration.name ∧
          callee.arguments = declaration.arguments ∧ callee.template = template := by
  cases haccept : draft.registry.accept declaration owner template with
  | error error =>
    left
    rw [enter, haccept]
    rfl
  | ok callee =>
    right
    refine ⟨callee, ?_, Registry.acceptable_of_accept howner haccept⟩
    rw [enter, haccept]
    rfl

/-- Resolving a context type resolves at most one text and leaves the tables as they are. -/
theorem resolveContext_state (types : TypeService) (owner : String) (text : Option String)
    (draft : Draft β) :
    ∃ memory, (draft.resolveContext types owner text).state = { draft with memory } ∧
      ReflTransGen (draft.registry.LearnsTypes types) draft.memory memory := by
  cases text with
  | none => exact ⟨draft.memory, rfl, .refl⟩
  | some text =>
    refine ⟨draft.memory.countTo (draft.memory.resolutions + 1), ?_,
      .single (.count (Nat.le_succ _))⟩
    rw [resolveContext]
    split <;> rfl

/-- Registering a function advances the draft. -/
theorem register_advances (owner : Owner) (declaration : Declaration β) :
    draft.Advances types (draft.register owner declaration).state := by
  rw [register]
  split
  · exact advances_refl draft
  · rename_i howner
    rcases enter_cases draft declaration none howner with hsame | ⟨callee, hlater, hcallee⟩
    · rw [hsame]
      exact advances_refl draft
    · rw [hlater]
      exact ⟨.refl, .function hcallee.1 hcallee.2.2.2⟩

/-- Registering a struct advances the draft. -/
theorem registerStruct_advances (declaration : StructDeclaration) :
    draft.Advances types (draft.registerStruct types declaration).state := by
  obtain ⟨memory, hstate, hlearns⟩ :=
    resolveContext_state types declaration.name declaration.contextText draft
  rw [registerStruct]
  refine Answer.state_andThen ?_ fun context _ => ?_
  · rw [hstate]
    exact advances_of_learns hlearns
  · rw [hstate]
    exact ⟨hlearns, .struct declaration context⟩

/-- Registering a factory advances the draft. -/
theorem registerFactory_advances (factory : Factory β) :
    draft.Advances types (draft.registerFactory types factory).state := by
  obtain ⟨memory, hstate, hlearns⟩ :=
    resolveContext_state types factory.name factory.contextText draft
  rw [registerFactory]
  refine Answer.state_andThen ?_ fun context _ => ?_
  · rw [hstate]
    exact advances_of_learns hlearns
  · rw [hstate]
    exact ⟨hlearns, .factory factory context⟩

/-- Asking for a template by its name advances the draft. -/
theorem template_advances (name : String) : draft.Advances types (draft.template name).2 := by
  rw [template]
  split
  · exact advances_refl draft
  · rename_i hnew
    exact ⟨.refl, .template hnew⟩

/-- Registering a member of a template advances the draft. -/
theorem registerMember_advances (h : draft.registry.WellFormed) (id : TemplateId) (owner : Owner)
    (declaration : Declaration β) :
    draft.Advances types (draft.registerMember types id owner declaration).state := by
  rw [registerMember]
  split
  · exact advances_refl draft
  · rename_i howner
    split
    · exact advances_refl draft
    · rename_i template htemplate
      split
      · exact advances_refl draft
      · rename_i hshape
        have hresolve : ReflTransGen (draft.registry.LearnsTypes types) draft.memory
            (draft.memory.resolveArguments types declaration.name declaration.arguments).state :=
          .single (.count (resolveArguments_le _ _ _ _))
        refine Answer.state_andThen (advances_of_learns hresolve) fun signature hsignature => ?_
        have hsignature := Answer.result_mapError_eq_ok.1 hsignature
        have hmembers := h.registered_of_mem_membersOf template
        have htwin := hresolve.trans (twin_learns signature hmembers)
        refine Answer.state_andThen (advances_of_learns htwin) fun existing hexisting => ?_
        have hexisting := Answer.result_mapError_eq_ok.1 hexisting
        cases existing with
        | some existing => exact advances_of_learns htwin
        | none =>
          have hdistinct := types?_of_twin_none hmembers hexisting
          -- the declaration is checked last, on the draft that has learnt from the other checks
          let later : Draft β := ⟨draft.registry, (twin types signature
            (draft.registry.membersOf template) (draft.memory.resolveArguments types
              declaration.name declaration.arguments).state).state⟩
          show draft.Advances types (later.enter declaration owner (some id)).state
          rcases enter_cases later declaration (some id) howner with
            hsame | ⟨callee, hlater, hacc, hname, harguments, hlink⟩
          · rw [hsame]
            exact advances_of_learns htwin
          · rw [hlater]
            rw [← harguments] at hshape hsignature
            rw [← hname] at hsignature
            exact ⟨htwin, .member hacc hlink htemplate (by simpa using hshape) hsignature hdistinct⟩

/-- Every registration advances the draft. -/
theorem apply_advances (h : draft.registry.WellFormed) (registration : Registration β) :
    draft.Advances types (draft.apply types registration).state := by
  cases registration with
  | function owner declaration => exact register_advances owner declaration
  | struct declaration => exact registerStruct_advances declaration
  | factory factory => exact registerFactory_advances factory
  | template name => exact template_advances name
  | member id owner declaration => exact registerMember_advances h id owner declaration

/-! ## Histories of registrations -/

/-- A draft starts with empty tables, when one text has been resolved. -/
theorem start_eq_ok {settings : Settings} (h : start types settings = .ok draft) :
    ∃ context, draft = ⟨.empty settings context, .fresh 1⟩ := by
  unfold start at h
  split at h
  · exact ⟨_, (Except.ok.inj h).symm⟩
  · exact absurd h (by simp)

/-- What every empty draft has and every step of a draft with well-formed tables keeps, a draft has
after every history of registrations. -/
theorem applyAll_induction {motive : Draft β → Prop} {settings : Settings}
    (hstart : start types settings = .ok draft)
    (hempty : ∀ context, motive ⟨.empty settings context, .fresh 1⟩)
    (hstep : ∀ draft later, draft.registry.WellFormed → draft.Advances types later →
      motive draft → motive later)
    (registrations : List (Registration β)) : motive (draft.applyAll types registrations) := by
  have hrun : ∀ draft : Draft β, draft.registry.WellFormed → motive draft →
      motive (draft.applyAll types registrations) := by
    induction registrations with
    | nil => exact fun _ _ hdraft => hdraft
    | cons registration rest ih =>
      intro draft hdraft hmotive
      have hadvances : draft.Advances types (draft.apply types registration).state :=
        apply_advances hdraft registration
      exact ih _ (hdraft.grows hadvances.grows) (hstep _ _ hdraft hadvances hmotive)
  obtain ⟨context, rfl⟩ := start_eq_ok hstart
  exact hrun _ (Registry.WellFormed.empty settings context) (hempty context)

/-- The tables of a draft agree with each other after every history of registrations. -/
theorem wellFormed_applyAll {settings : Settings} (h : start types settings = .ok draft)
    (registrations : List (Registration β)) :
    (draft.applyAll types registrations).registry.WellFormed := by
  refine applyAll_induction (motive := fun draft => draft.registry.WellFormed) h
    (Registry.WellFormed.empty settings) ?_ registrations
  intro draft later _ hadvances hdraft
  exact hdraft.grows hadvances.grows

/-- A history of registrations may be cut in two. -/
theorem applyAll_append (draft : Draft β) (earlier later : List (Registration β)) :
    draft.applyAll types (earlier ++ later) =
      (draft.applyAll types earlier).applyAll types later :=
  List.foldl_append

/-- Every history of registrations extends the tables. -/
theorem extends_applyAll (h : draft.registry.WellFormed) (registrations : List (Registration β)) :
    draft.registry.Extends (draft.applyAll types registrations).registry := by
  induction registrations generalizing draft with
  | nil => exact .refl draft.registry
  | cons registration rest ih =>
    have hadvances : draft.Advances types (draft.apply types registration).state :=
      apply_advances h registration
    exact hadvances.grows.extends.trans (ih (h.grows hadvances.grows))

/-- Freezing leaves the tables as they are. -/
theorem freeze_eq_ok {registry : Registry β} (h : (draft.freeze types).result = .ok registry) :
    registry = draft.registry := by
  rw [freeze] at h
  split at h
  · obtain ⟨_, _, hregistry⟩ := Answer.result_map_eq_ok.1 h
    exact hregistry.symm
  · exact (Except.ok.inj h).symm

end Draft

end Callsite
