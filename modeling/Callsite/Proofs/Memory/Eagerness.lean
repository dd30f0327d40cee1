import Callsite.Proofs.Memory.Coherence
import Callsite.Proofs.Memory.Parallel

/-!
# Eager registries resolve no texts

If the settings ask for it, the argument types of all functions are known when a registry is opened
(`Registry.Opened.knowsAll`), and nothing that is learnt later makes one of them unknown. No
question resolves a text then, as long as the factories resolve none themselves
(`Factory.ReadsNoTexts`). What the service would answer on texts cannot matter: histories of the
same questions to services that differ in these answers only have the same results.
-/

namespace Callsite

open Relation (ReflTransGen)

variable {β : Type}

/-! ## Answers on texts -/

/-- Whether another service differs at most in its answers on texts. -/
structure TypeService.SameBesideTexts (types other : TypeService) : Prop where
  isSubtype_eq : ∀ candidate required,
    other.isSubtype candidate required = types.isSubtype candidate required
  name?_eq : other.name? = types.name?
  describe_eq : other.describe = types.describe

/-- A service does not differ from itself. -/
theorem TypeService.SameBesideTexts.refl (types : TypeService) : types.SameBesideTexts types :=
  ⟨fun _ _ => rfl, rfl, rfl⟩

/-- Whether the variants of a factory depend only on which types refine which and on the names of
types, so that the factory resolves no texts. -/
def Factory.ReadsNoTexts (factory : Factory β) : Prop :=
  ∀ types other : TypeService,
    (∀ candidate required, other.isSubtype candidate required =
      types.isSubtype candidate required) →
    other.name? = types.name? → ∀ earlier runtime,
      factory.variant? earlier other runtime = factory.variant? earlier types runtime

/-! ## All types are known -/

/-- Whether the argument types of all functions are known. -/
def Memory.KnowsAll (registry : Registry β) (memory : Memory β) : Prop :=
  ∀ callee, registry.Registered callee → ∃ ids, memory.types? callee.index = some ids

/-- Once the types of functions were resolved, they are known. -/
theorem Draft.exists_types?_resolveAll {registry : Registry β} {types : TypeService}
    {memory : Memory β} {callees : List (Callee β)}
    (hcallees : ∀ callee ∈ callees, registry.Registered callee)
    (h : (resolveAll types callees memory).result = .ok ()) :
    ∀ callee ∈ callees, ∃ ids,
      (resolveAll types callees memory).state.types? callee.index = some ids := by
  induction callees generalizing memory with
  | nil => exact fun callee hcallee => absurd hcallee List.not_mem_nil
  | cons first rest ih =>
    obtain ⟨_, hregistered⟩ := List.forall_mem_cons.1 hcallees
    rw [resolveAll] at h ⊢
    obtain ⟨declared, hdeclared, hrest⟩ := Answer.result_andThen_eq_ok.1 h
    rw [Answer.andThen_of_ok hdeclared]
    intro callee hcallee
    rcases List.mem_cons.1 hcallee with rfl | hcallee
    · have hlater : ReflTransGen (registry.LearnsTypes types)
          (callee.argumentTypes types memory).state (resolveAll types rest _).state :=
        resolveAll_learns hregistered
      exact ⟨declared, Registry.types?_mono hlater (Callee.types?_argumentTypes hdeclared)⟩
    · exact ih hregistered hrest callee hcallee

/-- Freezing an eager draft leaves all argument types known. -/
theorem Draft.knowsAll_freeze {types : TypeService} {draft : Draft β}
    (hregistry : draft.registry.WellFormed) (heager : draft.registry.settings.eagerTypes = true)
    {registry : Registry β} (h : (draft.freeze types).result = .ok registry) :
    (draft.freeze types).state.KnowsAll draft.registry := by
  rw [freeze, if_pos heager] at h ⊢
  obtain ⟨_, hresolved, _⟩ := Answer.result_map_eq_ok.1 h
  have hresolved := Answer.result_mapError_eq_ok.1 hresolved
  intro callee hcallee
  have hmem : callee ∈ draft.registry.functions := List.mem_of_getElem? hcallee
  exact exists_types?_resolveAll hregistry.registered_of_mem_functions hresolved callee hmem

namespace Registry

variable {registry : Registry β} {types other : TypeService} {memory : Memory β}

/-- An eager registry knows all argument types when it is opened. -/
theorem Opened.knowsAll (h : registry.Opened types memory)
    (heager : registry.settings.eagerTypes = true) : memory.KnowsAll registry := by
  obtain ⟨settings, start, registrations, hstart, hfreeze⟩ := h
  obtain rfl := Draft.freeze_eq_ok (congrArg Answer.result hfreeze)
  have hknows := Draft.knowsAll_freeze (Draft.wellFormed_applyAll hstart registrations) heager
    (congrArg Answer.result hfreeze)
  rw [hfreeze] at hknows
  exact hknows

/-- If all argument types are known, registries run alike with services that differ in their answers
on texts only, from the same memory and without a text being resolved. -/
theorem runsAlike_of_knowsAll
    (hfactories : ∀ id entry, registry.factory? id = some entry → entry.factory.ReadsNoTexts)
    (hsame : types.SameBesideTexts other) (n : Nat) :
    registry.RunsAlike types other fun memory later =>
      later = memory ∧ memory.KnowsAll registry ∧ memory.resolutions = n where
  fits_eq given wanted := by rw [TypeService.fits, TypeService.fits, hsame.isSubtype_eq]
  select_eq candidates runtime := by
    have hwidens : registry.widens other = registry.widens types := by
      funext given wanted
      rw [widens, widens, hsame.isSubtype_eq]
    rw [hwidens]
  name?_eq := hsame.name?_eq
  describe_eq := hsame.describe_eq
  variant?_eq id entry hentry :=
    hfactories id entry hentry types other hsame.isSubtype_eq hsame.name?_eq
  same := by
    rintro _ later ⟨rfl, _⟩
    exact .refl later
  argumentTypes := by
    rintro callee _ later hcallee ⟨rfl, hknows, hcount⟩
    obtain ⟨ids, hknown⟩ := hknows callee hcallee
    rw [Callee.argumentTypes_of_known hknown, Callee.argumentTypes_of_known hknown]
    exact ⟨rfl, rfl, hknows, hcount⟩
  learnWinner := by
    rintro _ later ⟨rfl, hknows, hcount⟩ id runtime winner
    exact ⟨rfl, hknows, hcount⟩
  countQuestion := by
    rintro _ later ⟨rfl, hknows, hcount⟩ id
    exact ⟨rfl, hknows, hcount⟩
  learnDispatch := by
    rintro _ later ⟨rfl, hknows, hcount⟩ id runtime dispatch
    exact ⟨rfl, hknows, hcount⟩
  make := by
    rintro _ later ⟨rfl, hknows, hcount⟩ variant
    exact ⟨rfl, hknows, hcount⟩

end Registry

/-! ## Every history -/

/-- An eager registry resolves no texts. Once it is opened, no question of any history resolves a
text, and two histories of the same questions to services that differ in their answers on texts only
have the same results and teach the same. The factories are assumed to depend only on which types
refine which and on the names of types. -/
theorem eager_registry_resolves_nothing {drafted : TypeService} {registry : Registry β}
    {opened : Memory β} (hopened : registry.Opened drafted opened)
    (heager : registry.settings.eagerTypes = true)
    (hfactories : ∀ id entry, registry.factory? id = some entry → entry.factory.ReadsNoTexts)
    {history others : List (TypeService × Query)}
    (hothers : List.Forall₂ (fun step other => other.2 = step.2 ∧ step.1.SameBesideTexts other.1)
      history others) (scoring : Scoring) :
    (∀ n, (registry.answerAll scoring (history.take n) opened).2.resolutions = opened.resolutions) ∧
      registry.answerAll scoring others opened = registry.answerAll scoring history opened := by
  have hknows := hopened.knowsAll heager
  constructor
  · intro n
    have hsame : List.Forall₂ (fun step other => other.2 = step.2 ∧
        registry.RunsAlike step.1 other.1 fun memory later =>
          later = memory ∧ memory.KnowsAll registry ∧ memory.resolutions = opened.resolutions)
        (history.take n) (history.take n) :=
      List.forall₂_same.2 fun step _ =>
        ⟨rfl, Registry.runsAlike_of_knowsAll hfactories (.refl step.1) opened.resolutions⟩
    obtain ⟨_, _, _, hcount⟩ :=
      Registry.RunsAlike.answerAll hopened.wellFormed hsame ⟨rfl, hknows, rfl⟩
    exact hcount
  · have halike := hothers.imp fun step other hstep =>
      And.intro hstep.1
        (Registry.runsAlike_of_knowsAll hfactories hstep.2 opened.resolutions)
    obtain ⟨hresults, hmemory, _⟩ :=
      Registry.RunsAlike.answerAll hopened.wellFormed halike ⟨rfl, hknows, rfl⟩
    exact Prod.ext hresults hmemory

namespace Sample

/-- The service of the samples when every text names floats. -/
def redirected : TypeService :=
  { types with resolve := fun _ _ => some ⟨2⟩ }

/-- The sample questions to the service that has changed its answers on texts. -/
def redirectedQuestions : List (TypeService × Query) :=
  questions.map fun step => (redirected, step.2)

/-- The factory of the sample registry resolves no texts. -/
theorem readsNoTexts : ∀ id entry, draft.registry.factory? id = some entry →
    entry.factory.ReadsNoTexts := by
  have hfactories : draft.registry.factories = [⟨⟨0⟩, pairing, some ⟨4⟩⟩] := by rfl
  intro id entry hentry
  have hmem : entry ∈ draft.registry.factories := List.mem_of_getElem? hentry
  rw [hfactories, List.mem_singleton] at hmem
  rw [hmem]
  exact fun _ _ _ _ _ _ => rfl

end Sample

/-- The sample questions have the same results after the service changed its answers on texts. -/
theorem eager_registry_resolves_nothing_when_redirected :
    Sample.draft.registry.Opened Sample.types Sample.opened ∧
      Sample.draft.registry.settings.eagerTypes = true ∧
      (∀ id entry, Sample.draft.registry.factory? id = some entry →
        entry.factory.ReadsNoTexts) ∧
      List.Forall₂ (fun step other => other.2 = step.2 ∧ step.1.SameBesideTexts other.1)
        Sample.questions Sample.redirectedQuestions ∧
      Sample.draft.registry.answerAll .jaroWinkler Sample.redirectedQuestions Sample.opened =
        Sample.draft.registry.answerAll .jaroWinkler Sample.questions Sample.opened := by
  have heager : Sample.draft.registry.settings.eagerTypes = true := by decide +kernel
  have hothers : List.Forall₂ (fun step other => other.2 = step.2 ∧
      step.1.SameBesideTexts other.1) Sample.questions Sample.redirectedQuestions := by
    have hservice : Sample.types.SameBesideTexts Sample.redirected := ⟨fun _ _ => rfl, rfl, rfl⟩
    rw [Sample.redirectedQuestions, List.forall₂_map_right_iff]
    refine List.forall₂_same.2 fun step hstep => ⟨rfl, ?_⟩
    rw [Sample.service_of_mem_questions step hstep]
    exact hservice
  exact ⟨Sample.opened_draft, heager, Sample.readsNoTexts, hothers,
    (eager_registry_resolves_nothing Sample.opened_draft heager Sample.readsNoTexts hothers
      .jaroWinkler).2⟩

end Callsite
