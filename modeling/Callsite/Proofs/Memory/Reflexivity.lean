import Callsite.Proofs.Memory.Eagerness
import Callsite.Proofs.Registry.Refusal

/-!
# Refinement of a type by itself

A type fits where it is needed, whatever the service says about a type and itself. Two services that
differ in nothing but these answers (`TypeService.SameBesideSelf`) select the same overloads
(`select_congr`), fit the same operands and contexts, and so give every draft and every registry the
same answers and the same memories (`services_differ_unnoticed`). Drafts do not ask about refinement
at all; the texts and the wording of messages are all that they read (`TypeService.SameWording`).
-/

namespace Callsite

variable {β : Type}

/-! ## Services that differ little -/

/-- Whether another service has the same answers on texts and writes lists of types alike, which is
all that a draft asks of a service. -/
structure TypeService.SameWording (types other : TypeService) : Prop where
  same_texts : types.SameTexts other
  describe_eq : other.describe = types.describe

/-- Whether another service differs at most in whether a type refines itself. -/
structure TypeService.SameBesideSelf (types other : TypeService) : Prop
    extends types.SameWording other where
  isSubtype_eq : ∀ candidate required, candidate ≠ required →
    other.isSubtype candidate required = types.isSubtype candidate required
  name?_eq : other.name? = types.name?

/-- The service with the same answers but that no type refines itself. -/
def TypeService.irreflexive (types : TypeService) : TypeService :=
  { types with isSubtype := fun candidate required =>
      candidate != required && types.isSubtype candidate required }

/-- A service differs from its irreflexive one at most in whether a type refines itself. -/
theorem TypeService.sameBesideSelf_irreflexive (types : TypeService) :
    types.SameBesideSelf types.irreflexive where
  same_texts _ _ := rfl
  describe_eq := rfl
  isSubtype_eq candidate required hne := by
    dsimp only [irreflexive]
    rw [bne_iff_ne.2 hne, Bool.true_and]
  name?_eq := rfl

/-! ## What a draft reads -/

section Drafting

variable {types other : TypeService}

/-- The types of a function's arguments are resolved by the answers on texts alone. -/
theorem Callee.argumentTypes_eq (h : types.SameTexts other) (callee : Callee β)
    (memory : Memory β) :
    callee.argumentTypes other memory = callee.argumentTypes types memory := by
  simp only [argumentTypes, Memory.resolveArguments, h.resolveArguments_eq]

namespace Draft

variable {draft : Draft β}

/-- Functions are compared with a signature by the answers on texts alone. -/
theorem twin_eq (h : types.SameTexts other) (signature : List TypeId) (callees : List (Callee β))
    (memory : Memory β) :
    twin other signature callees memory = twin types signature callees memory := by
  induction callees generalizing memory with
  | nil => rfl
  | cons callee rest ih => simp only [twin, Callee.argumentTypes_eq h, ih]

/-- The types of several functions are resolved by the answers on texts alone. -/
theorem resolveAll_eq (h : types.SameTexts other) (callees : List (Callee β))
    (memory : Memory β) : resolveAll other callees memory = resolveAll types callees memory := by
  induction callees generalizing memory with
  | nil => rfl
  | cons callee rest ih => simp only [resolveAll, Callee.argumentTypes_eq h, ih]

/-- A context type is resolved by the answers on texts alone. -/
theorem resolveContext_eq (h : types.SameTexts other) (owner : String) (text : Option String) :
    draft.resolveContext other owner text = draft.resolveContext types owner text := by
  cases text with
  | none => rfl
  | some text =>
    rw [resolveContext, resolveContext, h]

/-- A member of a template is registered alike with a service of the same wording. -/
theorem registerMember_eq (h : types.SameWording other) (id : TemplateId) (owner : Owner)
    (declaration : Declaration β) :
    draft.registerMember other id owner declaration =
      draft.registerMember types id owner declaration := by
  simp only [registerMember, Memory.resolveArguments, h.same_texts.resolveArguments_eq,
    twin_eq h.same_texts, h.describe_eq]

/-- Every registration has the same answer with a service of the same wording. -/
theorem apply_eq (h : types.SameWording other) (registration : Registration β) :
    draft.apply other registration = draft.apply types registration := by
  cases registration with
  | function owner declaration => rfl
  | struct declaration =>
    simp only [apply, registerStruct, resolveContext_eq h.same_texts]
  | factory factory =>
    simp only [apply, registerFactory, resolveContext_eq h.same_texts]
  | template name => rfl
  | member id owner declaration => rw [apply, apply, registerMember_eq h]

/-- Every history of registrations leads to the same draft with a service of the same wording. -/
theorem applyAll_eq (h : types.SameWording other) (registrations : List (Registration β)) :
    draft.applyAll other registrations = draft.applyAll types registrations := by
  simp only [applyAll, apply_eq h]

/-- Every history of registrations has the same results with a service of the same wording. -/
theorem outcomes_eq (h : types.SameWording other) (registrations : List (Registration β)) :
    draft.outcomes other registrations = draft.outcomes types registrations := by
  induction registrations generalizing draft with
  | nil => rfl
  | cons registration rest ih => simp only [outcomes, apply_eq h, ih]

/-- A draft starts alike with the same answers on texts. -/
theorem start_eq (h : types.SameTexts other) (settings : Settings) :
    (start other settings : Except RegistrationError (Draft β)) = start types settings := by
  rw [start, start, h]

/-- A draft is frozen alike with the same answers on texts. -/
theorem freeze_eq (h : types.SameTexts other) : draft.freeze other = draft.freeze types := by
  simp only [freeze, resolveAll_eq h]

end Draft

end Drafting

/-! ## What a registry reads -/

/-- Exact positions are counted alike if the same types are widened to others. -/
theorem exactPositions?_congr {widens wider : TypeId → TypeId → Bool}
    (h : ∀ given wanted, given ≠ wanted → wider given wanted = widens given wanted)
    (declared runtime : List TypeId) :
    exactPositions? wider declared runtime = exactPositions? widens declared runtime := by
  induction declared generalizing runtime with
  | nil => cases runtime <;> rfl
  | cons want declared ih =>
    cases runtime with
    | nil => rfl
    | cons given runtime =>
      rw [exactPositions?, exactPositions?, ih]
      by_cases hexact : want = given
      · rw [if_pos hexact, if_pos hexact]
      · rw [if_neg hexact, if_neg hexact, h given want (Ne.symm hexact)]

/-- Candidates are selected alike if the same types are widened to others. -/
theorem select_congr {widens wider : TypeId → TypeId → Bool}
    (h : ∀ given wanted, given ≠ wanted → wider given wanted = widens given wanted)
    (candidates : List Candidate) (runtime : List TypeId) :
    select wider candidates runtime = select widens candidates runtime := by
  have heligible : Selection.eligible wider candidates runtime =
      Selection.eligible widens candidates runtime := by
    simp only [Selection.eligible, exactPositions?_congr h]
  rw [select, select, heligible]

namespace TypeService.SameBesideSelf

variable {types other : TypeService}

/-- The same types fit where a type is needed. -/
theorem fits_eq (h : types.SameBesideSelf other) (given wanted : TypeId) :
    other.fits given wanted = types.fits given wanted := by
  rw [fits, fits]
  by_cases hself : given = wanted
  · rw [beq_iff_eq.2 hself, Bool.true_or, Bool.true_or]
  · rw [h.isSubtype_eq given wanted hself]

/-- The same overloads are selected. -/
theorem select_eq (h : types.SameBesideSelf other) (registry : Registry β)
    (candidates : List Candidate) (runtime : List TypeId) :
    select (registry.widens other) candidates runtime =
      select (registry.widens types) candidates runtime := by
  refine select_congr (fun given wanted hne => ?_) candidates runtime
  rw [Registry.widens, Registry.widens, h.isSubtype_eq given wanted hne]

/-- Registries run alike from the same memory, if their factories answer alike. -/
theorem runsAlike (h : types.SameBesideSelf other) {registry : Registry β}
    (hfactories : ∀ id entry, registry.factory? id = some entry → ∀ earlier runtime,
      entry.factory.variant? earlier other runtime =
        entry.factory.variant? earlier types runtime) :
    registry.RunsAlike types other fun memory later => later = memory where
  fits_eq := h.fits_eq
  select_eq := h.select_eq registry
  name?_eq := h.name?_eq
  describe_eq := h.describe_eq
  variant?_eq := hfactories
  same := by
    rintro _ later rfl
    exact .refl later
  argumentTypes := by
    rintro callee _ later _ rfl
    rw [Callee.argumentTypes_eq h.same_texts]
    exact ⟨rfl, rfl⟩
  learnWinner := by
    rintro _ later rfl id runtime winner
    rfl
  countQuestion := by
    rintro _ later rfl id
    rfl
  learnDispatch := by
    rintro _ later rfl id runtime dispatch
    rfl
  make := by
    rintro _ later rfl variant
    rfl

end TypeService.SameBesideSelf

/-! ## Every history -/

/-- Nobody notices whether the service takes types to refine themselves. Two services that differ in
nothing else start the same drafts, have the same outcomes of every history of registrations, and
lead to the same draft, which is frozen alike. Two histories of the same questions, put to services
that differ in nothing else at each step, then have the same answers and leave the same memory
behind, if the factories give the same variants with both services of a step. -/
theorem services_differ_unnoticed {types other : TypeService} (hsame : types.SameBesideSelf other)
    (settings : Settings) (scoring : Scoring) :
    (Draft.start other settings : Except RegistrationError (Draft β)) =
        Draft.start types settings ∧
      ∀ (start : Draft β) (registrations : List (Registration β)),
        Draft.start types settings = .ok start →
          start.outcomes other registrations = start.outcomes types registrations ∧
          start.applyAll other registrations = start.applyAll types registrations ∧
          let draft := start.applyAll types registrations
          draft.freeze other = draft.freeze types ∧
          ∀ registry opened, draft.freeze types = .ok registry opened →
            ∀ history others : List (TypeService × Query),
              List.Forall₂ (fun step next => next.2 = step.2 ∧ step.1.SameBesideSelf next.1 ∧
                ∀ id entry, registry.factory? id = some entry → ∀ earlier runtime,
                  entry.factory.variant? earlier next.1 runtime =
                    entry.factory.variant? earlier step.1 runtime) history others →
              registry.answerAll scoring others opened =
                registry.answerAll scoring history opened := by
  refine ⟨Draft.start_eq hsame.same_texts settings, ?_⟩
  intro start registrations hstart
  refine ⟨Draft.outcomes_eq hsame.toSameWording registrations,
    Draft.applyAll_eq hsame.toSameWording registrations, Draft.freeze_eq hsame.same_texts, ?_⟩
  intro registry opened hopened history others hothers
  have hregistry : registry.Opened types opened := ⟨settings, start, registrations, hstart, hopened⟩
  have halike := hothers.imp fun step next hstep =>
    And.intro hstep.1 (hstep.2.1.runsAlike hstep.2.2)
  obtain ⟨hresults, hmemory⟩ := Registry.RunsAlike.answerAll hregistry.wellFormed halike rfl
  exact Prod.ext hresults hmemory

namespace Sample

/-- The sample questions to the irreflexive service. -/
def irreflexiveQuestions : List (TypeService × Query) :=
  questions.map fun step => (types.irreflexive, step.2)

end Sample

/-- The sample history of registrations is the same if types do not refine themselves, and so are
the answers to the sample questions, although some operands and contexts are of the very types that
are needed. -/
theorem services_differ_unnoticed_in_sample :
    Sample.types.SameBesideSelf Sample.types.irreflexive ∧
      Sample.types.isSubtype ⟨1⟩ ⟨1⟩ = true ∧ Sample.types.irreflexive.isSubtype ⟨1⟩ ⟨1⟩ = false ∧
      Draft.start Sample.types {} = .ok Sample.start ∧
      Sample.draft.freeze Sample.types = .ok Sample.draft.registry Sample.opened ∧
      List.Forall₂ (fun step next => next.2 = step.2 ∧ step.1.SameBesideSelf next.1 ∧
        ∀ id entry, Sample.draft.registry.factory? id = some entry → ∀ earlier runtime,
          entry.factory.variant? earlier next.1 runtime =
            entry.factory.variant? earlier step.1 runtime)
        Sample.questions Sample.irreflexiveQuestions ∧
      Sample.draft.freeze Sample.types.irreflexive = Sample.draft.freeze Sample.types ∧
      Sample.draft.registry.answerAll .jaroWinkler Sample.irreflexiveQuestions Sample.opened =
        Sample.draft.registry.answerAll .jaroWinkler Sample.questions Sample.opened := by
  have hservice := Sample.types.sameBesideSelf_irreflexive
  have hquestions : List.Forall₂ (fun step next => next.2 = step.2 ∧
      step.1.SameBesideSelf next.1 ∧
      ∀ id entry, Sample.draft.registry.factory? id = some entry → ∀ earlier runtime,
        entry.factory.variant? earlier next.1 runtime =
          entry.factory.variant? earlier step.1 runtime)
      Sample.questions Sample.irreflexiveQuestions := by
    rw [Sample.irreflexiveQuestions, List.forall₂_map_right_iff]
    refine List.forall₂_same.2 fun step hstep => ?_
    rw [Sample.service_of_mem_questions step hstep]
    refine ⟨rfl, hservice, fun id entry hentry earlier runtime => ?_⟩
    -- the only factory of the sample registry asks the service nothing
    have hfactories : Sample.draft.registry.factories = [⟨⟨0⟩, Sample.pairing, some ⟨4⟩⟩] := by rfl
    have hmem : entry ∈ Sample.draft.registry.factories := List.mem_of_getElem? hentry
    rw [hfactories, List.mem_singleton] at hmem
    rw [hmem]
    rfl
  obtain ⟨_, hdrafts⟩ := services_differ_unnoticed (β := String) hservice {} .jaroWinkler
  obtain ⟨_, _, hfreeze, hanswers⟩ := hdrafts Sample.start Sample.history Sample.start_eq
  have hsame := hanswers Sample.draft.registry Sample.opened Sample.freeze_draft Sample.questions
    Sample.irreflexiveQuestions hquestions
  exact ⟨hservice, by decide +kernel, by decide +kernel, Sample.start_eq, Sample.freeze_draft,
    hquestions, hfreeze, hsame⟩

end Callsite
