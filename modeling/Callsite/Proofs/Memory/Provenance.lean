import Callsite.Proofs.Memory.Questions
import Callsite.Proofs.Overload.Selection
import Callsite.Proofs.Registry.Agreement

/-!
# Where remembered things come from

The argument types that a memory knows are answers of a type service to the element types of the
arguments (`Memory.TypesFrom`), and a remembered winner is a member of its template
(`Memory.WinnersFrom`). Both hold when a registry is opened, that is, frozen from a draft, and
questions keep them. Neither needs a service whose answers never change: an answer is one that was
given at some time. Whatever the answers are, a memory fits the tables at every time
(`Memory.Fits`).
-/

namespace Callsite

open Relation (ReflTransGen)

variable {β : Type} {scoring : Scoring}

/-- Whether every type that the service ever gives to a text is one of the `answers`. -/
def TypeService.AnswersWithin (types : TypeService) (answers : String → TypeId → Prop) : Prop :=
  ∀ earlier text id, types.resolve earlier text = some id → answers text id

/-- Whether one of some services ever gives the type to the text. -/
def TypeService.Answered (services : List TypeService) (text : String) (id : TypeId) : Prop :=
  ∃ service ∈ services, ∃ earlier, service.resolve earlier text = some id

/-- Whether there is one type for each argument of the function, and an answer to the text of its
element type. -/
def Callee.TypedWithin (answers : String → TypeId → Prop) (callee : Callee β)
    (ids : List TypeId) : Prop :=
  List.Forall₂ (fun argument id => answers argument.elementType id) callee.arguments ids

/-- Every element of the second of two related lists has a related element in the first. -/
theorem exists_mem_left_of_forall₂ {α γ : Type} {R : α → γ → Prop} {xs : List α} {ys : List γ}
    (h : List.Forall₂ R xs ys) {y : γ} (hy : y ∈ ys) : ∃ x ∈ xs, R x y := by
  induction h with
  | nil => exact absurd hy List.not_mem_nil
  | cons hfirst _ ih =>
    rcases List.mem_cons.1 hy with rfl | hrest
    · exact ⟨_, List.mem_cons_self, hfirst⟩
    · obtain ⟨x, hx, hfound⟩ := ih hrest
      exact ⟨x, List.mem_cons_of_mem _ hx, hfound⟩

namespace Memory

/-- Whether the known argument types belong to registered functions and are `answers`. -/
def TypesFrom (registry : Registry β) (answers : String → TypeId → Prop)
    (memory : Memory β) : Prop :=
  ∀ function ids, memory.types? function = some ids →
    ∃ callee, registry.function? function = some callee ∧ callee.TypedWithin answers ids

/-- Whether the remembered winners are members of the templates that they won. -/
def WinnersFrom (registry : Registry β) (memory : Memory β) : Prop :=
  ∀ id runtime winner, memory.winner? id runtime = some winner →
    ∃ template, registry.template? id = some template ∧ winner ∈ template.members

/-- Whether what is remembered fits the tables: known argument types belong to functions and are one
for each argument, and winners are members of the templates that they won. -/
structure Fits (registry : Registry β) (memory : Memory β) : Prop where
  types : memory.TypesFrom registry fun _ _ => True
  winners : memory.WinnersFrom registry

/-- Whether no template was resolved and no factory asked so far. -/
structure Unasked (memory : Memory β) : Prop where
  winner?_eq_none : ∀ id runtime, memory.winner? id runtime = none
  dispatch?_eq_none : ∀ id runtime, memory.dispatch? id runtime = none

/-- A memory that learnt nothing yet knows no argument types. -/
theorem typesFrom_fresh (registry : Registry β) (answers : String → TypeId → Prop) (n : Nat) :
    (fresh n).TypesFrom registry answers := by
  intro function ids hids
  exact absurd hids (by simp [fresh, types?])

/-- A memory that learnt nothing yet was asked nothing. -/
theorem unasked_fresh (n : Nat) : (fresh n : Memory β).Unasked :=
  ⟨fun _ _ => rfl, fun _ _ => rfl⟩

/-- A memory that was asked nothing remembers no winner. -/
theorem Unasked.winnersFrom {memory : Memory β} (h : memory.Unasked) (registry : Registry β) :
    memory.WinnersFrom registry := by
  intro id runtime winner hwinner
  exact absurd hwinner (by simp [h.winner?_eq_none])

end Memory

namespace Registry

variable {registry : Registry β} {types : TypeService} {answers : String → TypeId → Prop}
  {memory later : Memory β}

/-! ## What a step of a memory keeps -/

/-- A step about argument types learns answers of the service. -/
theorem LearnsTypes.typesFrom (hanswers : types.AnswersWithin answers)
    (h : registry.LearnsTypes types memory later) (hmemory : memory.TypesFrom registry answers) :
    later.TypesFrom registry answers := by
  cases h with
  | count => exact hmemory
  | types hcallee hnew hfound =>
    rename_i callee found n
    intro function ids hids
    rcases Memory.types?_learnTypes_cases hids with hold | ⟨rfl, rfl⟩
    · exact hmemory function ids hold
    · have hresult := congrArg Answer.result hfound
      refine ⟨callee, hcallee, (forall₂_of_resolveArguments hresult).imp ?_⟩
      rintro argument id ⟨n, hid⟩
      exact hanswers n _ id hid

/-- Any number of steps about argument types learn answers of the service. -/
theorem typesFrom_learnsTypes (hanswers : types.AnswersWithin answers)
    (h : ReflTransGen (registry.LearnsTypes types) memory later)
    (hmemory : memory.TypesFrom registry answers) : later.TypesFrom registry answers := by
  induction h with
  | refl => exact hmemory
  | tail _ hstep ih => exact hstep.typesFrom hanswers ih

/-- Every step learns no argument types but answers of the service. -/
theorem Learns.typesFrom (hanswers : types.AnswersWithin answers)
    (h : registry.Learns types memory later) (hmemory : memory.TypesFrom registry answers) :
    later.TypesFrom registry answers := by
  cases h with
  | types hstep => exact hstep.typesFrom hanswers hmemory
  | winner => exact hmemory
  | refused => exact hmemory
  | dispatched => exact hmemory
  | made => exact hmemory

/-- Candidates that are made of the overloads of a template are members of it. -/
theorem function_mem_members_of_knows (hregistry : registry.WellFormed) {template : Template}
    {candidates : List Candidate}
    (hknown : List.Forall₂ memory.Knows (registry.membersOf template) candidates)
    {candidate : Candidate} (hcandidate : candidate ∈ candidates) :
    candidate.function ∈ template.members := by
  obtain ⟨callee, hcallee, hindex, _⟩ := exists_mem_left_of_forall₂ hknown hcandidate
  rw [hindex]
  exact (hregistry.mem_membersOf.1 hcallee).1

/-- Every step learns no winners but members of their templates. -/
theorem Learns.winnersFrom (hregistry : registry.WellFormed)
    (h : registry.Learns types memory later) (hmemory : memory.WinnersFrom registry) :
    later.WinnersFrom registry := by
  cases h with
  | types hstep =>
    intro id runtime winner hwinner
    rw [winner?_eq_of_learnsTypes (.single hstep)] at hwinner
    exact hmemory id runtime winner hwinner
  | winner htemplate hnew hknown hselect =>
    rename_i id template runtime candidates winner
    intro id' runtime' winner' hwinner
    rcases Memory.winner?_learnWinner_cases hwinner with hold | ⟨rfl, rfl, rfl⟩
    · exact hmemory id' runtime' winner' hold
    · obtain ⟨candidate, hcandidate, rfl⟩ := exists_mem_of_select hselect
      exact ⟨template, htemplate, function_mem_members_of_knows hregistry hknown hcandidate⟩
  | refused => exact hmemory
  | dispatched => exact hmemory
  | made => exact hmemory

/-- Whatever a service answers, every step of a memory keeps that it fits the tables. -/
theorem Learns.fits (hregistry : registry.WellFormed) (h : registry.Learns types memory later)
    (hmemory : memory.Fits registry) : later.Fits registry where
  types := h.typesFrom (fun _ _ _ _ => trivial) hmemory.types
  winners := h.winnersFrom hregistry hmemory.winners

/-- Any number of steps keep that a memory fits the tables. -/
theorem fits_of_learns (hregistry : registry.WellFormed)
    (h : ReflTransGen (registry.Learns types) memory later) (hmemory : memory.Fits registry) :
    later.Fits registry :=
  learns_induction h hmemory fun _ _ hstep => hstep.fits hregistry

/-- Every history of questions keeps that a memory fits the tables. -/
theorem fits_answerAll (hregistry : registry.WellFormed) (hmemory : memory.Fits registry)
    (history : List (TypeService × Query)) :
    (registry.answerAll scoring history memory).2.Fits registry :=
  answerAll_induction (motive := fun memory => memory.Fits registry) hregistry hmemory
    fun _ _ _ _ hstep => hstep.fits hregistry

/-- Steps about argument types ask no template and no factory. -/
theorem unasked_learnsTypes (h : ReflTransGen (registry.LearnsTypes types) memory later)
    (hmemory : memory.Unasked) : later.Unasked where
  winner?_eq_none id runtime := by
    rw [winner?_eq_of_learnsTypes h, hmemory.winner?_eq_none]
  dispatch?_eq_none id runtime := by
    rw [dispatch?_eq_of_learnsTypes h, hmemory.dispatch?_eq_none]

/-! ## What a registration keeps -/

/-- Argument types that are known stay answers when the tables grow. -/
theorem typesFrom_grows {grown : Registry β} {known : Memory β}
    (h : registry.Grows types memory grown) (hknown : known.TypesFrom registry answers) :
    known.TypesFrom grown answers := by
  intro function ids hids
  obtain ⟨callee, hcallee, htyped⟩ := hknown function ids hids
  exact ⟨callee, h.extends.function?_of_some hcallee, htyped⟩

end Registry

namespace Draft

variable {types : TypeService} {draft : Draft β} {answers : String → TypeId → Prop}

/-- Freezing takes steps about argument types only. -/
theorem freeze_learns (h : draft.registry.WellFormed) :
    ReflTransGen (draft.registry.LearnsTypes types) draft.memory (draft.freeze types).state := by
  rw [freeze]
  split
  · exact resolveAll_learns h.registered_of_mem_functions
  · exact .refl

/-- A registration keeps that the known argument types are answers of the service. -/
theorem typesFrom_advances {later : Draft β} (hanswers : types.AnswersWithin answers)
    (h : draft.Advances types later) (hdraft : draft.memory.TypesFrom draft.registry answers) :
    later.memory.TypesFrom later.registry answers := by
  have hmemory := Registry.typesFrom_learnsTypes hanswers h.learns hdraft
  exact Registry.typesFrom_grows h.grows hmemory

/-- The known argument types are answers of the service after every history of registrations. -/
theorem typesFrom_applyAll (hanswers : types.AnswersWithin answers) {settings : Settings}
    (hstart : start types settings = .ok draft) (registrations : List (Registration β)) :
    (draft.applyAll types registrations).memory.TypesFrom
      (draft.applyAll types registrations).registry answers := by
  refine applyAll_induction (motive := fun draft => draft.memory.TypesFrom draft.registry answers)
    hstart (fun _ => Memory.typesFrom_fresh _ answers 1) ?_ registrations
  intro draft later _ hadvances htypes
  exact typesFrom_advances hanswers hadvances htypes

/-- No template was resolved and no factory asked after any history of registrations. -/
theorem unasked_applyAll {settings : Settings} (hstart : start types settings = .ok draft)
    (registrations : List (Registration β)) :
    (draft.applyAll types registrations).memory.Unasked := by
  refine applyAll_induction (motive := fun draft => draft.memory.Unasked) hstart
    (fun _ => Memory.unasked_fresh 1) ?_ registrations
  intro draft later _ hadvances hunasked
  exact Registry.unasked_learnsTypes hadvances.learns hunasked

end Draft

/-! ## Opened registries -/

/-- Whether a registry with a memory is what a draft was frozen into, after some history of
registrations under some settings. -/
def Registry.Opened (types : TypeService) (registry : Registry β) (memory : Memory β) : Prop :=
  ∃ settings start registrations, Draft.start types settings = .ok start ∧
    (start.applyAll types registrations).freeze types = ⟨.ok registry, memory⟩

namespace Registry.Opened

variable {registry : Registry β} {types : TypeService} {memory : Memory β}
  {answers : String → TypeId → Prop}

/-- An opened registry has the tables of its draft, and its memory goes on from that of the
draft by steps about argument types. -/
theorem exists_draft (h : registry.Opened types memory) :
    ∃ settings start registrations, Draft.start types settings = .ok start ∧
      (start.applyAll types registrations).registry = registry ∧
        ReflTransGen (registry.LearnsTypes types)
          (start.applyAll types registrations).memory memory := by
  obtain ⟨settings, start, registrations, hstart, hfreeze⟩ := h
  obtain rfl : registry = (start.applyAll types registrations).registry :=
    Draft.freeze_eq_ok (congrArg Answer.result hfreeze)
  refine ⟨settings, start, registrations, hstart, rfl, ?_⟩
  have hstate : ((start.applyAll types registrations).freeze types).state = memory :=
    congrArg Answer.state hfreeze
  rw [← hstate]
  exact Draft.freeze_learns (Draft.wellFormed_applyAll hstart registrations)

/-- The tables of an opened registry agree with each other. -/
theorem wellFormed (h : registry.Opened types memory) : registry.WellFormed := by
  obtain ⟨settings, start, registrations, hstart, rfl, _⟩ := h.exists_draft
  exact Draft.wellFormed_applyAll hstart registrations

/-- An opened registry knows no argument types but answers of the service. -/
theorem typesFrom (h : registry.Opened types memory) (hanswers : types.AnswersWithin answers) :
    memory.TypesFrom registry answers := by
  obtain ⟨settings, start, registrations, hstart, rfl, hlearns⟩ := h.exists_draft
  exact typesFrom_learnsTypes hanswers hlearns
    (Draft.typesFrom_applyAll hanswers hstart registrations)

/-- An opened registry was asked nothing so far. -/
theorem unasked (h : registry.Opened types memory) : memory.Unasked := by
  obtain ⟨settings, start, registrations, hstart, rfl, hlearns⟩ := h.exists_draft
  exact unasked_learnsTypes hlearns (Draft.unasked_applyAll hstart registrations)

/-- After every history of questions the known argument types are answers that some service gave,
when the registry was drafted or when it was asked. -/
theorem typesFrom_answerAll (h : registry.Opened types memory)
    (hanswers : types.AnswersWithin answers) {history : List (TypeService × Query)}
    (hhistory : ∀ step ∈ history, step.1.AnswersWithin answers) :
    (registry.answerAll scoring history memory).2.TypesFrom registry answers := by
  refine answerAll_induction (motive := fun memory => memory.TypesFrom registry answers)
    h.wellFormed (h.typesFrom hanswers) ?_
  intro step hstep memory later hlearns
  exact hlearns.typesFrom (hhistory step hstep)

/-- After every history of questions the remembered winners are members of their templates. -/
theorem winnersFrom_answerAll (h : registry.Opened types memory)
    (history : List (TypeService × Query)) :
    (registry.answerAll scoring history memory).2.WinnersFrom registry := by
  refine answerAll_induction (motive := fun memory => memory.WinnersFrom registry)
    h.wellFormed (h.unasked.winnersFrom registry) ?_
  intro step _ memory later hlearns
  exact hlearns.winnersFrom h.wellFormed

/-- The memory of an opened registry fits the tables. -/
theorem fits (h : registry.Opened types memory) : memory.Fits registry where
  types := h.typesFrom fun _ _ _ _ => trivial
  winners := h.unasked.winnersFrom registry

/-- After every history of questions the memory of an opened registry fits the tables. -/
theorem fits_answerAll (h : registry.Opened types memory) (history : List (TypeService × Query)) :
    (registry.answerAll scoring history memory).2.Fits registry :=
  Registry.fits_answerAll h.wellFormed h.fits history

end Registry.Opened

/-- A draft that can be frozen is frozen into its own tables. -/
theorem Draft.freeze_eq_of_isOk {types : TypeService} {draft : Draft β}
    (h : (draft.freeze types).result.isOk = true) :
    draft.freeze types = ⟨.ok draft.registry, (draft.freeze types).state⟩ := by
  cases hfreeze : draft.freeze types with
  | mk result memory =>
    rw [hfreeze] at h
    cases result with
    | error error => exact absurd h (by simp [Except.isOk, Except.toBool])
    | ok registry => rw [Draft.freeze_eq_ok (congrArg Answer.result hfreeze)]

namespace Sample

/-- The memory of the registry that the sample draft is frozen into. -/
def opened : Memory String := (draft.freeze types).state

/-- The sample draft can be frozen. -/
theorem freeze_draft : draft.freeze types = ⟨.ok draft.registry, opened⟩ :=
  Draft.freeze_eq_of_isOk (by decide +kernel)

/-- The tables of the sample draft are those of an opened registry. -/
theorem opened_draft : draft.registry.Opened types opened :=
  ⟨{}, start, history, start_eq, freeze_draft⟩

end Sample

end Callsite
