import Callsite.Proofs.Memory.Stability

/-!
# Two runs side by side

Two runs of a registry are compared step by step: the same question is asked in both, of two type
services and from two memories. `Answer.Alike` says that it has one result and leaves related
memories behind. A registry that runs alike on argument types (`Registry.RunsAlike`) does so on
every question, and so on every history of questions (`Registry.RunsAlike.answerAll`). The relation
between the memories is left open; it carries whatever keeps two runs together.

The first such relation is that two memories differ only in the argument types that they know. If
the answers on texts never change, the difference is lost on every question
(`Registry.runsAlike_of_sameTexts`).
-/

namespace Callsite

open Relation (ReflTransGen)

variable {β : Type} {scoring : Scoring}

/-! ## Answers that are alike -/

/-- Whether two answers have one result and leave related states behind. -/
structure Answer.Alike {σ ε α : Type} (related : σ → σ → Prop) (answer other : Answer σ ε α) :
    Prop where
  result_eq : other.result = answer.result
  state : related answer.state other.state

namespace Answer.Alike

variable {σ ε ε' α δ : Type} {related : σ → σ → Prop} {answer other : Answer σ ε α}

/-- Answers that are alike are so for every weaker relation between states. -/
theorem mono {weaker : σ → σ → Prop} (h : answer.Alike related other)
    (hweaker : ∀ {state later}, related state later → weaker state later) :
    answer.Alike weaker other :=
  ⟨h.result_eq, hweaker h.state⟩

/-- Two operations in a row are alike if the first ones are, and the second ones are after every
success of the first. -/
theorem andThen (h : answer.Alike related other) {next nextOther : α → σ → Answer σ ε δ}
    (hnext : ∀ value, answer.result = .ok value → related answer.state other.state →
      (next value answer.state).Alike related (nextOther value other.state)) :
    (answer.andThen next).Alike related (other.andThen nextOther) := by
  obtain ⟨result, state⟩ := answer
  obtain ⟨resultOther, later⟩ := other
  have hresult : resultOther = result := h.result_eq
  subst hresult
  cases resultOther with
  | error error => exact ⟨rfl, h.state⟩
  | ok value => exact hnext value rfl h.state

/-- Answers stay alike when their value is changed. -/
theorem map (h : answer.Alike related other) (f : α → δ) :
    (answer.map f).Alike related (other.map f) :=
  ⟨congrArg (·.map f) h.result_eq, h.state⟩

/-- Answers stay alike when their error is seen as one of another kind. -/
theorem mapError (h : answer.Alike related other) (f : ε → ε') :
    (answer.mapError f).Alike related (other.mapError f) :=
  ⟨congrArg (·.mapError f) h.result_eq, h.state⟩

end Answer.Alike

/-! ## Registries that run alike -/

/-- Whether a registry runs alike with two services from related memories: the services do not
differ in what fits what, in the candidate that is selected, in what messages say and in what the
factories answer, and argument types have one result. The relation is one between memories that
remember the same apart from argument types, and it is kept by whatever else is learnt. -/
structure Registry.RunsAlike (registry : Registry β) (types other : TypeService)
    (related : Memory β → Memory β → Prop) : Prop where
  fits_eq : ∀ given wanted, other.fits given wanted = types.fits given wanted
  select_eq : ∀ candidates runtime, select (registry.widens other) candidates runtime =
    select (registry.widens types) candidates runtime
  name?_eq : other.name? = types.name?
  describe_eq : other.describe = types.describe
  variant?_eq : ∀ id entry, registry.factory? id = some entry → ∀ earlier runtime,
    entry.factory.variant? earlier other runtime = entry.factory.variant? earlier types runtime
  same : ∀ {memory later}, related memory later → memory.SameBesideTypes later
  argumentTypes : ∀ {callee memory later}, registry.Registered callee → related memory later →
    (callee.argumentTypes types memory).Alike related (callee.argumentTypes other later)
  learnWinner : ∀ {memory later}, related memory later → ∀ id runtime winner,
    related (memory.learnWinner id runtime winner) (later.learnWinner id runtime winner)
  countQuestion : ∀ {memory later}, related memory later → ∀ id,
    related (memory.countQuestion id) (later.countQuestion id)
  learnDispatch : ∀ {memory later}, related memory later → ∀ id runtime dispatch,
    related (memory.learnDispatch id runtime dispatch) (later.learnDispatch id runtime dispatch)
  make : ∀ {memory later}, related memory later → ∀ variant,
    related (memory.make variant).2 (later.make variant).2

namespace Registry.RunsAlike

variable {registry : Registry β} {types other : TypeService}
  {related : Memory β → Memory β → Prop} {memory later : Memory β}

/-! ### Several functions -/

/-- Making candidates is alike. -/
theorem candidatesOf (h : registry.RunsAlike types other related) {callees : List (Callee β)}
    (hcallees : ∀ callee ∈ callees, registry.Registered callee) (hmemory : related memory later) :
    (Callsite.candidatesOf types callees memory).Alike related
      (Callsite.candidatesOf other callees later) := by
  induction callees generalizing memory later with
  | nil => exact ⟨rfl, hmemory⟩
  | cons callee rest ih =>
    obtain ⟨hcallee, hrest⟩ := List.forall_mem_cons.1 hcallees
    rw [Callsite.candidatesOf, Callsite.candidatesOf]
    exact (h.argumentTypes hcallee hmemory).andThen fun _ _ hlater => (ih hrest hlater).map _

/-- Looking for a function with given types is alike. -/
theorem twin (h : registry.RunsAlike types other related) (signature : List TypeId)
    {callees : List (Callee β)} (hcallees : ∀ callee ∈ callees, registry.Registered callee)
    (hmemory : related memory later) :
    (Draft.twin types signature callees memory).Alike related
      (Draft.twin other signature callees later) := by
  induction callees generalizing memory later with
  | nil => exact ⟨rfl, hmemory⟩
  | cons callee rest ih =>
    obtain ⟨hcallee, hrest⟩ := List.forall_mem_cons.1 hcallees
    rw [Draft.twin, Draft.twin]
    refine (h.argumentTypes hcallee hmemory).andThen fun declared _ hlater => ?_
    by_cases htwin : declared = signature
    · rw [if_pos htwin, if_pos htwin]
      exact ⟨rfl, hlater⟩
    · rw [if_neg htwin, if_neg htwin]
      exact ih hrest hlater

/-- Resolving the types of several functions is alike. -/
theorem resolveAll (h : registry.RunsAlike types other related) {callees : List (Callee β)}
    (hcallees : ∀ callee ∈ callees, registry.Registered callee) (hmemory : related memory later) :
    (Draft.resolveAll types callees memory).Alike related
      (Draft.resolveAll other callees later) := by
  induction callees generalizing memory later with
  | nil => exact ⟨rfl, hmemory⟩
  | cons callee rest ih =>
    obtain ⟨hcallee, hrest⟩ := List.forall_mem_cons.1 hcallees
    rw [Draft.resolveAll, Draft.resolveAll]
    exact (h.argumentTypes hcallee hmemory).andThen fun _ _ hlater => ih hrest hlater

/-! ### Templates and factories -/

/-- Selecting an overload is alike. -/
theorem selectOverload (h : registry.RunsAlike types other related)
    (hregistry : registry.WellFormed) (template : Template) (runtime : List TypeId)
    (hmemory : related memory later) :
    (registry.selectOverload types template runtime memory).Alike related
      (registry.selectOverload other template runtime later) := by
  have hcandidates := h.candidatesOf (hregistry.registered_of_mem_membersOf template) hmemory
  rw [Registry.selectOverload, Registry.selectOverload]
  refine (hcandidates.mapError _).andThen fun candidates _ hlater => ?_
  rw [h.select_eq, h.describe_eq]
  cases select (registry.widens types) candidates runtime with
  | found winner => exact ⟨rfl, hlater⟩
  | noMatch => exact ⟨rfl, hlater⟩
  | ambiguous twins => exact ⟨rfl, hlater⟩

/-- Resolving a template is alike. -/
theorem resolveTemplate (h : registry.RunsAlike types other related)
    (hregistry : registry.WellFormed) (id : TemplateId) (runtime : List TypeId)
    (hmemory : related memory later) :
    (registry.resolveTemplate types id runtime memory).Alike related
      (registry.resolveTemplate other id runtime later) := by
  cases htemplate : registry.template? id with
  | none =>
    rw [resolveTemplate_of_template?_none htemplate, resolveTemplate_of_template?_none htemplate]
    exact ⟨rfl, hmemory⟩
  | some template =>
    have hwinner := (h.same hmemory).winner?_eq id runtime
    cases hknown : memory.winner? id runtime with
    | some winner =>
      rw [resolveTemplate_of_known htemplate hknown,
        resolveTemplate_of_known htemplate (hwinner.trans hknown)]
      exact ⟨rfl, hmemory⟩
    | none =>
      rw [resolveTemplate_of_unknown htemplate hknown,
        resolveTemplate_of_unknown htemplate (hwinner.trans hknown)]
      exact (h.selectOverload hregistry template runtime hmemory).andThen
        fun winner _ hlater => ⟨rfl, h.learnWinner hlater id runtime winner⟩

/-- Asking a factory is alike: it was asked as often before, and the dispatch has the same serial
number. -/
theorem resolveFactory (h : registry.RunsAlike types other related) (id : FactoryId)
    (runtime : List TypeId) (hmemory : related memory later) :
    (registry.resolveFactory types id runtime memory).Alike related
      (registry.resolveFactory other id runtime later) := by
  have hsame := h.same hmemory
  rw [Registry.resolveFactory, Registry.resolveFactory]
  cases hentry : registry.factory? id with
  | none => exact ⟨rfl, hmemory⟩
  | some entry =>
    dsimp only
    rw [hsame.dispatch?_eq, hsame.asked_eq, h.variant?_eq id entry hentry, h.describe_eq]
    cases memory.dispatch? id runtime with
    | some dispatch => exact ⟨rfl, hmemory⟩
    | none =>
      have hasked := h.countQuestion hmemory id
      dsimp only
      cases entry.factory.variant? (memory.asked id) types runtime with
      | none => exact ⟨rfl, hasked⟩
      | some variant =>
        have hserial : later.made = memory.made := hsame.made_eq
        refine ⟨?_, ?_⟩
        · simp only [Memory.make, Memory.countQuestion, Answer.ok, hserial]
        · have hmade := h.learnDispatch (h.make hasked variant) id runtime
            ((memory.countQuestion id).make variant).1
          simpa only [Memory.make, Memory.countQuestion, Answer.ok, hserial] using hmade

/-! ### Binding -/

/-- A layout is the same. -/
theorem layout_eq (h : registry.RunsAlike types other related) (callee : Callee β)
    (declared runtime : List TypeId) :
    callee.layout other declared runtime = callee.layout types declared runtime := by
  have hslot : ∀ given operand, callee.slot other declared runtime given operand =
      callee.slot types declared runtime given operand := by
    intro given operand
    simp only [Callee.slot, Callee.mismatch, h.fits_eq, h.describe_eq]
  simp only [Callee.layout, Callee.mismatch, hslot, h.describe_eq]

/-- Dispatching a function is alike. -/
theorem dispatch (h : registry.RunsAlike types other related) {callee : Callee β}
    (hcallee : registry.Registered callee) (runtime : List TypeId)
    (hmemory : related memory later) :
    (registry.dispatch types callee runtime memory).Alike related
      (registry.dispatch other callee runtime later) := by
  have hown : (callee.ownDispatch types runtime memory).Alike related
      (callee.ownDispatch other runtime later) := by
    rw [Callee.ownDispatch, Callee.ownDispatch]
    refine ((h.argumentTypes hcallee hmemory).mapError _).andThen fun declared _ hlater => ?_
    rw [h.layout_eq]
    cases callee.layout types declared runtime with
    | error error => exact ⟨rfl, hlater⟩
    | ok layout =>
      refine ⟨?_, h.make hlater ⟨callee.invocable, layout⟩⟩
      simp only [Memory.make, Answer.ok, (h.same hlater).made_eq]
  rw [Registry.dispatch, Registry.dispatch]
  cases callee.owner with
  | nobody => exact hown
  | struct id => exact hown
  | factory id => exact h.resolveFactory id runtime hmemory

/-- Finding the function that a call reaches is alike. -/
theorem target (h : registry.RunsAlike types other related) (hregistry : registry.WellFormed)
    (callee : Callee β) (runtime : List TypeId) (hmemory : related memory later) :
    (registry.target types callee runtime memory).Alike related
      (registry.target other callee runtime later) := by
  rw [Registry.target, Registry.target]
  cases registry.family? callee with
  | none => exact ⟨rfl, hmemory⟩
  | some template =>
    refine (h.resolveTemplate hregistry template.id runtime hmemory).andThen
      fun winner _ hlater => ?_
    cases registry.function? winner with
    | none => exact ⟨rfl, hlater⟩
    | some reached => exact ⟨rfl, hlater⟩

/-- A function runs in the same contexts. -/
theorem supportsContext_eq (h : registry.RunsAlike types other related) (callee : Callee β)
    (context : TypeId) :
    registry.supportsContext other callee context = registry.supportsContext types callee context :=
  h.fits_eq context _

/-- Binding a call is alike. -/
theorem bind (h : registry.RunsAlike types other related) (hregistry : registry.WellFormed)
    (function : FunctionIndex) (runtime : List TypeId) (context : TypeId)
    (hmemory : related memory later) :
    (registry.bind types function runtime context memory).Alike related
      (registry.bind other function runtime context later) := by
  rw [Registry.bind, Registry.bind]
  cases hcallee : registry.function? function with
  | none => exact ⟨rfl, hmemory⟩
  | some callee =>
    refine (h.target hregistry callee runtime hmemory).andThen fun reached hreached hlater => ?_
    rw [h.supportsContext_eq]
    cases registry.supportsContext types reached context with
    | true =>
      have hregistered := registered_of_target hregistry (hregistry.registered hcallee) hreached
      exact (h.dispatch hregistered runtime hlater).map _
    | false =>
      refine ⟨?_, hlater⟩
      simp only [Bool.false_eq_true, if_false, contextMismatch, h.name?_eq, Answer.fail]

/-! ### All questions -/

/-- A question about one function is alike if it is for a registered function. -/
theorem about (hregistry : registry.WellFormed) {function : FunctionIndex}
    {ask askOther : Callee β → Answer (Memory β) ResolveError (Reply β)}
    (hmemory : related memory later)
    (hask : ∀ callee, registry.Registered callee → (ask callee).Alike related (askOther callee)) :
    (registry.about function memory ask).Alike related
      (registry.about function later askOther) := by
  rw [Registry.about, Registry.about]
  cases hcallee : registry.function? function with
  | none => exact ⟨rfl, hmemory⟩
  | some callee => exact hask callee (hregistry.registered hcallee)

/-- Every question is alike. -/
theorem answerBy (h : registry.RunsAlike types other related) (hregistry : registry.WellFormed)
    (scoring : Scoring) (query : Query) (hmemory : related memory later) :
    (registry.answerBy scoring types query memory).Alike related
      (registry.answerBy scoring other query later) := by
  cases query with
  | function index => exact about hregistry hmemory fun _ _ => ⟨rfl, hmemory⟩
  | find name => exact ⟨rfl, hmemory⟩
  | argumentTypes function =>
    refine about hregistry hmemory fun callee hcallee => ?_
    exact ((h.argumentTypes hcallee hmemory).mapError _).map _
  | resolveTemplate id runtime => exact (h.resolveTemplate hregistry id runtime hmemory).map _
  | resolveFactory id runtime => exact (h.resolveFactory id runtime hmemory).map _
  | supportsContext function context =>
    refine about hregistry hmemory fun callee _ => ?_
    rw [h.supportsContext_eq]
    exact ⟨rfl, hmemory⟩
  | argumentName function operand total =>
    exact about hregistry hmemory fun _ _ => ⟨rfl, hmemory⟩
  | argument function operand total => exact about hregistry hmemory fun _ _ => ⟨rfl, hmemory⟩
  | bind function runtime context => exact (h.bind hregistry function runtime context hmemory).map _

/-- Two histories of the same questions, with services that the registry runs alike with, have the
same results and leave related memories behind. -/
theorem answerAll (hregistry : registry.WellFormed) {history others : List (TypeService × Query)}
    (hhistory : List.Forall₂ (fun step next => next.2 = step.2 ∧
      registry.RunsAlike step.1 next.1 related) history others) (hmemory : related memory later) :
    (registry.answerAll scoring others later).1 = (registry.answerAll scoring history memory).1 ∧
      related (registry.answerAll scoring history memory).2
        (registry.answerAll scoring others later).2 := by
  induction hhistory generalizing memory later with
  | nil => exact ⟨rfl, hmemory⟩
  | cons hstep _ ih =>
    rename_i step next _ _ _
    obtain ⟨service, _⟩ := step
    obtain ⟨serviceNext, query⟩ := next
    obtain ⟨rfl, halike⟩ := hstep
    have hanswer := halike.answerBy hregistry scoring query hmemory
    obtain ⟨hrest, hlast⟩ := ih hanswer.state
    rw [Registry.answerAll, Registry.answerAll]
    exact ⟨List.cons_eq_cons.2 ⟨hanswer.result_eq, hrest⟩, hlast⟩

end Registry.RunsAlike

/-! ## Differences in what is known about types -/

/-- Whether two memories differ only in the argument types that they know, and know none but those
that the texts name. -/
structure Memory.UpToTypes (registry : Registry β) (types : TypeService)
    (memory other : Memory β) : Prop extends memory.SameBesideTypes other where
  types_from : memory.TypesFrom registry types.Names
  other_from : other.TypesFrom registry types.Names

namespace Registry

variable {registry : Registry β} {types : TypeService} {memory later : Memory β}

/-- If the answers on texts never change, it makes no difference which argument types are known. -/
theorem runsAlike_of_sameTexts (hstable : types.Stable) {service : TypeService}
    (hsame : types.SameTexts service) :
    registry.RunsAlike service service (Memory.UpToTypes registry types) where
  fits_eq _ _ := rfl
  select_eq _ _ := rfl
  name?_eq := rfl
  describe_eq := rfl
  variant?_eq _ _ _ _ _ := rfl
  same h := h.toSameBesideTypes
  argumentTypes {callee memory later} hcallee h := by
    have hlearns : ∀ memory : Memory β, ReflTransGen (registry.LearnsTypes service) memory
        (callee.argumentTypes service memory).state := fun _ =>
      Callee.argumentTypes_learns hcallee
    have hresult : ∀ memory : Memory β, memory.TypesFrom registry types.Names →
        (callee.argumentTypes service memory).result = callee.signature service := by
      intro memory hmemory
      rw [← hsame.names_eq] at hmemory
      exact Callee.result_argumentTypes (hsame.stable hstable) hcallee hmemory
    have hanswers := hsame.answersWithin hstable
    refine ⟨by rw [hresult _ h.types_from, hresult _ h.other_from], ?_,
      typesFrom_learnsTypes hanswers (hlearns memory) h.types_from,
      typesFrom_learnsTypes hanswers (hlearns later) h.other_from⟩
    exact ((sameBesideTypes_of_learnsTypes (hlearns memory)).symm.trans h.toSameBesideTypes).trans
      (sameBesideTypes_of_learnsTypes (hlearns later))
  learnWinner h id runtime winner :=
    ⟨h.toSameBesideTypes.learnWinner id runtime winner, h.types_from, h.other_from⟩
  countQuestion h id := ⟨h.toSameBesideTypes.countQuestion id, h.types_from, h.other_from⟩
  learnDispatch h id runtime dispatch :=
    ⟨h.toSameBesideTypes.learnDispatch id runtime dispatch, h.types_from, h.other_from⟩
  make h variant := ⟨h.toSameBesideTypes.make variant, h.types_from, h.other_from⟩

end Registry

end Callsite
