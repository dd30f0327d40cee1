import Callsite.Proofs.Memory.Winners

/-!
# What is remembered cannot be observed

A memory is coherent if everything in it is what working it out again gives: the types that the
texts name, the overload that is selected by them, and the variant that the factory has for the
operand types. Every step keeps this if the services answer alike and the factories do too, however
often they are asked (`Registry.Alike`). On two coherent memories every question has the same
result, the serial numbers of dispatches apart, so that no result tells what was asked before.
-/

namespace Callsite

open Relation (ReflTransGen)

variable {β : Type} {scoring : Scoring}

/-! ## Coherent memories -/

/-- Whether another service answers like the first one on texts and on refinement, and the factories
of the registry answer the other service as they answer the first one at the first time. -/
structure Registry.Alike (registry : Registry β) (types other : TypeService) : Prop where
  same_texts : types.SameTexts other
  isSubtype_eq : ∀ candidate required,
    other.isSubtype candidate required = types.isSubtype candidate required
  variant?_eq : ∀ id entry, registry.factory? id = some entry → ∀ earlier runtime,
    entry.factory.variant? earlier other runtime = entry.factory.variant? 0 types runtime

/-- Whether the factories of a registry answer at all times as they do at the first. -/
def Registry.Steady (registry : Registry β) (types : TypeService) : Prop :=
  ∀ id entry, registry.factory? id = some entry → ∀ earlier runtime,
    entry.factory.variant? earlier types runtime = entry.factory.variant? 0 types runtime

/-- Whether everything that is remembered is what working it out again gives. -/
structure Memory.Coherent (registry : Registry β) (types : TypeService) (memory : Memory β) :
    Prop where
  types_from : memory.TypesFrom registry types.Names
  winner : ∀ id runtime winner, memory.winner? id runtime = some winner →
    ∃ template candidates, registry.template? id = some template ∧
      List.Forall₂ (Callee.IsCandidate types.Names) (registry.membersOf template) candidates ∧
        select (registry.widens types) candidates runtime = .found winner
  dispatch : ∀ id runtime dispatch, memory.dispatch? id runtime = some dispatch →
    ∃ entry, registry.factory? id = some entry ∧
      entry.factory.variant? 0 types runtime = some dispatch.toVariant

namespace Registry.Alike

variable {registry : Registry β} {types other : TypeService}

/-- Services that answer alike have the same types. -/
theorem sameTypes (h : registry.Alike types other) : types.SameTypes other :=
  ⟨h.same_texts, h.isSubtype_eq⟩

/-- Factories that answer a service as they did at first are steady with it. -/
theorem steady (h : registry.Alike types other) : registry.Steady other := by
  intro id entry hentry earlier runtime
  rw [h.variant?_eq id entry hentry, h.variant?_eq id entry hentry]

/-- A memory that is coherent with a service is so with every service that answers alike. -/
theorem coherent (h : registry.Alike types other) {memory : Memory β}
    (hmemory : memory.Coherent registry types) : memory.Coherent registry other := by
  refine ⟨?types, Memory.WinnersSelected.sameTypes h.sameTypes hmemory.winner, ?dispatch⟩
  case types =>
    rw [h.same_texts.names_eq]
    exact hmemory.types_from
  case dispatch =>
    intro id runtime dispatch hdispatch
    obtain ⟨entry, hentry, hvariant⟩ := hmemory.dispatch id runtime dispatch hdispatch
    exact ⟨entry, hentry, by rw [h.variant?_eq id entry hentry, hvariant]⟩

end Registry.Alike

namespace Memory.Coherent

variable {registry : Registry β} {types : TypeService}

/-- A memory that was asked nothing is coherent if the types that it knows are. -/
theorem of_unasked {memory : Memory β} (htypes : memory.TypesFrom registry types.Names)
    (hunasked : memory.Unasked) : memory.Coherent registry types := by
  refine ⟨htypes, ?_, ?_⟩
  · intro id runtime winner hwinner
    exact absurd hwinner (by simp [hunasked.winner?_eq_none])
  · intro id runtime dispatch hdispatch
    exact absurd hdispatch (by simp [hunasked.dispatch?_eq_none])

/-- The empty memory is coherent. -/
theorem fresh (n : Nat) : (Memory.fresh n).Coherent registry types :=
  of_unasked (typesFrom_fresh registry types.Names n) (unasked_fresh n)

/-- Every step keeps a memory coherent if the service of the step answers like the first one. -/
theorem learns (hregistry : registry.WellFormed) (hstable : types.Stable) {other : TypeService}
    (halike : registry.Alike types other) {memory later : Memory β}
    (h : registry.Learns other memory later) (hmemory : memory.Coherent registry types) :
    later.Coherent registry types := by
  refine ⟨h.typesFrom (halike.same_texts.answersWithin hstable) hmemory.types_from,
    h.winnersSelected hregistry halike.sameTypes hmemory.types_from hmemory.winner, ?_⟩
  cases h with
  | types hstep =>
    intro id runtime
    rw [Registry.dispatch?_eq_of_learnsTypes (.single hstep)]
    exact hmemory.dispatch id runtime
  | winner => exact hmemory.dispatch
  | refused => exact hmemory.dispatch
  | dispatched hentry hnew hvariant =>
    rename_i id entry runtime variant
    intro id' runtime' dispatch hdispatch
    rcases Memory.dispatch?_learnDispatch_cases hdispatch with hold | ⟨rfl, rfl, rfl⟩
    · exact hmemory.dispatch id' runtime' dispatch hold
    -- the factory was asked at a later time and by another service, but answered as at first
    · rw [halike.variant?_eq _ entry hentry] at hvariant
      exact ⟨entry, hentry, hvariant⟩
  | made => exact hmemory.dispatch

end Memory.Coherent

/-! ## Results, serial numbers apart -/

/-- A dispatch without its serial number: the code and the layout that are run. -/
def Dispatch.unnumbered (dispatch : Dispatch β) : Dispatch β :=
  { dispatch with serial := 0 }

/-- A binding whose dispatch has no serial number. -/
def Binding.unnumbered (binding : Binding β) : Binding β :=
  { binding with dispatch := binding.dispatch.unnumbered }

/-- An answer in which no dispatch has a serial number. -/
def Reply.unnumbered : Reply β → Reply β
  | .dispatch found => .dispatch found.unnumbered
  | .binding found => .binding found.unnumbered
  | reply => reply

/-- Results that agree under a map still do after maps that fit together with it. -/
theorem map_map_congr {ε α α' γ γ' : Type} {x y : Except ε α} {f : α → γ} {g : α → α'}
    {g' : γ → γ'} (f' : α' → γ') (h : x.map g = y.map g)
    (hcomm : ∀ value, g' (f value) = f' (g value)) : (x.map f).map g' = (y.map f).map g' := by
  cases x with
  | error error =>
    cases y with
    | error other =>
      obtain rfl := Except.error.inj h
      rfl
    | ok value => exact absurd h (by simp [Except.map])
  | ok value =>
    cases y with
    | error other => exact absurd h (by simp [Except.map])
    | ok other =>
      have hvalues : g value = g other := Except.ok.inj h
      show Except.ok (g' (f value)) = Except.ok (g' (f other))
      rw [hcomm, hcomm, hvalues]

namespace Registry

variable {registry : Registry β} {types : TypeService} {memory other : Memory β}

/-- Selecting an overload gives the same result whatever argument types are remembered. -/
theorem result_selectOverload (h : registry.WellFormed) (hstable : types.Stable)
    (hmemory : memory.TypesFrom registry types.Names)
    (hother : other.TypesFrom registry types.Names) (template : Template)
    (runtime : List TypeId) :
    (registry.selectOverload types template runtime memory).result =
      (registry.selectOverload types template runtime other).result := by
  rw [selectOverload, selectOverload]
  refine Answer.result_andThen_congr id ?_ fun candidates _ => ?_
  · have hcandidates := result_candidatesOf hstable
      (h.registered_of_mem_membersOf template) hmemory hother
    rw [Answer.result_mapError, Answer.result_mapError, hcandidates]
  · cases select (registry.widens types) candidates runtime <;> rfl

/-- Resolving a template gives the same result on coherent memories. -/
theorem result_resolveTemplate (h : registry.WellFormed) (hstable : types.Stable)
    (hmemory : memory.Coherent registry types) (hother : other.Coherent registry types)
    (id : TemplateId) (runtime : List TypeId) :
    (registry.resolveTemplate types id runtime memory).result =
      (registry.resolveTemplate types id runtime other).result := by
  cases htemplate : registry.template? id with
  | none =>
    rw [resolveTemplate_of_template?_none htemplate, resolveTemplate_of_template?_none htemplate]
    rfl
  | some template =>
    rw [result_resolveTemplate_eq h hstable hmemory.types_from hmemory.winner htemplate,
      result_resolveTemplate_eq h hstable hother.types_from hother.winner htemplate]
    exact result_selectOverload h hstable hmemory.types_from hother.types_from template runtime

/-- Finding the function that a call reaches gives the same result on coherent memories. -/
theorem result_target (h : registry.WellFormed) (hstable : types.Stable)
    (hmemory : memory.Coherent registry types) (hother : other.Coherent registry types)
    (callee : Callee β) (runtime : List TypeId) :
    (registry.target types callee runtime memory).result =
      (registry.target types callee runtime other).result := by
  rw [target, target]
  cases registry.family? callee with
  | none => rfl
  | some template =>
    refine Answer.result_andThen_congr id
      (result_resolveTemplate h hstable hmemory hother template.id runtime) fun winner _ => ?_
    cases registry.function? winner <;> rfl

/-- A factory's dispatch is the variant that the factory has for the operand types, remembered or
not. -/
theorem result_resolveFactory_eq (hsteady : registry.Steady types)
    (hmemory : memory.Coherent registry types) {id : FactoryId} {entry : FactoryEntry β}
    (hentry : registry.factory? id = some entry) (runtime : List TypeId) :
    (registry.resolveFactory types id runtime memory).result.map Dispatch.unnumbered =
      match entry.factory.variant? 0 types runtime with
      | none => .error (.unsupported entry.factory.name (types.describe runtime))
      | some variant => .ok ⟨variant, 0⟩ := by
  rw [resolveFactory, hentry]
  dsimp only
  cases hknown : memory.dispatch? id runtime with
  | some dispatch =>
    obtain ⟨found, hfound, hvariant⟩ := hmemory.dispatch id runtime dispatch hknown
    obtain rfl := Option.some.inj (hentry.symm.trans hfound)
    rw [hvariant]
    rfl
  | none =>
    dsimp only
    rw [hsteady id entry hentry]
    cases entry.factory.variant? 0 types runtime <;> rfl

/-- Asking a factory gives the same result on coherent memories. -/
theorem result_resolveFactory (hsteady : registry.Steady types)
    (hmemory : memory.Coherent registry types) (hother : other.Coherent registry types)
    (id : FactoryId) (runtime : List TypeId) :
    (registry.resolveFactory types id runtime memory).result.map Dispatch.unnumbered =
      (registry.resolveFactory types id runtime other).result.map Dispatch.unnumbered := by
  cases hentry : registry.factory? id with
  | none =>
    rw [resolveFactory, resolveFactory, hentry]
    rfl
  | some entry =>
    rw [result_resolveFactory_eq hsteady hmemory hentry,
      result_resolveFactory_eq hsteady hother hentry]

/-- Dispatching a function's own code gives the same result whatever argument types are
remembered. -/
theorem result_ownDispatch (hstable : types.Stable) {callee : Callee β}
    (hcallee : registry.Registered callee) (hmemory : memory.TypesFrom registry types.Names)
    (hother : other.TypesFrom registry types.Names) (runtime : List TypeId) :
    (callee.ownDispatch types runtime memory).result.map Dispatch.unnumbered =
      (callee.ownDispatch types runtime other).result.map Dispatch.unnumbered := by
  rw [Callee.ownDispatch, Callee.ownDispatch]
  refine Answer.result_andThen_congr (·.map Dispatch.unnumbered) ?_ fun declared _ => ?_
  · rw [Answer.result_mapError, Answer.result_mapError,
      Callee.result_argumentTypes hstable hcallee hmemory,
      Callee.result_argumentTypes hstable hcallee hother]
  · cases callee.layout types declared runtime <;> rfl

/-- Dispatching a function gives the same result on coherent memories. -/
theorem result_dispatch (hstable : types.Stable) (hsteady : registry.Steady types)
    {callee : Callee β} (hcallee : registry.Registered callee)
    (hmemory : memory.Coherent registry types) (hother : other.Coherent registry types)
    (runtime : List TypeId) :
    (registry.dispatch types callee runtime memory).result.map Dispatch.unnumbered =
      (registry.dispatch types callee runtime other).result.map Dispatch.unnumbered := by
  rw [dispatch, dispatch]
  split
  · exact result_resolveFactory hsteady hmemory hother _ runtime
  · exact result_ownDispatch hstable hcallee hmemory.types_from hother.types_from runtime
  · exact result_ownDispatch hstable hcallee hmemory.types_from hother.types_from runtime

/-- A coherent memory is still coherent after any steps with the same service. -/
theorem coherent_of_learns (h : registry.WellFormed) (hstable : types.Stable)
    (hsteady : registry.Steady types) {later : Memory β}
    (hlearns : ReflTransGen (registry.Learns types) memory later)
    (hmemory : memory.Coherent registry types) : later.Coherent registry types := by
  have halike : registry.Alike types types := ⟨fun _ _ => rfl, fun _ _ => rfl, hsteady⟩
  exact learns_induction hlearns hmemory
    fun _ _ hstep => Memory.Coherent.learns h hstable halike hstep

/-- Binding a call gives the same result on coherent memories. -/
theorem result_bind (h : registry.WellFormed) (hstable : types.Stable)
    (hsteady : registry.Steady types) (hmemory : memory.Coherent registry types)
    (hother : other.Coherent registry types) (function : FunctionIndex) (runtime : List TypeId)
    (context : TypeId) :
    (registry.bind types function runtime context memory).result.map Binding.unnumbered =
      (registry.bind types function runtime context other).result.map Binding.unnumbered := by
  rw [bind, bind]
  cases hcallee : registry.function? function with
  | none => rfl
  | some callee =>
    refine Answer.result_andThen_congr (·.map Binding.unnumbered)
      (result_target h hstable hmemory hother callee runtime) fun reached hreached => ?_
    split
    · have hregistered := registered_of_target h (h.registered hcallee) hreached
      have hdispatch := result_dispatch hstable hsteady hregistered
        (coherent_of_learns h hstable hsteady (target_learns h callee runtime) hmemory)
        (coherent_of_learns h hstable hsteady (target_learns h callee runtime) hother) runtime
      rw [Answer.result_map, Answer.result_map]
      exact map_map_congr (⟨reached.index, ·⟩) hdispatch fun _ => rfl
    · rfl

/-- A question about one function has results that agree if they do for a registered function. -/
theorem result_about (h : registry.WellFormed) {function : FunctionIndex}
    {ask askOther : Callee β → Answer (Memory β) ResolveError (Reply β)}
    (hask : ∀ callee, registry.Registered callee →
      (ask callee).result.map Reply.unnumbered = (askOther callee).result.map Reply.unnumbered) :
    (registry.about function memory ask).result.map Reply.unnumbered =
      (registry.about function other askOther).result.map Reply.unnumbered := by
  rw [about, about]
  cases hcallee : registry.function? function with
  | none => rfl
  | some callee => exact hask callee (h.registered hcallee)

/-- Every question has the same result on coherent memories, serial numbers of dispatches apart. -/
theorem result_answerBy (h : registry.WellFormed) (hstable : types.Stable)
    (hsteady : registry.Steady types) (hmemory : memory.Coherent registry types)
    (hother : other.Coherent registry types) (scoring : Scoring) (query : Query) :
    (registry.answerBy scoring types query memory).result.map Reply.unnumbered =
      (registry.answerBy scoring types query other).result.map Reply.unnumbered := by
  cases query with
  | function index =>
    rw [answerBy, answerBy]
    exact result_about h fun _ _ => rfl
  | find name => rfl
  | argumentTypes function =>
    rw [answerBy, answerBy]
    refine result_about h fun callee hcallee => ?_
    rw [Answer.result_map, Answer.result_map, Answer.result_mapError, Answer.result_mapError,
      Callee.result_argumentTypes hstable hcallee hmemory.types_from,
      Callee.result_argumentTypes hstable hcallee hother.types_from]
  | resolveTemplate id runtime =>
    have hwinner := result_resolveTemplate h hstable hmemory hother id runtime
    rw [answerBy, answerBy, Answer.result_map, Answer.result_map, hwinner]
  | resolveFactory id runtime =>
    have hdispatch := result_resolveFactory hsteady hmemory hother id runtime
    rw [answerBy, answerBy, Answer.result_map, Answer.result_map]
    exact map_map_congr .dispatch hdispatch fun _ => rfl
  | supportsContext function context =>
    rw [answerBy, answerBy]
    exact result_about h fun _ _ => rfl
  | argumentName function operand total =>
    rw [answerBy, answerBy]
    exact result_about h fun _ _ => rfl
  | argument function operand total =>
    rw [answerBy, answerBy]
    exact result_about h fun _ _ => rfl
  | bind function runtime context =>
    have hbinding := result_bind h hstable hsteady hmemory hother function runtime context
    rw [answerBy, answerBy, Answer.result_map, Answer.result_map]
    exact map_map_congr .binding hbinding fun _ => rfl

/-- On a coherent memory the results of a history of questions are those that each question has on
the empty memory. -/
theorem results_answerAll (h : registry.WellFormed) (hstable : types.Stable)
    (hmemory : memory.Coherent registry types) {history : List (TypeService × Query)}
    (halike : ∀ step ∈ history, registry.Alike types step.1) (n : Nat) :
    (registry.answerAll scoring history memory).1.map (·.map Reply.unnumbered) =
      history.map fun step =>
        (registry.answerBy scoring step.1 step.2 (.fresh n)).result.map Reply.unnumbered := by
  induction history generalizing memory with
  | nil => rfl
  | cons step rest ih =>
    obtain ⟨service, query⟩ := step
    obtain ⟨hfirst, hlater_alike⟩ := List.forall_mem_cons.1 halike
    have hresult := result_answerBy h (hfirst.same_texts.stable hstable) hfirst.steady
      (hfirst.coherent hmemory) (Memory.Coherent.fresh n) scoring query
    have hlater : (registry.answerBy scoring service query memory).state.Coherent registry types :=
      learns_induction (answerBy_learns h query) hmemory
        fun _ _ hstep => Memory.Coherent.learns h hstable hfirst hstep
    have hrest := ih hlater hlater_alike
    rw [answerAll, List.map_cons, List.map_cons, hresult, hrest]

/-- A memory is coherent when a registry is opened and after every history of questions. -/
theorem Opened.coherent_answerAll (h : registry.Opened types memory) (hstable : types.Stable)
    {history : List (TypeService × Query)}
    (halike : ∀ step ∈ history, registry.Alike types step.1) :
    (registry.answerAll scoring history memory).2.Coherent registry types := by
  refine answerAll_induction (motive := fun memory => memory.Coherent registry types) h.wellFormed
    (.of_unasked (h.typesFrom hstable.answersWithin) h.unasked) ?_
  intro step hstep memory later hlearns
  exact Memory.Coherent.learns h.wellFormed hstable (halike step hstep) hlearns

end Registry

/-! ## Every history -/

/-- What a registry remembers cannot be observed. If the services of all times answer alike on texts
and on refinement, and each factory answers alike at all times, then after every history of
registrations and of questions, failed ones included, the tables are those of the draft, and each
question had the result that it has on these tables when nothing is remembered. -/
theorem memory_unobservable {types : TypeService} {settings : Settings} {start : Draft β}
    (hstart : Draft.start types settings = .ok start) (registrations : List (Registration β))
    {registry : Registry β} {opened : Memory β}
    (hfreeze : (start.applyAll types registrations).freeze types = ⟨.ok registry, opened⟩)
    (hstable : types.Stable) {history : List (TypeService × Query)}
    (halike : ∀ step ∈ history, registry.Alike types step.1) (scoring : Scoring) (n : Nat) :
    registry = (start.applyAll types registrations).registry ∧
      (registry.answerAll scoring history opened).1.map (·.map Reply.unnumbered) =
        history.map fun step => ((start.applyAll types registrations).registry.answerBy scoring
          step.1 step.2 (.fresh n)).result.map Reply.unnumbered := by
  have hopened : registry.Opened types opened :=
    ⟨settings, start, registrations, hstart, hfreeze⟩
  have htables := Draft.freeze_eq_ok (congrArg Answer.result hfreeze)
  have hcoherent : opened.Coherent registry types :=
    .of_unasked (hopened.typesFrom hstable.answersWithin) hopened.unasked
  refine ⟨htables, ?_⟩
  rw [← htables]
  exact Registry.results_answerAll hopened.wellFormed hstable hcoherent halike n

namespace Sample

/-- A call of an overload and one of a factory, each bound twice, and a call with too few operands
in between. -/
def questions : List (TypeService × Query) :=
  [(types, .bind ⟨0⟩ [⟨1⟩, ⟨1⟩] ⟨3⟩), (types, .bind ⟨2⟩ [⟨1⟩, ⟨2⟩] ⟨4⟩), (types, .bind ⟨3⟩ [] ⟨3⟩),
    (types, .bind ⟨2⟩ [⟨1⟩, ⟨2⟩] ⟨4⟩), (types, .bind ⟨0⟩ [⟨1⟩, ⟨1⟩] ⟨3⟩)]

/-- All sample questions are put to the sample service. -/
theorem service_of_mem_questions : ∀ step ∈ questions, step.1 = types := by
  intro step hstep
  simp only [questions, List.mem_cons, List.not_mem_nil, or_false] at hstep
  rcases hstep with rfl | rfl | rfl | rfl | rfl <;> rfl

/-- The sample service answers like itself, and the only factory of the sample registry does not
count the questions put to it. -/
theorem alike : draft.registry.Alike types types := by
  refine ⟨fun _ _ => rfl, fun _ _ => rfl, ?_⟩
  have hfactories : draft.registry.factories = [⟨⟨0⟩, pairing, some ⟨4⟩⟩] := by rfl
  intro id entry hentry earlier runtime
  have hmem : entry ∈ draft.registry.factories := List.mem_of_getElem? hentry
  rw [hfactories, List.mem_singleton] at hmem
  rw [hmem]
  rfl

end Sample

/-- In the sample registry calls that are bound twice and a call that fails have the results that
they have when nothing is remembered. -/
theorem memory_unobservable_when_repeated :
    Sample.draft.freeze Sample.types = ⟨.ok Sample.draft.registry, Sample.opened⟩ ∧
      Sample.types.Stable ∧
        (∀ step ∈ Sample.questions, Sample.draft.registry.Alike Sample.types step.1) ∧
        (Sample.draft.registry.answerAll .jaroWinkler Sample.questions Sample.opened).1.map
            (·.map Reply.unnumbered) =
          Sample.questions.map fun step => (Sample.draft.registry.answer step.1 step.2
            (.fresh 0)).result.map Reply.unnumbered := by
  have halike : ∀ step ∈ Sample.questions, Sample.draft.registry.Alike Sample.types step.1 := by
    intro step hstep
    have htypes : step.1 = Sample.types := by
      simp only [Sample.questions, List.mem_cons, List.not_mem_nil, or_false] at hstep
      rcases hstep with rfl | rfl | rfl | rfl | rfl <;> rfl
    rw [htypes]
    exact Sample.alike
  have hstable : Sample.types.Stable := Catalog.service_stable _
  exact ⟨Sample.freeze_draft, hstable, halike, (memory_unobservable Sample.start_eq
    Sample.history Sample.freeze_draft hstable halike .jaroWinkler 0).2⟩

end Callsite
