import Callsite.Proofs.Access.Registering
import Callsite.Proofs.Binding.Failures

/-!
# Answering by direct accesses

A registry answers from keys that its tables and its memory hold: the key of a name, the members of
a template, a winner that is remembered, the types that are known of a function. All of them are
looked up directly, and no history of questions has a fault (`Direct.answerAll_eq_ok`), for a memory
fits the tables at every time (`Memory.Fits`), whatever the services answer.
-/

namespace Callsite

variable {β : Type} {scoring : Scoring}

/-! ## Memories that fit the tables -/

namespace Registry

variable {registry : Registry β} {types : TypeService} {memory : Memory β}

/-- Argument types that are found are one for each argument, if the memory fits the tables. -/
theorem length_of_argumentTypes (hmemory : memory.Fits registry) {callee : Callee β}
    (hcallee : registry.Registered callee) {declared : List TypeId}
    (h : (callee.argumentTypes types memory).result = .ok declared) :
    declared.length = callee.arguments.length := by
  have hlater : (callee.argumentTypes types memory).state.TypesFrom registry fun _ _ => True :=
    typesFrom_learnsTypes (fun _ _ _ _ => trivial) (Callee.argumentTypes_learns hcallee)
      hmemory.types
  obtain ⟨other, hother, htyped⟩ := hlater _ _ (Callee.types?_argumentTypes h)
  obtain rfl := Option.some.inj (hcallee.symm.trans hother)
  exact htyped.length_eq.symm

/-- The function that a winner stands for. -/
def reach (registry : Registry β) (winner : FunctionIndex) (memory : Memory β) :
    Answer (Memory β) ResolveError (Callee β) :=
  match registry.function? winner with
  | some reached => .ok reached memory
  | none => .fail (.unknownFunction winner) memory

/-- A winner that is reached has its own key. -/
theorem map_andThen_reach (h : registry.WellFormed) {γ : Type} (f : FunctionIndex → γ)
    {answer : Answer (Memory β) ResolveError FunctionIndex}
    (hanswer : ∀ winner, answer.result = .ok winner →
      ∃ reached, registry.function? winner = some reached) :
    (answer.andThen registry.reach).map (fun reached => f reached.index) = answer.map f := by
  obtain ⟨result, state⟩ := answer
  cases result with
  | error failure => rfl
  | ok winner =>
    obtain ⟨reached, hreached⟩ := hanswer winner rfl
    rw [Answer.andThen_ok, reach, hreached]
    dsimp only
    rw [Answer.ok, Answer.map, Answer.map, Except.map, Except.map, h.function_index hreached]

/-- An overload that a template resolves to is a function. -/
theorem exists_function?_of_resolveTemplate (h : registry.WellFormed)
    (hmemory : memory.Fits registry) {id : TemplateId} {runtime : List TypeId}
    {winner : FunctionIndex}
    (hwinner : (registry.resolveTemplate types id runtime memory).result = .ok winner) :
    ∃ reached, registry.function? winner = some reached := by
  cases htemplate : registry.template? id with
  | none =>
    rw [resolveTemplate_of_template?_none htemplate] at hwinner
    exact absurd hwinner (by simp [Answer.fail])
  | some template =>
    exact h.exists_function?_of_mem_members htemplate winner
      (mem_members_of_resolveTemplate h hmemory.winners htemplate hwinner)

end Registry

namespace Direct

variable {registry : Registry β} {types : TypeService} {memory : Memory β}

/-! ## Names -/

/-- The function with a name, or the closest name. -/
def find (scoring : Scoring) (registry : Registry β) (name : String) :
    Except Fault (Except ResolveError (Callee β)) :=
  match registry.named? name with
  | some index => do return .ok (← functionAt registry index)
  | none => .ok (.error (.notFound name (registry.suggestBy scoring.score scoring.floor name)))

/-- The name of an operand of a function. -/
def argumentName (registry : Registry β) (callee : Callee β) (operand total : Nat) :
    Except Fault (Except ResolveError String) :=
  match registry.factoryArgumentName? callee operand total with
  | some name => .ok (.ok name)
  | none => do
    return (← argumentForOperand callee.name callee.arguments operand total).map (·.name)

/-- A name is looked up without a fault, for names stand for functions. -/
theorem find_eq_ok (h : registry.WellFormed) (name : String) :
    ∃ found, find scoring registry name = .ok found ∧
      found.map (·.index) = registry.find scoring name := by
  rw [find, Registry.find, Registry.findBy]
  cases hnamed : registry.named? name with
  | none => exact ⟨_, rfl, rfl⟩
  | some index =>
    obtain ⟨callee, hcallee, _⟩ := (h.named_iff name index).1 hnamed
    have haccess : functionAt registry index = .ok callee := entry_eq_ok_iff.2 hcallee
    dsimp only
    rw [haccess, ok_bind]
    exact ⟨_, rfl, congrArg Except.ok (h.function_index hcallee)⟩

/-- An operand is named without a fault, whatever the function is. -/
theorem argumentName_eq_ok (registry : Registry β) (callee : Callee β) (operand total : Nat) :
    argumentName registry callee operand total =
      .ok (registry.argumentName callee operand total) := by
  rw [argumentName, Registry.argumentName]
  cases registry.factoryArgumentName? callee operand total with
  | some name => rfl
  | none =>
    dsimp only
    rw [argumentForOperand_eq_ok, ok_bind]
    rfl

/-! ## Templates -/

/-- The members of a template as candidates, each with its argument types. -/
def candidatesOf (registry : Registry β) (types : TypeService) :
    List FunctionIndex → Memory β →
      Except Fault (Answer (Memory β) ResolveError (List Candidate))
  | [], memory => .ok (.ok [] memory)
  | member :: rest, memory => do
    let callee ← functionAt registry member
    andThen ((callee.argumentTypes types memory).mapError .unknownType) fun declared memory => do
      return (← candidatesOf registry types rest memory).map (⟨member, declared⟩ :: ·)

/-- Selects an overload of a template. -/
def selectOverload (registry : Registry β) (types : TypeService) (template : Template)
    (runtime : List TypeId) (memory : Memory β) :
    Except Fault (Answer (Memory β) ResolveError FunctionIndex) := do
  andThen (← candidatesOf registry types template.members memory) fun candidates memory =>
    match select (registry.widens types) candidates runtime with
    | .found winner => .ok (.ok winner memory)
    | .noMatch => .ok (.fail (.noMatch template.name (types.describe runtime)) memory)
    | .ambiguous twins => do
      let found ← twins.mapM (functionAt registry)
      return .fail (.ambiguous template.name (types.describe runtime) (found.map (·.name))) memory

/-- The overload of a template that takes operands of the given types, as a function. -/
def resolveTemplate (registry : Registry β) (types : TypeService) (id : TemplateId)
    (runtime : List TypeId) (memory : Memory β) :
    Except Fault (Answer (Memory β) ResolveError (Callee β)) :=
  match registry.template? id with
  | none => .ok (.fail (.unknownTemplate id) memory)
  | some template =>
    match memory.winner? id runtime with
    | some winner => do return .ok (← functionAt registry winner) memory
    | none => do
      andThen (← selectOverload registry types template runtime memory) fun winner memory => do
        return .ok (← functionAt registry winner) (memory.learnWinner id runtime winner)

/-- Functions are looked up without a fault by keys that have functions. -/
theorem mapM_functionAt_eq_ok {indices : List FunctionIndex}
    (h : ∀ index ∈ indices, ∃ callee, registry.function? index = some callee) :
    indices.mapM (functionAt registry) = .ok (indices.filterMap registry.function?) := by
  induction indices with
  | nil => rfl
  | cons index rest ih =>
    obtain ⟨⟨callee, hcallee⟩, hrest⟩ := List.forall_mem_cons.1 h
    have haccess : functionAt registry index = .ok callee := entry_eq_ok_iff.2 hcallee
    rw [List.mapM_cons, haccess, ok_bind, ih hrest, ok_bind, List.filterMap_cons_some hcallee]
    rfl

/-- Members that are functions are made candidates without a fault. -/
theorem candidatesOf_eq_ok (h : registry.WellFormed) {members : List FunctionIndex}
    (hmembers : ∀ member ∈ members, ∃ callee, registry.function? member = some callee)
    (memory : Memory β) :
    candidatesOf registry types members memory =
      .ok ((Callsite.candidatesOf types (members.filterMap registry.function?)
        memory).mapError .unknownType) := by
  induction members generalizing memory with
  | nil => rfl
  | cons member rest ih =>
    obtain ⟨⟨callee, hcallee⟩, hrest⟩ := List.forall_mem_cons.1 hmembers
    have haccess : functionAt registry member = .ok callee := entry_eq_ok_iff.2 hcallee
    rw [candidatesOf, haccess, ok_bind, List.filterMap_cons_some hcallee, Callsite.candidatesOf,
      Answer.mapError_andThen]
    refine andThen_eq_ok fun declared _ => ?_
    rw [ih hrest, ok_bind, Answer.mapError_map, h.function_index hcallee]
    rfl

/-- The members of a template are selected from without a fault. -/
theorem selectOverload_eq_ok (h : registry.WellFormed) {id : TemplateId} {template : Template}
    (htemplate : registry.template? id = some template) (runtime : List TypeId)
    (memory : Memory β) :
    selectOverload registry types template runtime memory =
      .ok (registry.selectOverload types template runtime memory) := by
  have hmembers := h.exists_function?_of_mem_members htemplate
  rw [selectOverload, candidatesOf_eq_ok h hmembers, ok_bind, Registry.selectOverload]
  refine andThen_eq_ok fun candidates hcandidates => ?_
  cases hselect : select (registry.widens types) candidates runtime with
  | found winner => rfl
  | noMatch => rfl
  | ambiguous twins =>
    -- twins are candidates, and these are made of the members
    have hknows := candidatesOf_knows (h.registered_of_mem_membersOf template)
      (Answer.result_mapError_eq_ok.1 hcandidates)
    have htwins : ∀ twin ∈ twins, ∃ callee, registry.function? twin = some callee := by
      intro twin htwin
      obtain ⟨candidate, hmem, rfl⟩ := exists_mem_of_select_ambiguous hselect twin htwin
      exact hmembers _ (Registry.function_mem_members_of_knows h hknows hmem)
    dsimp only
    rw [mapM_functionAt_eq_ok htwins, ok_bind, Registry.namesOf, ← List.map_filterMap]
    rfl

/-- A template is resolved without a fault, if the memory fits the tables. -/
theorem resolveTemplate_eq_ok (h : registry.WellFormed) (hmemory : memory.Fits registry)
    (id : TemplateId) (runtime : List TypeId) :
    resolveTemplate registry types id runtime memory =
      .ok ((registry.resolveTemplate types id runtime memory).andThen registry.reach) := by
  have haccess : ∀ {template : Template}, registry.template? id = some template →
      ∀ winner ∈ template.members, ∀ later : Memory β, ∃ reached,
        functionAt registry winner = .ok reached ∧
          registry.reach winner later = .ok reached later := by
    intro template htemplate winner hmember later
    obtain ⟨reached, hreached⟩ := h.exists_function?_of_mem_members htemplate winner hmember
    exact ⟨reached, entry_eq_ok_iff.2 hreached, by rw [Registry.reach, hreached]⟩
  rw [resolveTemplate]
  cases htemplate : registry.template? id with
  | none =>
    rw [Registry.resolveTemplate_of_template?_none htemplate]
    rfl
  | some template =>
    cases hknown : memory.winner? id runtime with
    | some winner =>
      obtain ⟨other, hother, hmember⟩ := hmemory.winners id runtime winner hknown
      obtain ⟨reached, hfound, hreach⟩ := haccess hother winner hmember memory
      rw [Registry.resolveTemplate_of_known htemplate hknown, Answer.ok, Answer.andThen_ok, hreach]
      dsimp only
      rw [hfound, ok_bind]
      rfl
    | none =>
      rw [Registry.resolveTemplate_of_unknown htemplate hknown, Answer.andThen_assoc]
      dsimp only
      rw [selectOverload_eq_ok h htemplate, ok_bind]
      refine andThen_eq_ok fun winner hwinner => ?_
      obtain ⟨candidates, hcandidates, hselect⟩ := Registry.selectOverload_eq_ok.1 hwinner
      have hknows := candidatesOf_knows (h.registered_of_mem_membersOf template) hcandidates
      obtain ⟨candidate, hmem, rfl⟩ := exists_mem_of_select hselect
      have hmember := Registry.function_mem_members_of_knows h hknows hmem
      obtain ⟨reached, hfound, hreach⟩ := haccess htemplate candidate.function hmember
        (Memory.learnWinner _ id runtime candidate.function)
      rw [Answer.ok, Answer.andThen_ok, hreach, hfound, ok_bind]
      rfl

/-- A winner that is no function is a fault: the memory does not fit the tables. -/
example : resolveTemplate Sample.draft.registry Sample.types ⟨0⟩ [⟨1⟩, ⟨1⟩]
    (Sample.opened.learnWinner ⟨0⟩ [⟨1⟩, ⟨1⟩] ⟨9⟩) = .error (.noFunction ⟨9⟩) := by
  rfl

/-! ## Binding -/

/-- The function that a call of `callee` reaches. -/
def target (registry : Registry β) (types : TypeService) (callee : Callee β)
    (runtime : List TypeId) (memory : Memory β) :
    Except Fault (Answer (Memory β) ResolveError (Callee β)) :=
  match registry.family? callee with
  | none => .ok (.ok callee memory)
  | some template => resolveTemplate registry types template.id runtime memory

/-- Makes a dispatch of the function's own code for operands of the given types. -/
def ownDispatch (types : TypeService) (callee : Callee β) (runtime : List TypeId)
    (memory : Memory β) : Except Fault (Answer (Memory β) ResolveError (Dispatch β)) :=
  andThen ((callee.argumentTypes types memory).mapError .unknownType) fun declared memory => do
    match ← layout types callee declared runtime with
    | .error failure => return .fail failure memory
    | .ok slots =>
      let (dispatch, memory) := memory.make ⟨callee.invocable, slots⟩
      return .ok dispatch memory

/-- The dispatch of a function that is called directly. A factory is asked for its own. -/
def dispatch (registry : Registry β) (types : TypeService) (callee : Callee β)
    (runtime : List TypeId) (memory : Memory β) :
    Except Fault (Answer (Memory β) ResolveError (Dispatch β)) :=
  match callee.owner with
  | .factory id => .ok (registry.resolveFactory types id runtime memory)
  | .nobody | .struct _ => ownDispatch types callee runtime memory

/-- Binds a call of a function by its operand types and its context type. -/
def bind (registry : Registry β) (types : TypeService) (function : FunctionIndex)
    (runtime : List TypeId) (context : TypeId) (memory : Memory β) :
    Except Fault (Answer (Memory β) ResolveError (Binding β)) :=
  match registry.function? function with
  | none => .ok (.fail (.unknownFunction function) memory)
  | some callee => do
    andThen (← target registry types callee runtime memory) fun reached memory =>
      if registry.supportsContext types reached context then do
        return (← dispatch registry types reached runtime memory).map (⟨reached.index, ·⟩)
      else .ok (.fail (registry.contextMismatch types reached context) memory)

/-- The function that a call reaches is found without a fault, if the memory fits the tables. -/
theorem target_eq_ok (h : registry.WellFormed) (hmemory : memory.Fits registry)
    (callee : Callee β) (runtime : List TypeId) :
    target registry types callee runtime memory =
      .ok (registry.target types callee runtime memory) := by
  rw [target, Registry.target]
  cases registry.family? callee with
  | none => rfl
  | some template => exact resolveTemplate_eq_ok h hmemory template.id runtime

/-- A function's own code is dispatched without a fault, if the memory fits the tables. -/
theorem ownDispatch_eq_ok (hmemory : memory.Fits registry) {callee : Callee β}
    (hcallee : registry.Registered callee) (runtime : List TypeId) :
    ownDispatch types callee runtime memory =
      .ok (callee.ownDispatch types runtime memory) := by
  rw [ownDispatch, Callee.ownDispatch]
  refine andThen_eq_ok fun declared hdeclared => ?_
  have hlength := Registry.length_of_argumentTypes hmemory hcallee
    (Answer.result_mapError_eq_ok.1 hdeclared)
  rw [layout_eq_ok hlength, ok_bind]
  cases callee.layout types declared runtime with
  | error failure => rfl
  | ok slots => rfl

/-- A function is dispatched without a fault, if the memory fits the tables. -/
theorem dispatch_eq_ok (hmemory : memory.Fits registry) {callee : Callee β}
    (hcallee : registry.Registered callee) (runtime : List TypeId) :
    dispatch registry types callee runtime memory =
      .ok (registry.dispatch types callee runtime memory) := by
  rw [dispatch, Registry.dispatch]
  cases callee.owner with
  | factory id => rfl
  | nobody => exact ownDispatch_eq_ok hmemory hcallee runtime
  | struct id => exact ownDispatch_eq_ok hmemory hcallee runtime

/-- A call is bound without a fault, if the memory fits the tables. -/
theorem bind_eq_ok (h : registry.WellFormed) (hmemory : memory.Fits registry)
    (function : FunctionIndex) (runtime : List TypeId) (context : TypeId) :
    bind registry types function runtime context memory =
      .ok (registry.bind types function runtime context memory) := by
  rw [bind, Registry.bind]
  cases hcallee : registry.function? function with
  | none => rfl
  | some callee =>
    dsimp only
    rw [target_eq_ok h hmemory, ok_bind]
    refine andThen_eq_ok fun reached hreached => ?_
    by_cases hcontext : registry.supportsContext types reached context = true
    · have hlater : (registry.target types callee runtime memory).state.Fits registry :=
        Registry.fits_of_learns h (Registry.target_learns h callee runtime) hmemory
      have hregistered := Registry.registered_of_target h (h.registered hcallee) hreached
      rw [if_pos hcontext, if_pos hcontext, dispatch_eq_ok hlater hregistered, ok_bind]
      rfl
    · rw [if_neg hcontext, if_neg hcontext]

/-! ## Histories of questions -/

/-- The answer to a question. The last four kinds of questions take no entry for granted. -/
def answer (scoring : Scoring) (registry : Registry β) (types : TypeService) (query : Query)
    (memory : Memory β) : Except Fault (Answer (Memory β) ResolveError (Reply β)) :=
  match query with
  | .find name => do
    return ⟨(← find scoring registry name).map fun callee => .function callee.index, memory⟩
  | .resolveTemplate id runtime => do
    return (← resolveTemplate registry types id runtime memory).map fun callee =>
      .function callee.index
  | .argumentName function operand total =>
    match registry.function? function with
    | none => .ok (.ok .absent memory)
    | some callee => do
      return ⟨(← argumentName registry callee operand total).map .name, memory⟩
  | .argument function operand total =>
    match registry.function? function with
    | none => .ok (.ok .absent memory)
    | some callee => do
      return ⟨(← argumentForOperand callee.name callee.arguments operand total).map .argument,
        memory⟩
  | .bind function runtime context => do
    return (← bind registry types function runtime context memory).map .binding
  | .function index => .ok (registry.answerBy scoring types (.function index) memory)
  | .argumentTypes function =>
    .ok (registry.answerBy scoring types (.argumentTypes function) memory)
  | .resolveFactory id runtime =>
    .ok (registry.answerBy scoring types (.resolveFactory id runtime) memory)
  | .supportsContext function context =>
    .ok (registry.answerBy scoring types (.supportsContext function context) memory)

/-- The answers to a history of questions, in order. -/
def answerAll (scoring : Scoring) (registry : Registry β) :
    List (TypeService × Query) → Memory β →
      Except Fault (List (Except ResolveError (Reply β)) × Memory β)
  | [], memory => .ok ([], memory)
  | (types, query) :: rest, memory => do
    let first ← answer scoring registry types query memory
    let (results, memory) ← answerAll scoring registry rest first.state
    return (first.result :: results, memory)

/-- A question is answered without a fault, if the memory fits the tables. -/
theorem answer_eq_ok (h : registry.WellFormed) (hmemory : memory.Fits registry) (query : Query) :
    answer scoring registry types query memory =
      .ok (registry.answerBy scoring types query memory) := by
  cases query with
  | find name =>
    obtain ⟨found, hfound, hsame⟩ := find_eq_ok h name
    rw [answer, hfound, ok_bind, Registry.answerBy, ← hsame]
    cases found <;> rfl
  | resolveTemplate id runtime =>
    rw [answer, resolveTemplate_eq_ok h hmemory, ok_bind]
    refine congrArg Except.ok (Registry.map_andThen_reach h Reply.function fun winner => ?_)
    exact Registry.exists_function?_of_resolveTemplate h hmemory
  | argumentName function operand total =>
    rw [answer, Registry.answerBy, Registry.about]
    cases registry.function? function with
    | none => rfl
    | some callee =>
      dsimp only
      rw [argumentName_eq_ok, ok_bind]
      rfl
  | argument function operand total =>
    rw [answer, Registry.answerBy, Registry.about]
    cases registry.function? function with
    | none => rfl
    | some callee =>
      dsimp only
      rw [argumentForOperand_eq_ok, ok_bind]
      rfl
  | bind function runtime context =>
    rw [answer, bind_eq_ok h hmemory, ok_bind]
    rfl
  | function index => rfl
  | argumentTypes function => rfl
  | resolveFactory id runtime => rfl
  | supportsContext function context => rfl

/-- No history of questions has a fault, if the memory fits the tables at first. -/
theorem answerAll_eq_ok (h : registry.WellFormed) (hmemory : memory.Fits registry)
    (history : List (TypeService × Query)) :
    answerAll scoring registry history memory =
      .ok (registry.answerAll scoring history memory) := by
  induction history generalizing memory with
  | nil => rfl
  | cons step rest ih =>
    obtain ⟨types, query⟩ := step
    have hlater : (registry.answerBy scoring types query memory).state.Fits registry :=
      Registry.fits_of_learns h (Registry.answerBy_learns h query) hmemory
    rw [answerAll, answer_eq_ok h hmemory, ok_bind, ih hlater, ok_bind]
    rfl

end Direct

/-! ## Every history -/

/-- No direct access is ever out of range, whatever the type services answer and whenever: not while
a draft goes through any history of registrations and is frozen, not for any operand of any
function, and not for any question after any history of questions. Binding a call fails in one of
six ways only. -/
theorem accesses_in_range {types : TypeService} {settings : Settings} {start : Draft β}
    (hstart : Draft.start types settings = .ok start) (registrations : List (Registration β))
    (scoring : Scoring) :
    let draft := start.applyAll types registrations
    Direct.applyAll types start registrations = .ok draft ∧
    Direct.freeze types draft = .ok (draft.freeze types) ∧
    ∀ registry opened, draft.freeze types = ⟨.ok registry, opened⟩ →
      (∀ (callee : Callee β) operand total,
        Direct.argumentForOperand callee.name callee.arguments operand total =
          .ok (argumentForOperand callee.name callee.arguments operand total) ∧
        Direct.argumentName registry callee operand total =
          .ok (registry.argumentName callee operand total)) ∧
      ∀ history : List (TypeService × Query),
        let memory := (registry.answerAll scoring history opened).2
        Direct.answerAll scoring registry history opened =
          .ok (registry.answerAll scoring history opened) ∧
        ∀ service : TypeService,
          (∀ query, Direct.answer scoring registry service query memory =
            .ok (registry.answerBy scoring service query memory)) ∧
          ∀ function runtime context failure,
            (registry.bind service function runtime context memory).result = .error failure →
              registry.BindFailure service function runtime context failure := by
  intro draft
  have hempty : start.registry.WellFormed := Draft.wellFormed_applyAll hstart []
  refine ⟨Direct.applyAll_eq_ok hempty registrations, Direct.freeze_eq_ok draft, ?_⟩
  intro registry opened hfreeze
  have hopened : registry.Opened types opened := ⟨settings, start, registrations, hstart, hfreeze⟩
  refine ⟨fun callee operand total => ⟨?_, ?_⟩, fun history => ⟨?_, fun service => ⟨?_, ?_⟩⟩⟩
  · exact Direct.argumentForOperand_eq_ok callee.name callee.arguments operand total
  · exact Direct.argumentName_eq_ok registry callee operand total
  · exact Direct.answerAll_eq_ok hopened.wellFormed hopened.fits history
  · exact fun query => Direct.answer_eq_ok hopened.wellFormed (hopened.fits_answerAll history) query
  · intro function runtime context failure hfailure
    exact Registry.bindFailure_of_bind hopened.wellFormed (hopened.winnersFrom_answerAll history)
      hfailure

/-- The sample draft is registered without a fault. In its registry a call of the variadic function
with fewer operands than arguments is bound without a fault, and a call without operands, which is
refused, is refused in one of the six ways. -/
theorem accesses_in_range_for_short_calls :
    Draft.start Sample.types {} = .ok Sample.start ∧
      Direct.applyAll Sample.types Sample.start Sample.history = .ok Sample.draft ∧
      Sample.draft.freeze Sample.types = ⟨.ok Sample.draft.registry, Sample.opened⟩ ∧
      Direct.answer .jaroWinkler Sample.draft.registry Sample.types (.bind ⟨3⟩ [⟨2⟩] ⟨4⟩)
          Sample.opened =
        .ok (Sample.draft.registry.answer Sample.types (.bind ⟨3⟩ [⟨2⟩] ⟨4⟩) Sample.opened) ∧
      (Sample.draft.registry.bind Sample.types ⟨3⟩ [⟨2⟩] ⟨4⟩ Sample.opened).result.isOk = true ∧
      (Sample.draft.registry.bind Sample.types ⟨3⟩ [] ⟨4⟩ Sample.opened).result =
        .error (.noMatch "Sum" "[]") ∧
      Sample.draft.registry.BindFailure Sample.types ⟨3⟩ [] ⟨4⟩ (.noMatch "Sum" "[]") := by
  obtain ⟨hregistered, _, hopened⟩ := accesses_in_range Sample.start_eq Sample.history .jaroWinkler
  obtain ⟨_, hanswers⟩ := hopened Sample.draft.registry Sample.opened Sample.freeze_draft
  obtain ⟨hanswered, hfailures⟩ := (hanswers []).2 Sample.types
  have hempty : (Sample.draft.registry.bind Sample.types ⟨3⟩ [] ⟨4⟩ Sample.opened).result =
      .error (.noMatch "Sum" "[]") := by decide +kernel
  exact ⟨Sample.start_eq, hregistered, Sample.freeze_draft, hanswered (.bind ⟨3⟩ [⟨2⟩] ⟨4⟩),
    by decide +kernel, hempty, hfailures ⟨3⟩ [] ⟨4⟩ _ hempty⟩

end Callsite
