import Callsite.Proofs.Binding.Family
import Callsite.Proofs.Memory.Coherence

/-!
# Successes are permanent

What a memory holds it holds for good (`Memory.Keeps`), whatever is asked and whatever the type
services answer on texts. A success leaves in the memory all that the same question needs when it is
asked again: it is then answered from the memory, no text is resolved and no factory asked, and
nothing is learnt (`Registry.answerBy_again`). Only a binding that is made of a function's own code
is made anew, with a serial number of its own.

A failure to find argument types holds nothing back. They stay unknown, and are found as soon as the
service answers on all their texts.
-/

namespace Callsite

open Relation (ReflTransGen)

variable {β : Type} {scoring : Scoring}

/-! ## What is held is held for good -/

/-- Whether a later memory holds everything that a memory holds. -/
structure Memory.Keeps (memory later : Memory β) : Prop where
  types?_of_some : ∀ {function ids}, memory.types? function = some ids →
    later.types? function = some ids
  winner?_of_some : ∀ {id runtime winner}, memory.winner? id runtime = some winner →
    later.winner? id runtime = some winner
  dispatch?_of_some : ∀ {id runtime dispatch}, memory.dispatch? id runtime = some dispatch →
    later.dispatch? id runtime = some dispatch

namespace Memory.Keeps

variable {memory later last : Memory β}

/-- A memory holds what it holds. -/
theorem refl (memory : Memory β) : memory.Keeps memory :=
  ⟨id, id, id⟩

/-- What is held later is held even later. -/
theorem trans (h : memory.Keeps later) (hlater : later.Keeps last) : memory.Keeps last where
  types?_of_some hids := hlater.types?_of_some (h.types?_of_some hids)
  winner?_of_some hwinner := hlater.winner?_of_some (h.winner?_of_some hwinner)
  dispatch?_of_some hdispatch := hlater.dispatch?_of_some (h.dispatch?_of_some hdispatch)

end Memory.Keeps

namespace Registry

variable {registry : Registry β} {types other : TypeService} {memory later : Memory β}

/-- Every step keeps what is held: only what is not held is learnt. -/
theorem Learns.keeps (h : registry.Learns types memory later) : memory.Keeps later := by
  cases h with
  | types hstep =>
    refine ⟨hstep.types?_mono, ?_, ?_⟩
    · intro id runtime winner hwinner
      rw [winner?_eq_of_learnsTypes (.single hstep), hwinner]
    · intro id runtime dispatch hdispatch
      rw [dispatch?_eq_of_learnsTypes (.single hstep), hdispatch]
  | winner =>
    rename_i id template runtime candidates winner _ _ _ _
    refine ⟨fun hids => hids, ?_, fun hdispatch => hdispatch⟩
    intro id' runtime' winner' hwinner
    rw [Memory.winner?_learnWinner memory id runtime winner (id', runtime'), hwinner]
    rfl
  | refused => exact ⟨fun hids => hids, fun hwinner => hwinner, fun hdispatch => hdispatch⟩
  | dispatched =>
    rename_i id entry runtime variant _ _ _
    refine ⟨fun hids => hids, fun hwinner => hwinner, ?_⟩
    intro id' runtime' dispatch hdispatch
    rw [Memory.dispatch?_learnDispatch _ id runtime _ (id', runtime')]
    rw [show ((memory.countQuestion id).make variant).2.dispatch? id' runtime' = some dispatch
      from hdispatch]
    rfl
  | made => exact ⟨fun hids => hids, fun hwinner => hwinner, fun hdispatch => hdispatch⟩

/-- Any number of steps keep what is held. -/
theorem keeps_of_learns (h : ReflTransGen (registry.Learns types) memory later) :
    memory.Keeps later :=
  learns_induction (motive := memory.Keeps) h (.refl memory)
    fun _ _ hstep hkeeps => hkeeps.trans hstep.keeps

/-- Every history of questions keeps what is held. -/
theorem keeps_answerAll (h : registry.WellFormed) (history : List (TypeService × Query)) :
    memory.Keeps (registry.answerAll scoring history memory).2 :=
  answerAll_induction (motive := memory.Keeps) h (.refl memory)
    fun _ _ _ _ hstep hkeeps => hkeeps.trans hstep.keeps

/-! ## Asking again -/

/-- Argument types that were found are found again. -/
theorem argumentTypes_again {callee : Callee β} {ids : List TypeId}
    (h : (callee.argumentTypes types memory).result = .ok ids)
    (hkeeps : (callee.argumentTypes types memory).state.Keeps later) :
    callee.argumentTypes other later = .ok ids later :=
  Callee.argumentTypes_of_known (hkeeps.types?_of_some (Callee.types?_argumentTypes h))

/-- A template that was resolved resolves to the same overload again. -/
theorem resolveTemplate_again (hregistry : registry.WellFormed) {id : TemplateId}
    {runtime : List TypeId} {winner : FunctionIndex}
    (h : (registry.resolveTemplate types id runtime memory).result = .ok winner)
    (hkeeps : (registry.resolveTemplate types id runtime memory).state.Keeps later) :
    registry.resolveTemplate other id runtime later = .ok winner later := by
  have hknown := hkeeps.winner?_of_some (winner?_resolveTemplate hregistry h)
  cases htemplate : registry.template? id with
  | none =>
    rw [resolveTemplate_of_template?_none htemplate] at h
    exact absurd h (by simp [Answer.fail])
  | some template => exact resolveTemplate_of_known htemplate hknown

/-- A dispatch that is remembered is handed out, and the factory is not asked. -/
theorem resolveFactory_of_known {id : FactoryId} {entry : FactoryEntry β} {runtime : List TypeId}
    {dispatch : Dispatch β} (hentry : registry.factory? id = some entry)
    (h : memory.dispatch? id runtime = some dispatch) :
    registry.resolveFactory types id runtime memory = .ok dispatch memory := by
  rw [resolveFactory, hentry]
  simp only [h]

/-- A dispatch that a factory had is remembered afterwards. -/
theorem dispatch?_resolveFactory {id : FactoryId} {entry : FactoryEntry β} {runtime : List TypeId}
    {dispatch : Dispatch β} (hentry : registry.factory? id = some entry)
    (h : (registry.resolveFactory types id runtime memory).result = .ok dispatch) :
    (registry.resolveFactory types id runtime memory).state.dispatch? id runtime =
      some dispatch := by
  cases hknown : memory.dispatch? id runtime with
  | some known =>
    rw [resolveFactory_of_known hentry hknown] at h ⊢
    rw [← Except.ok.inj h]
    exact hknown
  | none =>
    rw [resolveFactory, hentry] at h ⊢
    simp only [hknown] at h ⊢
    cases hvariant : entry.factory.variant? (memory.asked id) types runtime with
    | none =>
      rw [hvariant] at h
      exact absurd h (by simp [Answer.fail])
    | some variant =>
      rw [hvariant] at h
      -- asking and making remember no dispatch, so that the one learnt is the first
      have hnew : ((memory.countQuestion id).make variant).2.dispatch? id runtime = none := hknown
      obtain rfl := Except.ok.inj h
      dsimp only
      rw [Answer.ok, Memory.dispatch?_learnDispatch _ id runtime _ (id, runtime), hnew, if_pos rfl]
      rfl

/-- A factory that had a dispatch is not asked again: the same one is handed out. -/
theorem resolveFactory_again {id : FactoryId} {runtime : List TypeId} {dispatch : Dispatch β}
    (h : (registry.resolveFactory types id runtime memory).result = .ok dispatch)
    (hkeeps : (registry.resolveFactory types id runtime memory).state.Keeps later) :
    registry.resolveFactory other id runtime later = .ok dispatch later := by
  cases hentry : registry.factory? id with
  | none =>
    rw [resolveFactory, hentry] at h
    exact absurd h (by simp [Answer.fail])
  | some entry =>
    exact resolveFactory_of_known hentry
      (hkeeps.dispatch?_of_some (dispatch?_resolveFactory hentry h))

/-- A call that reached a function reaches it again. -/
theorem target_again (hregistry : registry.WellFormed) {callee reached : Callee β}
    {runtime : List TypeId}
    (h : (registry.target types callee runtime memory).result = .ok reached)
    (hkeeps : (registry.target types callee runtime memory).state.Keeps later) :
    registry.target other callee runtime later = .ok reached later := by
  rcases target_eq_ok.1 h with ⟨hfamily, rfl⟩ | ⟨template, winner, hfamily, hwinner, hreached⟩
  · rw [target, hfamily]
  · have hstate : (registry.target types callee runtime memory).state =
        (registry.resolveTemplate types template.id runtime memory).state := by
      rw [target, hfamily]
      dsimp only
      rw [Answer.andThen_of_ok hwinner, hreached]
      rfl
    rw [hstate] at hkeeps
    have hagain : registry.resolveTemplate other template.id runtime later = .ok winner later :=
      resolveTemplate_again hregistry hwinner hkeeps
    rw [target, hfamily]
    dsimp only
    rw [hagain, Answer.ok, Answer.andThen_ok, hreached]

/-- A question about one function that was answered is answered again if it is for its entry. -/
theorem about_again {function : FunctionIndex}
    {ask askAgain : Callee β → Answer (Memory β) ResolveError (Reply β)} {reply : Reply β}
    (h : (registry.about function memory ask).result = .ok reply)
    (hask : ∀ callee, registry.function? function = some callee →
      (ask callee).result = .ok reply → askAgain callee = .ok reply later) :
    registry.about function later askAgain = .ok reply later := by
  rw [about] at h ⊢
  cases hcallee : registry.function? function with
  | none =>
    rw [hcallee] at h
    obtain rfl := Except.ok.inj h
    rfl
  | some callee =>
    rw [hcallee] at h
    exact hask callee hcallee h

/-- A question for the argument types of a function is one to its entry. -/
theorem answerBy_argumentTypes {function : FunctionIndex} {callee : Callee β}
    (hcallee : registry.function? function = some callee) :
    registry.answerBy scoring types (.argumentTypes function) memory =
      ((callee.argumentTypes types memory).mapError .unknownType).map .types := by
  rw [answerBy, about, hcallee]

/-- Whether a reply is one that stays the same when it is asked for again: any but a binding that is
made of a function's own code, which is a new one each time. -/
def Lasting (registry : Registry β) (reply : Reply β) : Prop :=
  ∀ binding, reply = .binding binding →
    ∃ reached id, registry.function? binding.function = some reached ∧ reached.owner = .factory id

section Refining

variable (hrefines : ∀ candidate required,
  other.isSubtype candidate required = types.isSubtype candidate required)

include hrefines

/-- Services that refine alike let the same types be used where others are wanted. -/
theorem fits_again (given wanted : TypeId) : other.fits given wanted = types.fits given wanted := by
  rw [TypeService.fits, TypeService.fits, hrefines]

/-- With services that refine alike a function can run in the same contexts. -/
theorem supportsContext_again (callee : Callee β) (context : TypeId) :
    registry.supportsContext other callee context =
      registry.supportsContext types callee context :=
  fits_again hrefines context (registry.contextOf callee)

/-- A layout that was found with one service is found with every service that refines alike. -/
theorem layout_again {callee : Callee β} {declared runtime : List TypeId} {layout : Layout}
    (h : callee.layout types declared runtime = .ok layout) :
    callee.layout other declared runtime = .ok layout := by
  obtain ⟨hcount, hlength, hslots⟩ := Callee.layout_eq_ok_iff.1 h
  refine Callee.layout_eq_ok_iff.2 ⟨hcount, hlength, ?_⟩
  intro operand given slot hgiven hslot
  obtain ⟨position, argument, hposition, hargument, hwanted, hfits, hrest⟩ :=
    Callee.slot_eq_ok_iff.1 (hslots operand given slot hgiven hslot)
  rw [← fits_again hrefines] at hfits
  exact Callee.slot_eq_ok_iff.2
    ⟨position, argument, hposition, hargument, hwanted, hfits, hrest⟩

/-- A function's own code that was dispatched is dispatched anew, as the same variant and without
any text being resolved. -/
theorem ownDispatch_again {callee : Callee β} {runtime : List TypeId} {dispatch : Dispatch β}
    (h : (callee.ownDispatch types runtime memory).result = .ok dispatch)
    (hkeeps : (callee.ownDispatch types runtime memory).state.Keeps later) :
    callee.ownDispatch other runtime later =
      .ok ⟨dispatch.toVariant, later.made⟩ { later with made := later.made + 1 } := by
  obtain ⟨declared, layout, hdeclared, hlayout, rfl⟩ := Callee.ownDispatch_eq_ok_iff.1 h
  have hknown := hkeeps.types?_of_some (Callee.types?_ownDispatch hdeclared)
  rw [Callee.ownDispatch, Callee.argumentTypes_of_known hknown]
  show (Answer.mk (.ok declared) later).andThen _ = _
  rw [Answer.andThen_ok, layout_again hrefines hlayout]
  rfl

/-- A dispatch that succeeded does so again, with the same variant. If a factory chose it, it is the
same dispatch. -/
theorem dispatch_again {callee : Callee β} {runtime : List TypeId} {dispatch : Dispatch β}
    (h : (registry.dispatch types callee runtime memory).result = .ok dispatch)
    (hkeeps : (registry.dispatch types callee runtime memory).state.Keeps later) :
    ∃ again made, registry.dispatch other callee runtime later = .ok again { later with made } ∧
      again.unnumbered = dispatch.unnumbered ∧
        (again = dispatch ∨ ∀ id, callee.owner ≠ .factory id) := by
  by_cases hfactory : ∃ id, callee.owner = .factory id
  · obtain ⟨id, hid⟩ := hfactory
    rw [Registry.dispatch, hid] at h hkeeps
    refine ⟨dispatch, later.made, ?_, rfl, .inl rfl⟩
    rw [Registry.dispatch, hid]
    exact resolveFactory_again h hkeeps
  · have howner : ∀ id, callee.owner ≠ .factory id := fun id hid => hfactory ⟨id, hid⟩
    rw [dispatch_eq_ownDispatch howner] at h hkeeps
    refine ⟨⟨dispatch.toVariant, later.made⟩, later.made + 1, ?_, rfl, .inr howner⟩
    rw [dispatch_eq_ownDispatch howner]
    exact ownDispatch_again hrefines h hkeeps

/-- A call that was bound is bound again, to the same function and the same variant. If a factory
chose the variant, it is the same binding. -/
theorem bind_again (hregistry : registry.WellFormed)
    {function : FunctionIndex} {runtime : List TypeId} {context : TypeId} {binding : Binding β}
    (h : (registry.bind types function runtime context memory).result = .ok binding)
    (hkeeps : (registry.bind types function runtime context memory).state.Keeps later) :
    ∃ again made, registry.bind other function runtime context later =
        .ok again { later with made } ∧
      again.unnumbered = binding.unnumbered ∧
        (again = binding ∨ ∃ reached, registry.function? binding.function = some reached ∧
          ∀ id, reached.owner ≠ .factory id) := by
  obtain ⟨callee, reached, hcallee, hreached, hcontext, hdispatch, hfunction⟩ :=
    exists_of_bind_eq_ok h
  have hregistered := registered_of_target hregistry (hregistry.registered hcallee) hreached
  rw [bind_of_target hcallee hreached hcontext, Answer.state_map] at hkeeps
  -- what was held when the function was reached is still held after it was dispatched
  have hlearns : ReflTransGen (registry.Learns types)
      (registry.target types callee runtime memory).state
      (registry.dispatch types reached runtime
        (registry.target types callee runtime memory).state).state :=
    dispatch_learns hregistered runtime
  have htarget : registry.target other callee runtime later = .ok reached later :=
    target_again hregistry hreached ((keeps_of_learns hlearns).trans hkeeps)
  have hcontext : registry.supportsContext other reached context = true :=
    (supportsContext_again hrefines reached context).trans hcontext
  obtain ⟨again, made, hagain, hvariant, hsame⟩ := dispatch_again hrefines hdispatch hkeeps
  refine ⟨⟨reached.index, again⟩, made, ?_, ?_, ?_⟩
  · rw [bind_of_target hcallee (congrArg Answer.result htarget) hcontext, htarget]
    show (registry.dispatch other reached runtime later).map _ = _
    rw [hagain]
    rfl
  · rw [Binding.unnumbered, Binding.unnumbered, hvariant, hfunction]
  · rcases hsame with rfl | howner
    · left
      rw [← hfunction]
    · right
      rw [hfunction]
      exact ⟨reached, hregistered, howner⟩

/-- A question other than for a binding that was answered has the same answer again, and nothing is
learnt. -/
theorem lookup_again (hregistry : registry.WellFormed)
    {query : Query} (hquery : ∀ function runtime context, query ≠ .bind function runtime context)
    {reply : Reply β} (h : (registry.answerBy scoring types query memory).result = .ok reply)
    (hkeeps : (registry.answerBy scoring types query memory).state.Keeps later) :
    registry.answerBy scoring other query later = .ok reply later := by
  cases query with
  | function index =>
    exact about_again h fun callee _ hreply => congrArg (Answer.mk · later) hreply
  | find name => exact congrArg (Answer.mk · later) h
  | argumentTypes function =>
    refine about_again h fun callee hcallee hreply => ?_
    rw [answerBy_argumentTypes hcallee] at hkeeps
    obtain ⟨ids, hids, rfl⟩ := Answer.result_map_eq_ok.1 hreply
    rw [argumentTypes_again (Answer.result_mapError_eq_ok.1 hids) hkeeps]
    rfl
  | resolveTemplate id runtime =>
    obtain ⟨winner, hwinner, rfl⟩ := Answer.result_map_eq_ok.1 h
    rw [answerBy, resolveTemplate_again hregistry hwinner hkeeps]
    rfl
  | resolveFactory id runtime =>
    obtain ⟨dispatch, hdispatch, rfl⟩ := Answer.result_map_eq_ok.1 h
    rw [answerBy, resolveFactory_again hdispatch hkeeps]
    rfl
  | supportsContext function context =>
    refine about_again h fun callee _ hreply => ?_
    rw [supportsContext_again hrefines]
    exact congrArg (Answer.mk · later) hreply
  | argumentName function operand total =>
    exact about_again h fun callee _ hreply => congrArg (Answer.mk · later) hreply
  | argument function operand total =>
    exact about_again h fun callee _ hreply => congrArg (Answer.mk · later) hreply
  | bind function runtime context => exact absurd rfl (hquery function runtime context)

/-- Every question that was answered is answered again. No text is resolved and no factory asked,
and nothing is learnt; at most a dispatch is made anew. The answer is the same, the serial number of
such a dispatch apart. -/
theorem answerBy_again (hregistry : registry.WellFormed)
    {query : Query} {reply : Reply β}
    (h : (registry.answerBy scoring types query memory).result = .ok reply)
    (hkeeps : (registry.answerBy scoring types query memory).state.Keeps later) :
    ∃ again made, registry.answerBy scoring other query later = .ok again { later with made } ∧
      again.unnumbered = reply.unnumbered ∧ (registry.Lasting reply → again = reply) := by
  by_cases hquery : ∀ function runtime context, query ≠ .bind function runtime context
  · exact ⟨reply, later.made, lookup_again hrefines hregistry hquery h hkeeps, rfl, fun _ => rfl⟩
  · push Not at hquery
    obtain ⟨function, runtime, context, rfl⟩ := hquery
    obtain ⟨binding, hbinding, rfl⟩ := Answer.result_map_eq_ok.1 h
    obtain ⟨again, made, hagain, hvariant, hsame⟩ :=
      bind_again hrefines hregistry hbinding hkeeps
    refine ⟨.binding again, made, ?_, congrArg Reply.binding hvariant, fun hlasting => ?_⟩
    · rw [answerBy, hagain]
      rfl
    · rcases hsame with rfl | ⟨reached, hreached, howner⟩
      · rfl
      · obtain ⟨found, id, hfound, hid⟩ := hlasting binding rfl
        obtain rfl := Option.some.inj (hreached.symm.trans hfound)
        exact absurd hid (howner id)

end Refining

end Registry

/-! ## Failing and trying again -/

/-- Arguments are resolved if the service answers on all their texts. -/
theorem exists_resolveArguments_eq_ok {types : TypeService} {arguments : List Argument}
    (h : ∀ argument ∈ arguments, ∀ earlier, ∃ id,
      types.resolve earlier argument.elementType = some id) (function : String) (earlier : Nat) :
    ∃ ids, (resolveArguments types function arguments earlier).result = .ok ids := by
  induction arguments generalizing earlier with
  | nil => exact ⟨[], rfl⟩
  | cons argument rest ih =>
    obtain ⟨hfirst, hrest⟩ := List.forall_mem_cons.1 h
    obtain ⟨id, hid⟩ := hfirst earlier
    obtain ⟨ids, hids⟩ := ih hrest (earlier + 1)
    refine ⟨id :: ids, ?_⟩
    rw [resolveArguments, hid]
    exact Answer.result_map_eq_ok.2 ⟨ids, hids, rfl⟩

namespace Callee

variable {types : TypeService} {memory : Memory β} {callee : Callee β}

/-- Argument types that were not found are not known afterwards. -/
theorem types?_of_argumentTypes_error {failure : UnknownType}
    (h : (callee.argumentTypes types memory).result = .error failure) :
    (callee.argumentTypes types memory).state.types? callee.index = none := by
  cases hknown : memory.types? callee.index with
  | some ids =>
    rw [argumentTypes_of_known hknown] at h
    exact absurd h (by simp [Answer.ok])
  | none =>
    rw [argumentTypes_of_unknown hknown] at h ⊢
    refine Answer.state_andThen_of_error
      (motive := fun later : Memory β => later.types? callee.index = none) h hknown ?_
    exact fun found _ hlast => absurd hlast (by simp [Answer.ok])

/-- Argument types are found if the service answers on the texts of all arguments, whatever failed
before. -/
theorem exists_argumentTypes_eq_ok
    (h : ∀ argument ∈ callee.arguments, ∀ earlier, ∃ id,
      types.resolve earlier argument.elementType = some id) (memory : Memory β) :
    ∃ ids, (callee.argumentTypes types memory).result = .ok ids := by
  cases hknown : memory.types? callee.index with
  | some ids => exact ⟨ids, by rw [argumentTypes_of_known hknown]; rfl⟩
  | none =>
    obtain ⟨ids, hids⟩ := exists_resolveArguments_eq_ok h callee.name memory.resolutions
    refine ⟨ids, ?_⟩
    rw [argumentTypes_of_unknown hknown]
    exact Answer.result_andThen_eq_ok.2 ⟨ids, hids, rfl⟩

end Callee

/-! ## Every history -/

/-- Successes are permanent. At every point of every history of questions to an opened registry,
eager or not, and whatever the services answer on texts: a question that is answered is answered
again after any further questions, if only the same types refine each other. No text is resolved for
it and no factory asked, and the answer is the same, the serial number of a new dispatch of a
function's own code apart. Argument types that are known never change. Where finding them fails they
stay unknown, and they are found at any later point when the service answers on all their texts. -/
theorem successes_permanent {drafted : TypeService} {registry : Registry β} {opened : Memory β}
    (hopened : registry.Opened drafted opened) (scoring : Scoring)
    (past further : List (TypeService × Query)) :
    let now := (registry.answerAll scoring past opened).2
    (∀ types other query reply, (∀ candidate required,
        other.isSubtype candidate required = types.isSubtype candidate required) →
      (registry.answerBy scoring types query now).result = .ok reply →
        let later := (registry.answerAll scoring further
          (registry.answerBy scoring types query now).state).2
        ∃ again made, registry.answerBy scoring other query later = .ok again { later with made } ∧
          again.unnumbered = reply.unnumbered ∧ (registry.Lasting reply → again = reply)) ∧
      (∀ function ids, now.types? function = some ids →
        (registry.answerAll scoring further now).2.types? function = some ids) ∧
      ∀ types function callee error, registry.function? function = some callee →
        (registry.answerBy scoring types (.argumentTypes function) now).result = .error error →
          let failed := (registry.answerBy scoring types (.argumentTypes function) now).state
          failed.types? function = none ∧
            ∀ other, (∀ argument ∈ callee.arguments, ∀ earlier, ∃ id,
                other.resolve earlier argument.elementType = some id) →
              ∃ ids, (registry.answerBy scoring other (.argumentTypes function)
                (registry.answerAll scoring further failed).2).result = .ok (.types ids) := by
  have hregistry := hopened.wellFormed
  intro now
  refine ⟨?again, ?known, ?failed⟩
  case again =>
    intro types other query reply hrefines hreply
    exact Registry.answerBy_again hrefines hregistry hreply
      (Registry.keeps_answerAll hregistry further)
  case known =>
    intro function ids hids
    exact (Registry.keeps_answerAll hregistry further).types?_of_some hids
  case failed =>
    intro types function callee error hcallee herror
    obtain rfl := hregistry.function_index hcallee
    rw [Registry.answerBy_argumentTypes hcallee] at herror ⊢
    obtain ⟨failure, hfailure, _⟩ := Answer.result_mapError_eq_error.1
      (Answer.result_map_eq_error.1 herror)
    refine ⟨Callee.types?_of_argumentTypes_error hfailure, fun other hanswers => ?_⟩
    obtain ⟨ids, hids⟩ := Callee.exists_argumentTypes_eq_ok hanswers _
    refine ⟨ids, ?_⟩
    rw [Registry.answerBy_argumentTypes hcallee]
    exact Answer.result_map_eq_ok.2 ⟨ids, Answer.result_mapError_eq_ok.2 hids, rfl⟩

namespace Sample

/-- The lazy registry of the overloads for integers and floats can be opened. -/
theorem opened_prints : prints.registry.Opened types prints.memory :=
  ⟨{ eagerTypes := false }, lazyStart, printing, rfl, rfl⟩

/-- A call with an integer, while the service does not know floats. -/
def forgotten : List (TypeService × Query) :=
  [(forgetful, .bind ⟨0⟩ [⟨1⟩] ⟨3⟩), (forgetful, .argumentTypes ⟨1⟩)]

/-- The call with an integer, bound to the overload for integers. -/
def printCall : Binding String :=
  ⟨⟨0⟩, ⟨⟨.function "print", [⟨"x", .input, ⟨1⟩⟩]⟩, 0⟩⟩

end Sample

/-- While the service does not know floats, the lazy sample registry cannot bind a call with an
integer. Once the call was bound it stays bound, although the service forgets floats again. -/
theorem successes_permanent_when_forgotten :
    Sample.prints.registry.Opened Sample.types Sample.prints.memory ∧
      (Sample.prints.registry.answerAll .jaroWinkler Sample.forgotten Sample.prints.memory).1 =
        [.error (.unknownType ⟨"PrintFloat", "x", "Float"⟩),
          .error (.unknownType ⟨"PrintFloat", "x", "Float"⟩)] ∧
      (∀ candidate required, Sample.forgetful.isSubtype candidate required =
        Sample.types.isSubtype candidate required) ∧
      (Sample.prints.registry.answer Sample.types (.bind ⟨0⟩ [⟨1⟩] ⟨3⟩)
          (Sample.prints.registry.answerAll .jaroWinkler Sample.forgotten
            Sample.prints.memory).2).result = .ok (.binding Sample.printCall) ∧
      ∃ again, (Sample.prints.registry.answer Sample.forgetful (.bind ⟨0⟩ [⟨1⟩] ⟨3⟩)
          (Sample.prints.registry.answerAll .jaroWinkler Sample.forgotten
            (Sample.prints.registry.answer Sample.types (.bind ⟨0⟩ [⟨1⟩] ⟨3⟩)
              (Sample.prints.registry.answerAll .jaroWinkler Sample.forgotten
                Sample.prints.memory).2).state).2).result = .ok again ∧
        again.unnumbered = .binding Sample.printCall := by
  have hbound : (Sample.prints.registry.answer Sample.types (.bind ⟨0⟩ [⟨1⟩] ⟨3⟩)
      (Sample.prints.registry.answerAll .jaroWinkler Sample.forgotten
        Sample.prints.memory).2).result = .ok (.binding Sample.printCall) := by decide +kernel
  obtain ⟨hagain, _⟩ := successes_permanent Sample.opened_prints .jaroWinkler
    Sample.forgotten Sample.forgotten
  obtain ⟨again, made, hanswer, hsame, _⟩ := hagain Sample.types Sample.forgetful
    (.bind ⟨0⟩ [⟨1⟩] ⟨3⟩) _ (fun _ _ => rfl) hbound
  exact ⟨Sample.opened_prints, by decide +kernel, fun _ _ => rfl, hbound, again,
    congrArg Answer.result hanswer, hsame⟩

end Callsite
