import Callsite.Proofs.Memory.Requests
import Callsite.Proofs.Registry.Frame
import Mathlib.Data.List.Dedup

/-!
# Dispatches are created once

What a memory holds of factories can be read off the requests made so far (`Memory.Records`): the
dispatches that were handed out, each under the operand types it was requested for. Each of them was
created by the first request that the factory supports, so that the factory was asked once for each,
and once for each request that it refused. One request keeps this however it is served
(`Memory.Records.serves`), and so does every history of questions (`Registry.records_answerAll`).
-/

namespace Callsite

open scoped List

variable {β : Type} {scoring : Scoring}

/-! ## What a memory says about the requests -/

/-- Whether a log has a request of a factory for the operand types that was answered with a
dispatch. -/
def HandsOut (log : List (Request β)) (id : FactoryId) (runtime : List TypeId)
    (dispatch : Dispatch β) : Prop :=
  ∃ request ∈ log, request.factory = id ∧ request.runtime = runtime ∧
    request.dispatch? = some dispatch

instance [DecidableEq β] (log : List (Request β)) (id : FactoryId) (runtime : List TypeId)
    (dispatch : Dispatch β) : Decidable (HandsOut log id runtime dispatch) :=
  inferInstanceAs (Decidable (∃ request ∈ log, request.factory = id ∧ request.runtime = runtime ∧
    request.dispatch? = some dispatch))

/-- A log with one more request has what it had, and that request. -/
theorem handsOut_concat_iff {log : List (Request β)} {request : Request β} {id : FactoryId}
    {runtime : List TypeId} {dispatch : Dispatch β} :
    HandsOut (log ++ [request]) id runtime dispatch ↔ HandsOut log id runtime dispatch ∨
      request.factory = id ∧ request.runtime = runtime ∧ request.dispatch? = some dispatch := by
  simp only [HandsOut, List.mem_append, List.mem_singleton, or_and_right, exists_or,
    exists_eq_left]

/-- The operand types for which requests of a factory were answered with a dispatch, in order. -/
def supported (log : List (Request β)) (id : FactoryId) : List (List TypeId) :=
  (log.filter fun request => request.factory = id ∧ request.dispatch?.isSome).map (·.runtime)

/-- Operand types are supported if a dispatch was handed out for them. -/
theorem mem_supported_iff {log : List (Request β)} {id : FactoryId} {runtime : List TypeId} :
    runtime ∈ supported log id ↔ ∃ dispatch, HandsOut log id runtime dispatch := by
  simp only [supported, HandsOut, List.mem_map, List.mem_filter, decide_eq_true_eq,
    Option.isSome_iff_exists]
  constructor
  · rintro ⟨request, ⟨hrequest, hfactory, dispatch, hdispatch⟩, hruntime⟩
    exact ⟨dispatch, request, hrequest, hfactory, hruntime, hdispatch⟩
  · rintro ⟨dispatch, request, hrequest, hfactory, hruntime, hdispatch⟩
    exact ⟨request, ⟨hrequest, hfactory, dispatch, hdispatch⟩, hruntime⟩

namespace Memory

variable {memory later : Memory β} {factory : FactoryId} {runtime : List TypeId}
  {dispatch : Dispatch β}

/-- One more question raises the number of questions to its factory. -/
theorem asked_of_append (h : later.questions = memory.questions ++ [factory]) (id : FactoryId) :
    later.asked id = memory.asked id + if factory = id then 1 else 0 := by
  rw [asked, asked, h, List.count_append, List.count_singleton]
  simp only [beq_iff_eq]

/-- One more dispatch raises the number of those remembered for its factory. -/
theorem remembered_of_append
    (h : later.dispatches = memory.dispatches ++ [((factory, runtime), dispatch)])
    (id : FactoryId) :
    later.remembered id = memory.remembered id + if factory = id then 1 else 0 := by
  rw [remembered, remembered, h, List.countP_append, List.countP_singleton]
  simp only [beq_iff_eq]

/-- One more dispatch is remembered besides those that were. -/
theorem dispatch?_of_append
    (h : later.dispatches = memory.dispatches ++ [((factory, runtime), dispatch)])
    (hnew : memory.dispatch? factory runtime = none) {id : FactoryId} {operands : List TypeId}
    {found : Dispatch β} :
    later.dispatch? id operands = some found ↔ memory.dispatch? id operands = some found ∨
      id = factory ∧ operands = runtime ∧ found = dispatch := by
  have hlater : later.dispatch? id operands =
      (memory.learnDispatch factory runtime dispatch).dispatch? id operands := by
    rw [dispatch?, dispatch?, h, learnDispatch]
  rw [hlater]
  constructor
  · exact dispatch?_learnDispatch_cases
  · rw [dispatch?_learnDispatch memory factory runtime dispatch (id, operands)]
    rintro (hold | ⟨rfl, rfl, rfl⟩)
    · rw [hold]
      rfl
    · rw [hnew, if_pos rfl]
      rfl

/-- The operand types of the dispatches that are remembered are those for which there is one. -/
theorem mem_keys_iff :
    (factory, runtime) ∈ memory.dispatches.map (·.1) ↔
      (memory.dispatch? factory runtime).isSome = true := by
  rw [dispatch?, List.lookup_isSome_iff, List.mem_map]
  refine exists_congr fun entry => and_congr_right fun _ => ?_
  rw [beq_iff_eq, eq_comm]

/-- The operand types for which a dispatch of a factory is remembered, in order. -/
def operandsOf (memory : Memory β) (id : FactoryId) : List (List TypeId) :=
  ((memory.dispatches.map (·.1)).filter (·.1 = id)).map (·.2)

/-- There are operand types for each dispatch of a factory. -/
theorem length_operandsOf (memory : Memory β) (id : FactoryId) :
    (memory.operandsOf id).length = memory.remembered id := by
  rw [operandsOf, remembered, List.length_map, ← List.countP_eq_length_filter, List.countP_map]
  rfl

/-- If no key is there twice, no operand types of a factory are. -/
theorem nodup_operandsOf (h : (memory.dispatches.map (·.1)).Nodup) (id : FactoryId) :
    (memory.operandsOf id).Nodup := by
  refine List.Nodup.map_on ?_ (h.filter _)
  intro first hfirst second hsecond hruntime
  have hfirst := of_decide_eq_true (List.mem_filter.1 hfirst).2
  have hsecond := of_decide_eq_true (List.mem_filter.1 hsecond).2
  exact Prod.ext (hfirst.trans hsecond.symm) hruntime

/-- The operand types of a factory are those for which it has a dispatch. -/
theorem mem_operandsOf_iff {id : FactoryId} :
    runtime ∈ memory.operandsOf id ↔ (memory.dispatch? id runtime).isSome = true := by
  rw [← mem_keys_iff]
  simp [operandsOf]

/-- Whether a memory is what a log of requests leaves: it holds the dispatches that were handed out,
no two of them of one serial number, and later requests were answered with the same ones. A factory
was asked once for each of its dispatches, and once for each request it does not support. -/
structure Records (log : List (Request β)) (memory : Memory β) : Prop where
  dispatch?_iff : ∀ {id runtime dispatch}, memory.dispatch? id runtime = some dispatch ↔
    HandsOut log id runtime dispatch
  keys_nodup : (memory.dispatches.map (·.1)).Nodup
  serial_lt : ∀ {id runtime dispatch}, memory.dispatch? id runtime = some dispatch →
    dispatch.serial < memory.made
  serial_inj : ∀ {id runtime dispatch other operands found},
    memory.dispatch? id runtime = some dispatch → memory.dispatch? other operands = some found →
      dispatch.serial = found.serial → id = other ∧ runtime = operands
  asked_eq : ∀ id, memory.asked id = memory.remembered id +
    log.countP fun request => request.factory = id ∧ request.isUnsupported
  answered : ∀ request ∈ log,
    (∃ dispatch, request.dispatch? = some dispatch) ∨ request.isUnsupported = true
  same_dispatch : log.Pairwise fun first later =>
    later.factory = first.factory → later.runtime = first.runtime →
      ∀ dispatch, first.dispatch? = some dispatch → later.dispatch? = some dispatch

namespace Records

variable {registry : Registry β} {types : TypeService} {log : List (Request β)}
  {request : Request β}

/-- A memory that was asked for no dispatch is what no requests leave. -/
theorem of_fresh {n : Nat} (h : (fresh n : Memory β).SameBesideTypes memory) :
    memory.Records [] := by
  have hnone : ∀ id runtime, memory.dispatch? id runtime = none := by
    intro id runtime
    rw [h.dispatch?_eq]
    rfl
  refine ⟨by simp [hnone, HandsOut], ?_, by simp [hnone], by simp [hnone], ?_, by simp, .nil⟩
  · rw [h.dispatches_eq]
    exact List.nodup_nil
  · intro id
    rw [asked, remembered, h.questions_eq, h.dispatches_eq]
    rfl

/-- Questions that make no request leave what the requests leave. -/
theorem asksNone (h : memory.Records log) (hlater : memory.AsksNone later) :
    later.Records log where
  dispatch?_iff := by
    intro id runtime dispatch
    rw [hlater.dispatch?_eq]
    exact h.dispatch?_iff
  keys_nodup := by
    rw [hlater.dispatches_eq]
    exact h.keys_nodup
  serial_lt := by
    intro id runtime dispatch hdispatch
    rw [hlater.dispatch?_eq] at hdispatch
    exact Nat.lt_of_lt_of_le (h.serial_lt hdispatch) hlater.made_le
  serial_inj := by
    intro id runtime dispatch other operands found hdispatch hfound
    rw [hlater.dispatch?_eq] at hdispatch hfound
    exact h.serial_inj hdispatch hfound
  asked_eq := by
    intro id
    rw [hlater.asked_eq, hlater.remembered_eq]
    exact h.asked_eq id
  answered := h.answered
  same_dispatch := h.same_dispatch

/-- A dispatch that was handed out is remembered for later requests of the same operand types. -/
theorem dispatch?_of_mem (h : memory.Records log) {first : Request β} (hfirst : first ∈ log)
    (hfactory : request.factory = first.factory) (hruntime : request.runtime = first.runtime)
    {dispatch : Dispatch β} (hdispatch : first.dispatch? = some dispatch) :
    memory.dispatch? request.factory request.runtime = some dispatch :=
  h.dispatch?_iff.2 ⟨first, hfirst, hfactory.symm, hruntime.symm, hdispatch⟩

/-- A log goes on with a request that is answered as requests of the same operand types were. -/
theorem pairwise_concat (h : memory.Records log)
    (hsame : ∀ dispatch, memory.dispatch? request.factory request.runtime = some dispatch →
      request.dispatch? = some dispatch) :
    (log ++ [request]).Pairwise fun first later =>
      later.factory = first.factory → later.runtime = first.runtime →
        ∀ dispatch, first.dispatch? = some dispatch → later.dispatch? = some dispatch := by
  refine List.pairwise_append.2 ⟨h.same_dispatch, List.pairwise_singleton _ _, ?_⟩
  intro first hfirst later hlater hfactory hruntime dispatch hdispatch
  obtain rfl := List.mem_singleton.1 hlater
  exact hsame dispatch (h.dispatch?_of_mem hfirst hfactory hruntime hdispatch)

/-- Every request of a log is answered if the last one and those before it are. -/
theorem answered_concat (h : memory.Records log)
    (hrequest : (∃ dispatch, request.dispatch? = some dispatch) ∨ request.isUnsupported = true) :
    ∀ last ∈ log ++ [request],
      (∃ dispatch, last.dispatch? = some dispatch) ∨ last.isUnsupported = true :=
  List.forall_mem_append.2 ⟨h.answered, List.forall_mem_singleton.2 hrequest⟩

/-- A request that is served from the memory leaves what the requests up to it leave. -/
theorem known (h : memory.Records log) {dispatch : Dispatch β}
    (hknown : memory.dispatch? request.factory request.runtime = some dispatch)
    (hanswer : request.dispatch? = some dispatch) (hlater : memory.AsksNone later) :
    later.Records (log ++ [request]) := by
  have hrecords := h.asksNone hlater
  refine ⟨?_, hrecords.keys_nodup, hrecords.serial_lt, hrecords.serial_inj, ?_,
    h.answered_concat (.inl ⟨dispatch, hanswer⟩), ?_⟩
  · intro id runtime found
    rw [hrecords.dispatch?_iff, handsOut_concat_iff]
    refine (or_iff_left_of_imp ?_).symm
    rintro ⟨rfl, rfl, hfound⟩
    obtain rfl := Option.some.inj (hanswer.symm.trans hfound)
    exact h.dispatch?_iff.1 hknown
  · intro id
    rw [hrecords.asked_eq, List.countP_append, List.countP_singleton,
      Request.isUnsupported_of_dispatch? hanswer]
    simp only [Bool.false_eq_true, and_false, decide_false, if_false, Nat.add_zero]
  · refine h.pairwise_concat fun found hfound => ?_
    obtain rfl := Option.some.inj (hknown.symm.trans hfound)
    exact hanswer

/-- A request for which a dispatch is made leaves what the requests up to it leave. -/
theorem created (h : memory.Records log) {dispatch : Dispatch β}
    (hnew : memory.dispatch? request.factory request.runtime = none)
    (hanswer : request.dispatch? = some dispatch) (hserial : memory.made ≤ dispatch.serial)
    (hmade : dispatch.serial < later.made)
    (hdispatches : later.dispatches =
      memory.dispatches ++ [((request.factory, request.runtime), dispatch)])
    (hquestions : later.questions = memory.questions ++ [request.factory]) :
    later.Records (log ++ [request]) := by
  have hlookup : ∀ {id runtime found}, later.dispatch? id runtime = some found ↔
      memory.dispatch? id runtime = some found ∨
        id = request.factory ∧ runtime = request.runtime ∧ found = dispatch :=
    dispatch?_of_append hdispatches hnew
  have hlt : ∀ {id runtime found}, memory.dispatch? id runtime = some found →
      found.serial < dispatch.serial := fun hfound =>
    Nat.lt_of_lt_of_le (h.serial_lt hfound) hserial
  refine ⟨?dispatches, ?keys, ?serials, ?distinct, ?asked,
    h.answered_concat (.inl ⟨dispatch, hanswer⟩), ?same⟩
  case dispatches =>
    intro id runtime found
    rw [hlookup, handsOut_concat_iff, h.dispatch?_iff, hanswer, Option.some.injEq,
      eq_comm (a := id), eq_comm (a := runtime), eq_comm (a := found)]
  case keys =>
    rw [hdispatches, List.map_append, List.nodup_append]
    refine ⟨h.keys_nodup, List.nodup_singleton _, ?_⟩
    intro key hkey last hlast
    obtain rfl := List.mem_singleton.1 hlast
    rintro rfl
    rw [mem_keys_iff, hnew] at hkey
    exact absurd hkey (by simp)
  case serials =>
    intro id runtime found hfound
    rcases hlookup.1 hfound with hold | ⟨_, _, rfl⟩
    · exact Nat.lt_trans (hlt hold) hmade
    · exact hmade
  case distinct =>
    intro id runtime first other operands second hfirst hsecond hsame
    rcases hlookup.1 hfirst with hold | ⟨rfl, rfl, rfl⟩ <;>
      rcases hlookup.1 hsecond with hold' | ⟨rfl, rfl, rfl⟩
    · exact h.serial_inj hold hold' hsame
    -- an old dispatch has not the serial number of the new one
    · exact absurd hsame (Nat.ne_of_lt (hlt hold))
    · exact absurd hsame (Nat.ne_of_gt (hlt hold'))
    · exact ⟨rfl, rfl⟩
  case asked =>
    intro id
    rw [asked_of_append hquestions, remembered_of_append hdispatches, h.asked_eq,
      List.countP_append, List.countP_singleton, Request.isUnsupported_of_dispatch? hanswer]
    simp only [Bool.false_eq_true, and_false, decide_false, if_false]
    omega
  case same =>
    refine h.pairwise_concat fun found hfound => ?_
    rw [hnew] at hfound
    exact absurd hfound (by simp)

/-- A request that is refused leaves what the requests up to it leave. -/
theorem refused (h : memory.Records log)
    (hnew : memory.dispatch? request.factory request.runtime = none) {name operands : String}
    (hanswer : request.answer = .error (.unsupported name operands))
    (hmade : memory.made ≤ later.made) (hdispatches : later.dispatches = memory.dispatches)
    (hquestions : later.questions = memory.questions ++ [request.factory]) :
    later.Records (log ++ [request]) := by
  have hunsupported : request.isUnsupported = true := by rw [Request.isUnsupported, hanswer]
  -- nothing was learnt but that the factory was asked
  have hlearnt : Records log { later with questions := memory.questions } :=
    h.asksNone ⟨hdispatches, rfl, hmade⟩
  refine ⟨?_, hlearnt.keys_nodup, hlearnt.serial_lt, hlearnt.serial_inj, ?_,
    h.answered_concat (.inr hunsupported), ?_⟩
  · intro id runtime found
    rw [handsOut_concat_iff, Request.dispatch?_of_error hanswer]
    refine hlearnt.dispatch?_iff.trans ?_
    simp
  · intro id
    rw [asked_of_append hquestions, remembered, hdispatches, ← remembered, h.asked_eq,
      List.countP_append, List.countP_singleton, hunsupported]
    simp only [and_true, decide_eq_true_eq]
    omega
  · refine h.pairwise_concat fun found hfound => ?_
    rw [hnew] at hfound
    exact absurd hfound (by simp)

/-- However a request is served, this leaves what the requests up to it leave. -/
theorem serves (h : memory.Records log) (hserves : registry.Serves types request memory later) :
    later.Records (log ++ [request]) := by
  cases hserves with
  | known hknown hanswer hlater => exact h.known hknown hanswer hlater
  | created _ hnew _ hanswer hserial hmade hdispatches hquestions =>
    exact h.created hnew hanswer hserial hmade hdispatches hquestions
  | refused _ hnew _ hanswer hmade hdispatches hquestions =>
    exact h.refused hnew hanswer hmade hdispatches hquestions

/-- As many dispatches of a factory are remembered as there are operand types for which requests
were answered with one. -/
theorem remembered_eq (h : memory.Records log) (id : FactoryId) :
    memory.remembered id = (supported log id).dedup.length := by
  have hmem : ∀ runtime, runtime ∈ memory.operandsOf id ↔ runtime ∈ (supported log id).dedup := by
    intro runtime
    rw [mem_operandsOf_iff, Option.isSome_iff_exists, List.mem_dedup, mem_supported_iff]
    exact exists_congr fun _ => h.dispatch?_iff
  have hperm : memory.operandsOf id ~ (supported log id).dedup :=
    (List.perm_ext_iff_of_nodup (nodup_operandsOf h.keys_nodup id) (List.nodup_dedup _)).2 hmem
  rw [← length_operandsOf, hperm.length_eq]

end Records

end Memory

namespace Registry

variable {registry : Registry β} {types : TypeService} {memory : Memory β} {log : List (Request β)}

/-- Every question leaves what the requests up to it leave, with its own if it makes one. -/
theorem records_answerBy (hregistry : registry.WellFormed) (h : memory.Records log)
    (query : Query) :
    (registry.answerBy scoring types query memory).state.Records
      (log ++ (registry.request? scoring types query memory).toList) := by
  cases hrequest : registry.request? scoring types query memory with
  | none =>
    rw [Option.toList_none, List.append_nil]
    exact h.asksNone (answerBy_asksNone hregistry (Option.map_eq_none_iff.1 hrequest))
  | some request => exact h.serves (serves_of_request? hregistry hrequest)

/-- Every history of questions leaves what its requests leave. -/
theorem records_answerAll (hregistry : registry.WellFormed) (h : memory.Records log)
    (scoring : Scoring) (history : List (TypeService × Query)) :
    (registry.answerAll scoring history memory).2.Records
      (log ++ registry.requests scoring history memory) := by
  induction history generalizing memory log with
  | nil =>
    rw [requests, List.append_nil]
    exact h
  | cons step rest ih =>
    obtain ⟨types, query⟩ := step
    rw [requests, ← List.append_assoc]
    exact ih (records_answerBy hregistry h query)

/-- Requests are made of registered factories. -/
theorem exists_factory_of_mem_requests (hregistry : registry.WellFormed)
    {history : List (TypeService × Query)} {request : Request β}
    (h : request ∈ registry.requests scoring history memory) :
    ∃ entry, registry.factory? request.factory = some entry := by
  induction history generalizing memory with
  | nil => exact absurd h List.not_mem_nil
  | cons step rest ih =>
    obtain ⟨types, query⟩ := step
    rcases List.mem_append.1 h with hfirst | hrest
    · obtain ⟨⟨id, runtime⟩, hreaches, rfl⟩ :=
        Option.map_eq_some_iff.1 (Option.mem_toList.1 hfirst)
      obtain ⟨entry, _, _, hentry, _⟩ := exists_of_reaches? hregistry scoring hreaches
      exact ⟨entry, hentry⟩
    · exact ih hrest

/-- No requests were made of an opened registry so far. -/
theorem Opened.records (h : registry.Opened types memory) : memory.Records [] := by
  obtain ⟨settings, start, registrations, hstart, _, hlearns⟩ := h.exists_draft
  exact .of_fresh ((Draft.sameBesideTypes_applyAll hstart registrations).trans
    (sameBesideTypes_of_learnsTypes hlearns))

/-- A call that reaches a function of a factory for operand types that it has a dispatch for is
bound to that dispatch. -/
theorem result_bind_of_known (hregistry : registry.WellFormed) {id : FactoryId}
    {entry : FactoryEntry β} (hentry : registry.factory? id = some entry) {runtime : List TypeId}
    {dispatch : Dispatch β} (hknown : memory.dispatch? id runtime = some dispatch)
    {function : FunctionIndex} {callee reached : Callee β} {context : TypeId}
    (hcallee : registry.function? function = some callee)
    (hreached : (registry.target types callee runtime memory).result = .ok reached)
    (howner : reached.owner = .factory id)
    (hcontext : registry.supportsContext types reached context = true) :
    (registry.bind types function runtime context memory).result =
      .ok ⟨reached.index, dispatch⟩ := by
  have htarget : memory.AsksNone (registry.target types callee runtime memory).state :=
    target_asksNone hregistry callee runtime
  rw [bind_of_target hcallee hreached hcontext, Registry.dispatch, howner]
  dsimp only
  rw [resolveFactory_of_known hentry ((htarget.dispatch?_eq id runtime).trans hknown)]
  rfl

end Registry

/-! ## Every history -/

/-- Dispatches of factories are created once. Whatever an opened registry was asked, and however its
factories answer: a question that makes no request touches no factory, and a request is served as
`Registry.Serves` says. So every request was answered with a dispatch or refused, and after a
dispatch was handed out, all later requests of the factory for the same operand types were answered
with that one. The memory holds exactly the dispatches that were handed out, which have serial
numbers of their own. For each factory their number is the number of different operand types that
were supported, and the factory was asked as often as this and once for each request refused. From
now on, asking for a dispatch that was handed out gives it again, and so does binding any call that
reaches the factory for its operand types. -/
theorem dispatches_created_once {drafted : TypeService} {registry : Registry β} {opened : Memory β}
    (hopened : registry.Opened drafted opened) (scoring : Scoring)
    (history : List (TypeService × Query)) :
    let log := registry.requests scoring history opened
    let now := (registry.answerAll scoring history opened).2
    (∀ service query, match registry.request? scoring service query now with
      | none => now.AsksNone (registry.answerBy scoring service query now).state
      | some request => registry.Serves service request now
          (registry.answerBy scoring service query now).state) ∧
    (∀ request ∈ log,
      (∃ dispatch, request.dispatch? = some dispatch) ∨ request.isUnsupported = true) ∧
    (log.Pairwise fun first later =>
      later.factory = first.factory → later.runtime = first.runtime →
        ∀ dispatch, first.dispatch? = some dispatch → later.dispatch? = some dispatch) ∧
    (∀ id runtime dispatch,
      now.dispatch? id runtime = some dispatch ↔ HandsOut log id runtime dispatch) ∧
    (∀ id runtime dispatch other operands found, HandsOut log id runtime dispatch →
      HandsOut log other operands found → dispatch.serial = found.serial →
        id = other ∧ runtime = operands) ∧
    (∀ id, now.remembered id = (supported log id).dedup.length ∧
      now.asked id = now.remembered id +
        log.countP fun request => request.factory = id ∧ request.isUnsupported) ∧
    ∀ id runtime dispatch, HandsOut log id runtime dispatch → ∀ service,
      registry.resolveFactory service id runtime now = .ok dispatch now ∧
      ∀ function callee reached context, registry.function? function = some callee →
        (registry.target service callee runtime now).result = .ok reached →
        reached.owner = .factory id → registry.supportsContext service reached context = true →
          (registry.bind service function runtime context now).result =
            .ok ⟨reached.index, dispatch⟩ := by
  intro log now
  have hregistry := hopened.wellFormed
  have hrecords : now.Records log := by
    have hrun := Registry.records_answerAll hregistry hopened.records scoring history
    rwa [List.nil_append] at hrun
  refine ⟨?served, hrecords.answered, hrecords.same_dispatch, fun _ _ _ => hrecords.dispatch?_iff,
    ?serials, fun id => ⟨hrecords.remembered_eq id, hrecords.asked_eq id⟩, ?again⟩
  case served =>
    intro service query
    split
    · rename_i hnone
      exact Registry.answerBy_asksNone hregistry (Option.map_eq_none_iff.1 hnone)
    · rename_i request hrequest
      exact Registry.serves_of_request? hregistry hrequest
  case serials =>
    intro id runtime dispatch other operands found hdispatch hfound
    exact hrecords.serial_inj (hrecords.dispatch?_iff.2 hdispatch) (hrecords.dispatch?_iff.2 hfound)
  case again =>
    intro id runtime dispatch hdispatch service
    have hknown := hrecords.dispatch?_iff.2 hdispatch
    obtain ⟨request, hrequest, rfl, _⟩ := hdispatch
    obtain ⟨entry, hentry⟩ := Registry.exists_factory_of_mem_requests hregistry hrequest
    refine ⟨Registry.resolveFactory_of_known hentry hknown, ?_⟩
    intro function callee reached context hcallee hreached howner hcontext
    exact Registry.result_bind_of_known hregistry hentry hknown hcallee hreached howner hcontext

namespace Sample

/-- A factory that needs a rig context and refuses the first question put to it, whatever it is. -/
def wavering : Factory String where
  name := "Wavering"
  contextText := some "RigContext"
  variant? earlier _ runtime :=
    if earlier = 0 then none else some ⟨.closure "waver", runtime.map (⟨"operand", .input, ·⟩)⟩
  argumentName? _ _ := none

/-- The draft of a function and two overloads that belong to the factory. -/
def waverers : Draft String := start.applyAll types
  [.factory wavering, .template "Turn",
    .function (.factory ⟨0⟩) ⟨"Lean", some (.function "unused"), [⟨"x", "Int", .input⟩]⟩,
    .member ⟨0⟩ (.factory ⟨0⟩) ⟨"TurnInt", some (.function "unused"), [⟨"x", "Int", .input⟩]⟩,
    .member ⟨0⟩ (.factory ⟨0⟩) ⟨"TurnFloat", some (.function "unused"), [⟨"x", "Float", .input⟩]⟩]

/-- Integers are asked for in vain, then in a wrong context, and then for a call of the function and
for one of an overload. Floats are asked for once. -/
def turns : List (TypeService × Query) :=
  [(types, .resolveFactory ⟨0⟩ [⟨1⟩]), (types, .bind ⟨0⟩ [⟨1⟩] ⟨3⟩), (types, .bind ⟨0⟩ [⟨1⟩] ⟨4⟩),
    (types, .bind ⟨2⟩ [⟨1⟩] ⟨4⟩), (types, .resolveFactory ⟨0⟩ [⟨2⟩])]

/-- The draft of the factory can be frozen. -/
theorem opened_waverers : waverers.registry.Opened types (waverers.freeze types).state :=
  ⟨{}, start, _, start_eq, Draft.freeze_eq_of_isOk (by decide +kernel)⟩

/-- The dispatch for an integer, made when the factory was asked again. -/
def waver : Dispatch String := ⟨⟨.closure "waver", [⟨"operand", .input, ⟨1⟩⟩]⟩, 0⟩

end Sample

/-- The sample factory refuses integers once and is asked for them again. The dispatch that it then
has is bound by a function and by an overload, and handed out ever after. -/
theorem dispatches_created_once_for_integers :
    let opened := (Sample.waverers.freeze Sample.types).state
    let log := Sample.waverers.registry.requests .jaroWinkler Sample.turns opened
    let now := (Sample.waverers.registry.answerAll .jaroWinkler Sample.turns opened).2
    Sample.waverers.registry.Opened Sample.types opened ∧
      log.map (fun request => (request.runtime, request.dispatch?.map (·.serial))) =
        [([⟨1⟩], none), ([⟨1⟩], some 0), ([⟨1⟩], some 0), ([⟨2⟩], some 1)] ∧
      HandsOut log ⟨0⟩ [⟨1⟩] Sample.waver ∧
      now.remembered ⟨0⟩ = 2 ∧ now.asked ⟨0⟩ = 3 ∧
      Sample.waverers.registry.resolveFactory Sample.types ⟨0⟩ [⟨1⟩] now =
        .ok Sample.waver now := by
  intro opened log now
  obtain ⟨_, _, _, _, _, hcounts, hagain⟩ :=
    dispatches_created_once Sample.opened_waverers .jaroWinkler Sample.turns
  obtain ⟨hremembered, hasked⟩ := hcounts ⟨0⟩
  have hlog : HandsOut log ⟨0⟩ [⟨1⟩] Sample.waver := by decide +kernel
  have hsupported : (supported log ⟨0⟩).dedup.length = 2 := by decide +kernel
  have hrefused :
      (log.countP fun request => request.factory = ⟨0⟩ ∧ request.isUnsupported) = 1 := by
    decide +kernel
  have htwo : now.remembered ⟨0⟩ = 2 := hremembered.trans hsupported
  refine ⟨Sample.opened_waverers, by decide +kernel, hlog, htwo, ?_,
    (hagain ⟨0⟩ [⟨1⟩] Sample.waver hlog Sample.types).1⟩
  show now.asked ⟨0⟩ = 3
  rw [hasked, htwo, hrefused]

end Callsite
