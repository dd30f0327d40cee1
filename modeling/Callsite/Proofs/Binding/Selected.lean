import Callsite.Proofs.Memory.Requests

/-!
# What is selected is bound

An overload is selected by one check of the operands and laid out over them by another. The types
that are known of a winner take the operands that it won (`Memory.WinnerTakes`). This is so once it
is selected. A remembered winner is not checked again; for it every step keeps this as long as
services do not take refinements back. The layout of the winner is then always found
(`Registry.exists_layout_of_winner`), so that a call by way of a template goes through with the
overload that the template resolves to (`Registry.exists_selectionBinds`): by its own arguments, or
with the answer of its factory.
-/

namespace Callsite

variable {β : Type} {scoring : Scoring}

/-- Whether a later service has all refinements of an earlier one. -/
def TypeService.RefinesWithin (earlier later : TypeService) : Prop :=
  ∀ given wanted, earlier.isSubtype given wanted = true → later.isSubtype given wanted = true

/-- A service has its own refinements. -/
theorem TypeService.RefinesWithin.refl (types : TypeService) : types.RefinesWithin types :=
  fun _ _ hrefined => hrefined

/-- A service has the refinements of every service by which the same types refine each other. -/
theorem TypeService.RefinesWithin.of_isSubtype_eq {earlier later : TypeService}
    (h : ∀ given wanted, later.isSubtype given wanted = earlier.isSubtype given wanted) :
    earlier.RefinesWithin later :=
  fun given wanted hrefined => (h given wanted).trans hrefined

/-- The winner of a selection takes the operands by the types of its candidate. -/
theorem exists_takes_of_select {widens : TypeId → TypeId → Bool} {candidates : List Candidate}
    {runtime : List TypeId} {winner : FunctionIndex}
    (h : select widens candidates runtime = .found winner) :
    ∃ candidate ∈ candidates, candidate.function = winner ∧
      Takes widens candidate.types runtime := by
  obtain ⟨first, others, hbest, hfirst, _⟩ := Selection.decideAmong_eq_found_iff.1 h
  have hmem : first ∈ Selection.inOrder
      (Selection.best (Selection.eligible widens candidates runtime)) := by
    rw [hbest]
    exact List.mem_cons_self
  have hwinner := Selection.mem_best_iff.1 ((Selection.inOrder_perm _).mem_iff.1 hmem)
  exact ⟨first, hwinner.mem, hfirst, hwinner.takes⟩

/-! ## Remembered winners -/

/-- Whether the winner that is remembered for some operands, if one is, has known types that take
the operands. -/
def Memory.WinnerTakes (registry : Registry β) (types : TypeService) (id : TemplateId)
    (runtime : List TypeId) (memory : Memory β) : Prop :=
  ∀ winner, memory.winner? id runtime = some winner →
    ∃ declared, memory.types? winner = some declared ∧
      Takes (registry.widens types) declared runtime

/-- Where no winner is remembered, there is none to be relied on. -/
theorem Memory.winnerTakes_of_none {registry : Registry β} {types : TypeService} {id : TemplateId}
    {runtime : List TypeId} {memory : Memory β} (h : memory.winner? id runtime = none) :
    memory.WinnerTakes registry types id runtime := by
  intro winner hwinner
  exact absurd (h.symm.trans hwinner) (by simp)

namespace Registry

variable {registry : Registry β} {types other : TypeService} {memory later : Memory β}
  {id : TemplateId} {runtime : List TypeId} {winner : FunctionIndex}

/-- What is taken with the refinements of an earlier service is taken with those of a later one. -/
theorem takes_of_refinesWithin (hrefines : other.RefinesWithin types) {declared : List TypeId}
    (h : Takes (registry.widens other) declared runtime) :
    Takes (registry.widens types) declared runtime := by
  refine List.Forall₂.imp (fun want given => Or.imp_right fun hwidens => ?_) h
  rw [widens, Bool.and_eq_true] at hwidens ⊢
  exact ⟨hwidens.1, hrefines given want hwidens.2⟩

/-- Every step remembers no winner but one whose known types take the operands. -/
theorem Learns.winnerTakes (hrefines : other.RefinesWithin types)
    (h : registry.Learns other memory later)
    (hmemory : memory.WinnerTakes registry types id runtime) :
    later.WinnerTakes registry types id runtime := by
  cases h with
  | types hstep =>
    intro winner hwinner
    rw [winner?_eq_of_learnsTypes (.single hstep)] at hwinner
    obtain ⟨declared, hdeclared, htakes⟩ := hmemory winner hwinner
    exact ⟨declared, hstep.types?_mono hdeclared, htakes⟩
  | winner htemplate hnew hknown hselect =>
    intro winner hwinner
    rcases Memory.winner?_learnWinner_cases hwinner with hold | ⟨rfl, rfl, rfl⟩
    · exact hmemory winner hold
    · obtain ⟨candidate, hcandidate, rfl, htakes⟩ := exists_takes_of_select hselect
      -- the winner took the operands by the types that were known of it
      obtain ⟨callee, _, hindex, hdeclared⟩ := exists_mem_left_of_forall₂ hknown hcandidate
      rw [← hindex] at hdeclared
      exact ⟨candidate.types, hdeclared, takes_of_refinesWithin hrefines htakes⟩
  | refused => exact hmemory
  | dispatched => exact hmemory
  | made => exact hmemory

/-- A template that is resolved has a winner whose known types take the operands, if this is so of a
winner that was remembered before. -/
theorem winnerTakes_resolveTemplate (h : registry.WellFormed)
    (hmemory : memory.WinnerTakes registry types id runtime) :
    (registry.resolveTemplate types id runtime memory).state.WinnerTakes registry types id
      runtime :=
  learns_induction (resolveTemplate_learns h id runtime) hmemory
    fun _ _ hstep => hstep.winnerTakes (.refl types)

/-- After a history of questions to services whose refinements are not taken back, a remembered
winner has known types that take the operands. -/
theorem Opened.winnerTakes_answerAll {drafted : TypeService} (h : registry.Opened drafted memory)
    {history : List (TypeService × Query)}
    (hhistory : ∀ step ∈ history, step.1.RefinesWithin types) :
    (registry.answerAll scoring history memory).2.WinnerTakes registry types id runtime :=
  answerAll_induction (motive := fun memory => memory.WinnerTakes registry types id runtime)
    h.wellFormed (Memory.winnerTakes_of_none (h.unasked.winner?_eq_none id runtime))
    fun step hstep _ _ hlearns => hlearns.winnerTakes (hhistory step hstep)

/-- A winner whose known types take the operands is remembered as such for good, as long as the
refinements are not taken back. -/
theorem winnerTakes_of_keeps (hmemory : memory.WinnerTakes registry types id runtime)
    (hwinner : memory.winner? id runtime = some winner) (hkeeps : memory.Keeps later)
    (hrefines : types.RefinesWithin other) : later.WinnerTakes registry other id runtime := by
  intro found hfound
  obtain rfl := Option.some.inj ((hkeeps.winner?_of_some hwinner).symm.trans hfound)
  obtain ⟨declared, hdeclared, htakes⟩ := hmemory winner hwinner
  exact ⟨declared, hkeeps.types?_of_some hdeclared, takes_of_refinesWithin hrefines htakes⟩

/-! ## The layout of a winner -/

/-- Declared types that take the operands admit a layout, if there is one for each argument. -/
theorem exists_layout_of_takes {callee : Callee β} {declared : List TypeId}
    (hdeclared : declared.length = callee.arguments.length)
    (htakes : Takes (registry.widens types) declared runtime) :
    ∃ layout, callee.layout types declared runtime = .ok layout := by
  obtain ⟨hlength, hfits⟩ := takes_iff.1 htakes
  refine Callee.exists_layout_iff_accepts.2
    ((Callee.accepts_iff_of_length_eq (hlength.symm.trans hdeclared) hdeclared).2 ?_)
  exact fun i want given hwant hgiven => (hfits i want given hwant hgiven).imp_right And.right

/-- A template resolves to a registered member, whose types are known afterwards, one for each
operand, and admit a layout. -/
theorem exists_layout_of_winner (h : registry.WellFormed) (hmemory : memory.Fits registry)
    (htakes : memory.WinnerTakes registry types id runtime) {template : Template}
    (htemplate : registry.template? id = some template)
    (hwinner : (registry.resolveTemplate types id runtime memory).result = .ok winner) :
    winner ∈ template.members ∧ ∃ reached declared layout,
      registry.function? winner = some reached ∧
      (registry.resolveTemplate types id runtime memory).state.types? winner = some declared ∧
      declared.length = runtime.length ∧ reached.layout types declared runtime = .ok layout := by
  -- the winner is remembered afterwards, whether it was found now or before
  have hremembered := winner?_resolveTemplate h hwinner
  have hlater : (registry.resolveTemplate types id runtime memory).state.Fits registry :=
    fits_of_learns h (resolveTemplate_learns h id runtime) hmemory
  obtain ⟨declared, hdeclared, htaken⟩ :=
    winnerTakes_resolveTemplate h htakes winner hremembered
  obtain ⟨reached, hreached, htyped⟩ := hlater.types winner declared hdeclared
  obtain ⟨layout, hlayout⟩ := exists_layout_of_takes htyped.length_eq.symm htaken
  exact ⟨mem_members_of_resolveTemplate h hmemory.winners htemplate hwinner, reached, declared,
    layout, hreached, hdeclared, htaken.length_eq, hlayout⟩

/-! ## Factories -/

/-- Resolving a template makes no dispatch. -/
theorem made_resolveTemplate (h : registry.WellFormed) (id : TemplateId) (runtime : List TypeId) :
    (registry.resolveTemplate types id runtime memory).state.made = memory.made := by
  cases htemplate : registry.template? id with
  | none => rw [resolveTemplate_of_template?_none htemplate]; rfl
  | some template =>
    cases hknown : memory.winner? id runtime with
    | some winner => rw [resolveTemplate_of_known htemplate hknown]; rfl
    | none =>
      have hselected : (registry.selectOverload types template runtime memory).state.made =
          memory.made := by
        rw [state_selectOverload]
        exact (sameBesideTypes_of_learnsTypes
          (candidatesOf_learns (h.registered_of_mem_membersOf template))).made_eq
      rw [resolveTemplate_of_unknown htemplate hknown]
      exact Answer.state_andThen (motive := fun later : Memory β => later.made = memory.made)
        hselected fun _ _ => hselected

/-- A factory answers alike if no dispatch was made in between and no factory asked. -/
theorem result_resolveFactory_of_asksNone (h : memory.AsksNone later)
    (hmade : later.made = memory.made) (id : FactoryId) (runtime : List TypeId) :
    (registry.resolveFactory types id runtime later).result =
      (registry.resolveFactory types id runtime memory).result := by
  rw [resolveFactory, resolveFactory]
  cases registry.factory? id with
  | none => rfl
  | some entry =>
    dsimp only
    rw [h.dispatch?_eq id runtime, h.asked_eq id]
    cases memory.dispatch? id runtime with
    | some dispatch => rfl
    | none =>
      cases entry.factory.variant? (memory.asked id) types runtime with
      | none => rfl
      | some variant =>
        show Except.ok (⟨variant, later.made⟩ : Dispatch β) = .ok ⟨variant, memory.made⟩
        rw [hmade]

/-! ## Binding -/

/-- Whether a call of a function goes through with an overload that it reaches, in every context
that this one supports. If the overload belongs to no factory, it is bound, to its own code, with a
layout of its own arguments; if it belongs to one, the call has the answer of the factory. -/
structure BindsSelected (registry : Registry β) (types : TypeService) (function : FunctionIndex)
    (runtime : List TypeId) (memory : Memory β) (reached : Callee β) : Prop where
  own : ∀ context, registry.supportsContext types reached context = true →
    (∀ id, reached.owner ≠ .factory id) → ∃ declared dispatch,
      (registry.bind types function runtime context memory).result =
        .ok ⟨reached.index, dispatch⟩ ∧
      dispatch.invocable = reached.invocable ∧
      (registry.bind types function runtime context memory).state.types? reached.index =
        some declared ∧
      reached.LaidOut types declared runtime dispatch.layout
  factory : ∀ context, registry.supportsContext types reached context = true →
    ∀ id, reached.owner = .factory id →
      (registry.bind types function runtime context memory).result =
        (registry.resolveFactory types id runtime memory).result.map (⟨reached.index, ·⟩)

/-- Whether selecting an overload of a template and binding a call of a function agree on the
overload: its types are known once it is selected, one for each operand, and admit a layout, and the
call goes through with it. -/
structure SelectionBinds (registry : Registry β) (types : TypeService) (function : FunctionIndex)
    (id : TemplateId) (runtime : List TypeId) (memory : Memory β) (reached : Callee β) : Prop
    extends BindsSelected registry types function runtime memory reached where
  layout : ∃ declared layout,
    (registry.resolveTemplate types id runtime memory).state.types? reached.index = some declared ∧
      declared.length = runtime.length ∧ reached.layout types declared runtime = .ok layout

/-- A function of a family reaches the overload that the template resolves to. -/
theorem target_of_winner {callee reached : Callee β} {template : Template}
    (hfamily : registry.family? callee = some template)
    (hwinner : (registry.resolveTemplate types template.id runtime memory).result = .ok winner)
    (hreached : registry.function? winner = some reached) :
    registry.target types callee runtime memory =
      .ok reached (registry.resolveTemplate types template.id runtime memory).state := by
  rw [target, hfamily]
  dsimp only
  rw [Answer.andThen_of_ok hwinner, hreached]

/-- A call of a function of a family is dispatched by the overload that the template resolves to. -/
theorem bind_of_winner {function : FunctionIndex} {callee reached : Callee β} {template : Template}
    {context : TypeId} (hcallee : registry.function? function = some callee)
    (hfamily : registry.family? callee = some template)
    (hwinner : (registry.resolveTemplate types template.id runtime memory).result = .ok winner)
    (hreached : registry.function? winner = some reached)
    (hcontext : registry.supportsContext types reached context = true) :
    registry.bind types function runtime context memory =
      (registry.dispatch types reached runtime
        (registry.resolveTemplate types template.id runtime memory).state).map
          (⟨reached.index, ·⟩) := by
  have htarget := target_of_winner hfamily hwinner hreached
  rw [bind_of_target hcallee (congrArg Answer.result htarget) hcontext, htarget]
  rfl

/-- A call of a function of a family goes through with the overload that the template resolves to,
if the known types of a remembered winner take the operands. -/
theorem exists_selectionBinds (h : registry.WellFormed) (hmemory : memory.Fits registry)
    {function : FunctionIndex} {callee : Callee β} {template : Template}
    (hcallee : registry.function? function = some callee)
    (hfamily : registry.family? callee = some template)
    (htakes : memory.WinnerTakes registry types template.id runtime)
    (hwinner : (registry.resolveTemplate types template.id runtime memory).result = .ok winner) :
    ∃ reached, registry.function? winner = some reached ∧ reached.index = winner ∧
      winner ∈ template.members ∧
      registry.SelectionBinds types function template.id runtime memory reached := by
  obtain ⟨hmember, reached, declared, layout, hreached, hdeclared, hlength, hlayout⟩ :=
    exists_layout_of_winner h hmemory htakes (template?_of_family? h hfamily) hwinner
  obtain rfl := h.function_index hreached
  refine ⟨reached, hreached, rfl, hmember, ⟨?own, ?factory⟩, declared, layout, hdeclared, hlength,
    hlayout⟩
  case own =>
    intro context hcontext howner
    have hknown : (reached.argumentTypes types
        (registry.resolveTemplate types template.id runtime memory).state).result = .ok declared :=
      congrArg Answer.result (Callee.argumentTypes_of_known hdeclared)
    rw [bind_of_winner hcallee hfamily hwinner hreached hcontext, dispatch_eq_ownDispatch howner]
    have hdispatch := Callee.ownDispatch_eq_ok_iff.2 ⟨declared, layout, hknown, hlayout, rfl⟩
    exact ⟨declared, _, Answer.result_map_eq_ok.2 ⟨_, hdispatch, rfl⟩, rfl,
      Callee.types?_ownDispatch hknown, Callee.laidOut_of_layout hlayout⟩
  case factory =>
    intro context hcontext id hid
    rw [bind_of_winner hcallee hfamily hwinner hreached hcontext, Answer.result_map, dispatch, hid]
    dsimp only
    rw [result_resolveFactory_of_asksNone (resolveTemplate_asksNone h template.id runtime)
      (made_resolveTemplate h template.id runtime)]

end Registry

/-! ## At every point of every history -/

/-- What is selected is bound. At every point of every history of questions: if the template of a
function offers a choice and resolves to an overload, then the overload is a member of the template,
its types are known, one for each operand, and admit a layout; and a call of the function goes
through with the overload, by its own arguments or with the answer of its factory. This is so
whatever the services of earlier questions answered if the overload is selected now. If a winner is
remembered, then no refinement of theirs may have been taken back. The same is true at every later
point, where the template still resolves to the overload, from memory, as long as the refinements of
now are not taken back. -/
theorem selected_overloads_bound {drafted types : TypeService} {registry : Registry β}
    {opened : Memory β} (h : registry.Opened drafted opened)
    {history : List (TypeService × Query)} {id : TemplateId} {runtime : List TypeId}
    (hrelied : (registry.answerAll scoring history opened).2.winner? id runtime = none ∨
      ∀ step ∈ history, step.1.RefinesWithin types) {function : FunctionIndex}
    {callee : Callee β} (hcallee : registry.function? function = some callee)
    (hid : callee.template = some id) {template : Template}
    (htemplate : registry.template? id = some template) (hmany : 1 < template.members.length)
    {winner : FunctionIndex} (hwinner : (registry.resolveTemplate types id runtime
      (registry.answerAll scoring history opened).2).result = .ok winner) :
    let memory := (registry.answerAll scoring history opened).2
    let resolved := registry.resolveTemplate types id runtime memory
    ∃ reached, registry.function? winner = some reached ∧ reached.index = winner ∧
      winner ∈ template.members ∧
      registry.SelectionBinds types function id runtime memory reached ∧
      ∀ (further : List (TypeService × Query)) (later : TypeService), types.RefinesWithin later →
        let after := (registry.answerAll scoring further resolved.state).2
        registry.resolveTemplate later id runtime after = .ok winner after ∧
          registry.SelectionBinds later function id runtime after reached := by
  intro memory resolved
  have hregistry := h.wellFormed
  have hfamily := Registry.family?_eq_some_iff.2 ⟨id, hid, htemplate, hmany⟩
  obtain rfl := hregistry.template_id htemplate
  have hmemory : memory.Fits registry := h.fits_answerAll history
  have htakes : memory.WinnerTakes registry types template.id runtime := by
    rcases hrelied with hnone | hhistory
    · exact Memory.winnerTakes_of_none hnone
    · exact h.winnerTakes_answerAll hhistory
  obtain ⟨reached, hreached, hindex, hmember, hbinds⟩ :=
    Registry.exists_selectionBinds hregistry hmemory hcallee hfamily htakes hwinner
  refine ⟨reached, hreached, hindex, hmember, hbinds, fun further later hrefines => ?_⟩
  intro after
  -- the winner is remembered for good, and is not selected again
  have hkeeps : resolved.state.Keeps after := Registry.keeps_answerAll hregistry further
  have hagain : registry.resolveTemplate later template.id runtime after = .ok winner after :=
    Registry.resolveTemplate_again hregistry hwinner hkeeps
  have hlater : after.WinnerTakes registry later template.id runtime :=
    Registry.winnerTakes_of_keeps (Registry.winnerTakes_resolveTemplate hregistry htakes)
      (Registry.winner?_resolveTemplate hregistry hwinner) hkeeps hrefines
  have hfits : after.Fits registry :=
    Registry.fits_answerAll hregistry (Registry.fits_of_learns hregistry
      (Registry.resolveTemplate_learns hregistry template.id runtime) hmemory) further
  obtain ⟨found, hfound, _, _, hlast⟩ := Registry.exists_selectionBinds hregistry hfits hcallee
    hfamily hlater (congrArg Answer.result hagain)
  obtain rfl := Option.some.inj (hreached.symm.trans hfound)
  exact ⟨hagain, hlast⟩

/-- If all services have the same refinements, then at every point of every history a call of a
function whose template offers a choice goes through with the overload that the template resolves
to, remembered or not. -/
theorem Registry.Opened.exists_selectionBinds_of_isSubtype_eq {drafted types : TypeService}
    {registry : Registry β} {opened : Memory β} (h : registry.Opened drafted opened)
    {history : List (TypeService × Query)} (hhistory : ∀ step ∈ history, ∀ given wanted,
      types.isSubtype given wanted = step.1.isSubtype given wanted)
    {function : FunctionIndex} {callee : Callee β}
    (hcallee : registry.function? function = some callee) {template : Template}
    (hfamily : registry.family? callee = some template) {runtime : List TypeId}
    {winner : FunctionIndex} (hwinner : (registry.resolveTemplate types template.id runtime
      (registry.answerAll scoring history opened).2).result = .ok winner) :
    ∃ reached, registry.function? winner = some reached ∧ reached.index = winner ∧
      winner ∈ template.members ∧
      registry.SelectionBinds types function template.id runtime
        (registry.answerAll scoring history opened).2 reached :=
  Registry.exists_selectionBinds h.wellFormed (h.fits_answerAll history) hcallee hfamily
    (h.winnerTakes_answerAll fun step hstep => .of_isSubtype_eq (hhistory step hstep)) hwinner

/-- A remembered winner is not selected again: a call by way of it is refused once the refinements
by which it was selected are taken back. -/
example : (Sample.draft.registry.bind { Sample.types with isSubtype := fun _ _ => false } ⟨0⟩
    [⟨2⟩, ⟨1⟩] ⟨3⟩ (Sample.draft.registry.resolveTemplate Sample.types ⟨0⟩ [⟨2⟩, ⟨1⟩]
      Sample.opened).state).result = .error (.noMatch "Tool::Add" "[Float, Int]") := by
  decide +kernel

namespace Sample

/-- A template with an overload for integers and one for numbers, which belongs to a factory. -/
def joining : List (Registration String) :=
  [.factory pairing, .template "Join",
    .member ⟨0⟩ .nobody ⟨"JoinInts", some (.function "join"),
      [⟨"left", "Int", .input⟩, ⟨"right", "Int", .output⟩]⟩,
    .member ⟨0⟩ (.factory ⟨0⟩) ⟨"Pairing::Join", some (.function "unused"),
      [⟨"left", "Number", .input⟩, ⟨"right", "Number", .output⟩]⟩]

/-- The draft with that template. -/
def joins : Draft String := start.applyAll types joining

/-- The memory of the registry with that template. -/
def joinsOpened : Memory String := (joins.freeze types).state

/-- The tables with that template are those of an opened registry. -/
theorem opened_joins : joins.registry.Opened types joinsOpened :=
  ⟨{}, start, joining, start_eq, Draft.freeze_eq_of_isOk (by decide +kernel)⟩

/-- The template with an overload for integers and one for numbers. -/
def join : Template := ⟨⟨0⟩, "Join", [⟨0⟩, ⟨1⟩], some "Join(in left,out right)"⟩

/-- The template is registered under the first key. -/
theorem template?_joins : joins.registry.template? ⟨0⟩ = some join := by decide +kernel

/-- The overload for integers belongs to nobody. -/
theorem function?_joins_zero : joins.registry.function? ⟨0⟩ = some ⟨⟨0⟩, "JoinInts",
    .function "join", .nobody, some ⟨0⟩,
    [⟨"left", "Int", .input⟩, ⟨"right", "Int", .output⟩]⟩ := by decide +kernel

/-- The overload for numbers belongs to the factory. -/
theorem function?_joins_one : joins.registry.function? ⟨1⟩ = some ⟨⟨1⟩, "Pairing::Join",
    .function "unused", .factory ⟨0⟩, some ⟨0⟩,
    [⟨"left", "Number", .input⟩, ⟨"right", "Number", .output⟩]⟩ := by decide +kernel

end Sample

/-- Two integers are bound to the overload for integers by way of the one for numbers, also when the
winner is remembered. A float and an integer are bound to the dispatch that the factory of the
overload for numbers has for them. -/
theorem selected_overloads_bound_to_join :
    Sample.joins.registry.Opened Sample.types Sample.joinsOpened ∧
      (∃ dispatch, (Sample.joins.registry.bind Sample.types ⟨1⟩ [⟨1⟩, ⟨1⟩] ⟨3⟩
        (Sample.joins.registry.answerAll .jaroWinkler
          [(Sample.types, .resolveTemplate ⟨0⟩ [⟨1⟩, ⟨1⟩])] Sample.joinsOpened).2).result =
            .ok ⟨⟨0⟩, dispatch⟩) ∧
      (Sample.joins.registry.bind Sample.types ⟨0⟩ [⟨2⟩, ⟨1⟩] ⟨4⟩
        (Sample.joins.registry.answerAll .jaroWinkler [] Sample.joinsOpened).2).result =
          (Sample.joins.registry.resolveFactory Sample.types ⟨0⟩ [⟨2⟩, ⟨1⟩]
            (Sample.joins.registry.answerAll .jaroWinkler []
              Sample.joinsOpened).2).result.map (⟨⟨1⟩, ·⟩) := by
  have hhistory : ∀ step ∈ [(Sample.types, Query.resolveTemplate ⟨0⟩ [⟨1⟩, ⟨1⟩])],
      step.1.RefinesWithin Sample.types := by
    intro step hstep
    rw [List.mem_singleton.1 hstep]
    exact .refl Sample.types
  have hfresh : (Sample.joins.registry.answerAll .jaroWinkler [] Sample.joinsOpened).2.winner?
      ⟨0⟩ [⟨2⟩, ⟨1⟩] = none := by decide +kernel
  have hints_win : (Sample.joins.registry.resolveTemplate Sample.types ⟨0⟩ [⟨1⟩, ⟨1⟩]
      (Sample.joins.registry.answerAll .jaroWinkler
        [(Sample.types, .resolveTemplate ⟨0⟩ [⟨1⟩, ⟨1⟩])] Sample.joinsOpened).2).result =
          .ok ⟨0⟩ := by decide +kernel
  have hnumbers_win : (Sample.joins.registry.resolveTemplate Sample.types ⟨0⟩ [⟨2⟩, ⟨1⟩]
      (Sample.joins.registry.answerAll .jaroWinkler [] Sample.joinsOpened).2).result = .ok ⟨1⟩ := by
    decide +kernel
  obtain ⟨first, hfirst_found, _, _, hown, _⟩ := selected_overloads_bound Sample.opened_joins
    (.inr hhistory) Sample.function?_joins_one rfl Sample.template?_joins (by decide) hints_win
  obtain rfl := Option.some.inj (Sample.function?_joins_zero.symm.trans hfirst_found)
  obtain ⟨_, dispatch, hbound, _⟩ := hown.own ⟨3⟩ (by decide +kernel) (by simp)
  obtain ⟨second, hsecond_found, _, _, hasked, _⟩ := selected_overloads_bound Sample.opened_joins
    (.inl hfresh) Sample.function?_joins_zero rfl Sample.template?_joins (by decide) hnumbers_win
  obtain rfl := Option.some.inj (Sample.function?_joins_one.symm.trans hsecond_found)
  exact ⟨Sample.opened_joins, ⟨dispatch, hbound⟩, hasked.factory ⟨4⟩ (by decide +kernel) ⟨0⟩ rfl⟩

end Callsite
