import Callsite.Proofs.Binding.Layout
import Callsite.Proofs.Memory.Provenance
import Callsite.Proofs.Registry.Agreement

/-!
# Call typing

Binding a call is sound: the function reached is the one named, or an overload of its template if
there is a choice, it can run in the context, and its layout gives to each operand the slot of the
argument that the operand stands for, at a type that the operand fits. Binding is complete as well:
a function that is called directly is bound whenever the context, the number of operands and each
operand allow it. Both hold at every point of every history, whatever is remembered by then.
-/

namespace Callsite

variable {β : Type}

namespace Callee

variable {types : TypeService} {callee : Callee β} {memory : Memory β} {runtime : List TypeId}

/-- A function's own code is dispatched exactly if its argument types are found and admit a layout.
The types are known afterwards. -/
theorem ownDispatch_eq_ok_iff {dispatch : Dispatch β} :
    (callee.ownDispatch types runtime memory).result = .ok dispatch ↔
      ∃ declared layout, (callee.argumentTypes types memory).result = .ok declared ∧
        callee.layout types declared runtime = .ok layout ∧
          dispatch = ((callee.argumentTypes types memory).state.make
            ⟨callee.invocable, layout⟩).1 := by
  rw [ownDispatch, Answer.result_andThen_eq_ok]
  refine exists_congr fun declared => ?_
  rw [Answer.result_mapError_eq_ok]
  constructor
  · rintro ⟨hdeclared, hdispatch⟩
    split at hdispatch
    · exact absurd hdispatch (by simp [Answer.fail])
    · rename_i layout hlayout
      exact ⟨layout, hdeclared, hlayout, (Except.ok.inj hdispatch).symm⟩
  · rintro ⟨layout, hdeclared, hlayout, rfl⟩
    refine ⟨hdeclared, ?_⟩
    rw [hlayout]
    rfl

/-- The argument types of a function whose own code is dispatched are known afterwards. -/
theorem types?_ownDispatch {declared : List TypeId}
    (h : (callee.argumentTypes types memory).result = .ok declared) :
    (callee.ownDispatch types runtime memory).state.types? callee.index = some declared := by
  have hknown := types?_argumentTypes h
  rw [ownDispatch]
  refine Answer.state_andThen
    (motive := fun later : Memory β => later.types? callee.index = some declared) hknown
    fun found _ => ?_
  split
  · exact hknown
  · exact hknown

end Callee

namespace Registry

variable {registry : Registry β} {types : TypeService} {memory : Memory β}

/-- A function that is in no family is its own target. -/
theorem target_of_family?_none {callee : Callee β} (h : registry.family? callee = none)
    (runtime : List TypeId) :
    registry.target types callee runtime memory = .ok callee memory := by
  rw [target, h]

/-- The family of a function is its template, if that has more than one member. -/
theorem family?_eq_some_iff {callee : Callee β} {template : Template} :
    registry.family? callee = some template ↔
      ∃ id, callee.template = some id ∧ registry.template? id = some template ∧
        1 < template.members.length := by
  rw [family?, Option.filter_eq_some_iff, Option.bind_eq_some_iff, Template.isGeneric,
    decide_eq_true_iff]
  constructor
  · rintro ⟨⟨id, hid, htemplate⟩, hgeneric⟩
    exact ⟨id, hid, htemplate, hgeneric⟩
  · rintro ⟨id, hid, htemplate, hgeneric⟩
    exact ⟨⟨id, hid, htemplate⟩, hgeneric⟩

/-- The family of a function is registered under its own key. -/
theorem template?_of_family? (h : registry.WellFormed) {callee : Callee β} {template : Template}
    (hfamily : registry.family? callee = some template) :
    registry.template? template.id = some template := by
  obtain ⟨id, _, htemplate, _⟩ := family?_eq_some_iff.1 hfamily
  rwa [h.template_id htemplate]

/-- A function has no family if its template has at most one member. -/
theorem family?_eq_none_iff {callee : Callee β} :
    registry.family? callee = none ↔ ∀ id template, callee.template = some id →
      registry.template? id = some template → template.members.length ≤ 1 := by
  rw [Option.eq_none_iff_forall_ne_some]
  simp only [ne_eq, family?_eq_some_iff, not_exists, not_and, Nat.not_lt]
  exact forall_comm

/-- An overload that a template resolves to is one of its members. -/
theorem mem_members_of_resolveTemplate (h : registry.WellFormed)
    (hwinners : memory.WinnersFrom registry) {id : TemplateId} {template : Template}
    {runtime : List TypeId} {winner : FunctionIndex}
    (htemplate : registry.template? id = some template)
    (hwinner : (registry.resolveTemplate types id runtime memory).result = .ok winner) :
    winner ∈ template.members := by
  have hremembered := winner?_resolveTemplate h hwinner
  have hlater : (registry.resolveTemplate types id runtime memory).state.WinnersFrom registry :=
    learns_induction (resolveTemplate_learns h id runtime) hwinners
      fun _ _ hstep => hstep.winnersFrom h
  obtain ⟨other, hother, hmember⟩ := hlater id runtime winner hremembered
  obtain rfl := Option.some.inj (htemplate.symm.trans hother)
  exact hmember

/-- A function that is called directly dispatches its own code unless it belongs to a factory. -/
theorem dispatch_eq_ownDispatch {callee : Callee β} (h : ∀ id, callee.owner ≠ .factory id)
    (runtime : List TypeId) :
    registry.dispatch types callee runtime memory = callee.ownDispatch types runtime memory := by
  rw [dispatch]
  split
  · rename_i id hid
    exact absurd hid (h id)
  · rfl
  · rfl

/-- A call that reaches a function is bound to its dispatch if the function can run in the
context. -/
theorem bind_of_target {function : FunctionIndex} {callee reached : Callee β}
    {runtime : List TypeId} {context : TypeId} (hcallee : registry.function? function = some callee)
    (hreached : (registry.target types callee runtime memory).result = .ok reached)
    (hcontext : registry.supportsContext types reached context = true) :
    registry.bind types function runtime context memory =
      (registry.dispatch types reached runtime
        (registry.target types callee runtime memory).state).map (⟨reached.index, ·⟩) := by
  rw [bind, hcallee]
  dsimp only
  rw [Answer.andThen_of_ok hreached, if_pos hcontext]

/-- A call whose function is not found fails as finding it does. -/
theorem result_bind_of_target_error {function : FunctionIndex} {callee : Callee β}
    {runtime : List TypeId} {failure : ResolveError}
    (hcallee : registry.function? function = some callee)
    (hfailure : (registry.target types callee runtime memory).result = .error failure)
    (context : TypeId) :
    (registry.bind types function runtime context memory).result = .error failure := by
  rw [bind, hcallee]
  dsimp only
  rw [Answer.andThen_of_error hfailure]

/-- A call that reaches a function without a factory is bound if the function can run in the context
and its argument types are found and admit a layout. -/
theorem exists_bind_of_target {function : FunctionIndex} {callee reached : Callee β}
    {runtime declared : List TypeId} {context : TypeId} {layout : Layout}
    (hcallee : registry.function? function = some callee)
    (hreached : (registry.target types callee runtime memory).result = .ok reached)
    (hcontext : registry.supportsContext types reached context = true)
    (howner : ∀ id, reached.owner ≠ .factory id)
    (hdeclared : (reached.argumentTypes types
      (registry.target types callee runtime memory).state).result = .ok declared)
    (hlayout : reached.layout types declared runtime = .ok layout) :
    ∃ binding, (registry.bind types function runtime context memory).result = .ok binding := by
  rw [bind_of_target hcallee hreached hcontext, dispatch_eq_ownDispatch howner]
  have hdispatch := Callee.ownDispatch_eq_ok_iff.2 ⟨declared, layout, hdeclared, hlayout, rfl⟩
  exact ⟨_, Answer.result_map_eq_ok.2 ⟨_, hdispatch, rfl⟩⟩

/-- What a bound call has gone through: the function it names is registered, the function it reaches
can run in the context, and that function was dispatched. -/
theorem exists_of_bind_eq_ok {function : FunctionIndex} {runtime : List TypeId} {context : TypeId}
    {binding : Binding β}
    (h : (registry.bind types function runtime context memory).result = .ok binding) :
    ∃ callee reached, registry.function? function = some callee ∧
      (registry.target types callee runtime memory).result = .ok reached ∧
        registry.supportsContext types reached context = true ∧
          (registry.dispatch types reached runtime
            (registry.target types callee runtime memory).state).result = .ok binding.dispatch ∧
              binding.function = reached.index := by
  cases hcallee : registry.function? function with
  | none =>
    rw [bind, hcallee] at h
    exact absurd h (by simp [Answer.fail])
  | some callee =>
    have hbind := h
    rw [bind, hcallee] at hbind
    obtain ⟨reached, hreached, hnext⟩ := Answer.result_andThen_eq_ok.1 hbind
    by_cases hcontext : registry.supportsContext types reached context = true
    · rw [bind_of_target hcallee hreached hcontext] at h
      obtain ⟨dispatch, hdispatch, rfl⟩ := Answer.result_map_eq_ok.1 h
      exact ⟨callee, reached, rfl, hreached, hcontext, hdispatch, rfl⟩
    · rw [if_neg hcontext] at hnext
      exact absurd hnext (by simp [Answer.fail])

/-! ## Soundness -/

/-- Binding is sound wherever remembered winners are members of their templates. -/
theorem bind_sound (h : registry.WellFormed) (hwinners : memory.WinnersFrom registry)
    {function : FunctionIndex} {runtime : List TypeId} {context : TypeId} {binding : Binding β}
    (hbinding : (registry.bind types function runtime context memory).result = .ok binding) :
    ∃ callee reached, registry.function? function = some callee ∧
      registry.function? binding.function = some reached ∧
      (registry.family? callee = none → binding.function = function) ∧
      (∀ template, registry.family? callee = some template →
        binding.function ∈ template.members) ∧
      registry.supportsContext types reached context = true ∧
      ((∀ id, reached.owner ≠ .factory id) → ∃ declared,
        (registry.bind types function runtime context memory).state.types? binding.function =
          some declared ∧
        reached.LaidOut types declared runtime binding.dispatch.layout) := by
  obtain ⟨callee, reached, hcallee, hreached, hcontext, hdispatch, hfunction⟩ :=
    exists_of_bind_eq_ok hbinding
  have hregistered := registered_of_target h (h.registered hcallee) hreached
  refine ⟨callee, reached, hcallee, hfunction ▸ hregistered, ?same, ?member, hcontext, ?layout⟩
  case same =>
    intro hfamily
    rw [target_of_family?_none hfamily] at hreached
    obtain rfl := Except.ok.inj hreached
    rw [hfunction, h.function_index hcallee]
  case member =>
    intro template hfamily
    rcases target_eq_ok.1 hreached with ⟨hnone, _⟩ | ⟨other, winner, hother, hwinner, hfound⟩
    · exact absurd (hnone.symm.trans hfamily) (by simp)
    -- the template is resolved by the key that it has itself, which is the one it is found by
    · obtain rfl := Option.some.inj (hother.symm.trans hfamily)
      have htemplate := template?_of_family? h hfamily
      rw [hfunction, h.function_index hfound]
      exact mem_members_of_resolveTemplate h hwinners htemplate hwinner
  case layout =>
    intro howner
    rw [bind_of_target hcallee hreached hcontext, Answer.state_map]
    rw [dispatch_eq_ownDispatch howner] at hdispatch ⊢
    obtain ⟨declared, layout, hdeclared, hlayout, hmade⟩ := Callee.ownDispatch_eq_ok_iff.1 hdispatch
    rw [hfunction, hmade]
    exact ⟨declared, Callee.types?_ownDispatch hdeclared, Callee.laidOut_of_layout hlayout⟩

/-! ## Completeness -/

/-- A function without a family and without a factory, whose argument types are found, is bound
exactly if the context, the number of operands and each operand allow it. -/
theorem exists_bind_eq_ok_iff {function : FunctionIndex} {callee : Callee β}
    {declared : List TypeId} (runtime : List TypeId) (context : TypeId)
    (hcallee : registry.function? function = some callee)
    (howner : ∀ id, callee.owner ≠ .factory id) (hfamily : registry.family? callee = none)
    (hdeclared : (callee.argumentTypes types memory).result = .ok declared) :
    (∃ binding, (registry.bind types function runtime context memory).result = .ok binding) ↔
      registry.supportsContext types callee context = true ∧
        admitsCount callee.arguments runtime.length = true ∧
          ∀ operand given, runtime[operand]? = some given →
            ∃ position wanted,
              argumentPosition? callee.arguments operand runtime.length = some position ∧
                declared[position]? = some wanted ∧ types.fits given wanted = true := by
  have htarget : registry.target types callee runtime memory = .ok callee memory :=
    target_of_family?_none hfamily runtime
  rw [← Callee.exists_layout_iff]
  constructor
  · rintro ⟨binding, hbinding⟩
    obtain ⟨other, reached, hother, hreached, hcontext, hdispatch, _⟩ :=
      exists_of_bind_eq_ok hbinding
    obtain rfl := Option.some.inj (hcallee.symm.trans hother)
    rw [htarget] at hreached hdispatch
    obtain rfl := Except.ok.inj hreached
    rw [dispatch_eq_ownDispatch howner] at hdispatch
    obtain ⟨found, layout, hfound, hlayout, _⟩ := Callee.ownDispatch_eq_ok_iff.1 hdispatch
    obtain rfl := Except.ok.inj (hdeclared.symm.trans hfound)
    exact ⟨hcontext, layout, hlayout⟩
  · rintro ⟨hcontext, layout, hlayout⟩
    have hstate := congrArg Answer.state htarget
    exact exists_bind_of_target hcallee (congrArg Answer.result htarget) hcontext howner
      (by rw [hstate]; exact hdeclared) hlayout

end Registry

/-! ## At every point of every history -/

/-- Binding is sound and complete for call typing, after every history of registrations and of
questions, each question asked of the type service of its time. The types that a layout uses are
known of the function afterwards, and each of them is an answer that one of the services gives to
the element type of its argument. -/
theorem calls_typed_throughout {drafted : TypeService} {registry : Registry β}
    {opened : Memory β} (h : registry.Opened drafted opened)
    (scoring : Scoring) (history : List (TypeService × Query)) (types : TypeService)
    (function : FunctionIndex) (runtime : List TypeId) (context : TypeId) :
    let memory := (registry.answerAll scoring history opened).2
    let bound := registry.bind types function runtime context memory
    let services := drafted :: types :: history.map (·.1)
    (∀ binding, bound.result = .ok binding →
      ∃ callee reached, registry.function? function = some callee ∧
        registry.function? binding.function = some reached ∧
        ((∀ id template, callee.template = some id → registry.template? id = some template →
          template.members.length ≤ 1) → binding.function = function) ∧
        (∀ id template, callee.template = some id → registry.template? id = some template →
          1 < template.members.length → binding.function ∈ template.members) ∧
        registry.supportsContext types reached context = true ∧
        ((∀ id, reached.owner ≠ .factory id) → ∃ declared,
          bound.state.types? binding.function = some declared ∧
          reached.TypedWithin (TypeService.Answered services) declared ∧
          reached.LaidOut types declared runtime binding.dispatch.layout)) ∧
    ∀ callee declared, registry.function? function = some callee →
      (∀ id, callee.owner ≠ .factory id) →
      (∀ id template, callee.template = some id → registry.template? id = some template →
        template.members.length ≤ 1) →
      (callee.argumentTypes types memory).result = .ok declared →
      ((∃ binding, bound.result = .ok binding) ↔
        registry.supportsContext types callee context = true ∧
          (if callee.isVariadic then callee.arguments.length - 1 ≤ runtime.length
            else runtime.length = callee.arguments.length) ∧
          ∀ operand given, runtime[operand]? = some given → ∃ position wanted,
            argumentPosition? callee.arguments operand runtime.length = some position ∧
              declared[position]? = some wanted ∧
                (given = wanted ∨ types.isSubtype given wanted = true)) := by
  intro memory bound services
  have hregistry := h.wellFormed
  have hwithin : ∀ service ∈ services, service.AnswersWithin (TypeService.Answered services) :=
    fun service hservice earlier text id hid => ⟨service, hservice, earlier, hid⟩
  -- the call itself may resolve argument types, so that its service is one of them
  have htypes : bound.state.TypesFrom registry (TypeService.Answered services) := by
    refine Registry.learns_induction (Registry.bind_learns hregistry function runtime context)
      (h.typesFrom_answerAll (hwithin drafted (by simp [services])) fun step hstep => ?_)
      fun _ _ hlearns => hlearns.typesFrom (hwithin types (by simp [services]))
    have hmem := List.mem_map_of_mem (f := Prod.fst) hstep
    exact hwithin step.1 (List.mem_cons_of_mem _ (List.mem_cons_of_mem _ hmem))
  refine ⟨?sound, ?complete⟩
  case sound =>
    intro binding hbinding
    obtain ⟨callee, reached, hcallee, hreached, hsame, hmember, hcontext, hlayout⟩ :=
      Registry.bind_sound hregistry (h.winnersFrom_answerAll history) hbinding
    refine ⟨callee, reached, hcallee, hreached, ?_, ?_, hcontext, ?_⟩
    · exact fun hfew => hsame (Registry.family?_eq_none_iff.2 hfew)
    · intro id template hid htemplate hmany
      exact hmember template (Registry.family?_eq_some_iff.2 ⟨id, hid, htemplate, hmany⟩)
    · intro howner
      obtain ⟨declared, hdeclared, hlaid⟩ := hlayout howner
      obtain ⟨other, hother, htyped⟩ := htypes _ _ hdeclared
      obtain rfl := Option.some.inj (hreached.symm.trans hother)
      exact ⟨declared, hdeclared, htyped, hlaid⟩
  case complete =>
    intro callee declared hcallee howner hfew hdeclared
    have hbound := Registry.exists_bind_eq_ok_iff runtime context hcallee howner
      (Registry.family?_eq_none_iff.2 hfew) hdeclared
    simp only [admitsCount_iff, TypeService.fits_eq_true_iff] at hbound
    exact hbound

/-- What a call of the variadic function of the sample registry with four operands is bound to. -/
def Sample.sumCall : Binding String :=
  ⟨⟨3⟩, ⟨⟨.closure "sum", [⟨"total", .output, ⟨2⟩⟩, ⟨"items", .input, ⟨0⟩⟩,
    ⟨"items", .input, ⟨0⟩⟩, ⟨"items", .input, ⟨0⟩⟩]⟩, 0⟩⟩

/-- In the sample registry a call of a variadic function with two more operands than arguments is
bound, in a context that refines the one needed, and has a slot for each operand. -/
theorem calls_typed_variadic :
    Sample.draft.registry.Opened Sample.types Sample.opened ∧
      (Sample.draft.registry.bind Sample.types ⟨3⟩ [⟨2⟩, ⟨1⟩, ⟨0⟩, ⟨2⟩] ⟨4⟩
        Sample.opened).result = .ok Sample.sumCall ∧
      Sample.sumCall.dispatch.layout.length = 4 := by
  have hbound : (Sample.draft.registry.bind Sample.types ⟨3⟩ [⟨2⟩, ⟨1⟩, ⟨0⟩, ⟨2⟩] ⟨4⟩
      Sample.opened).result = .ok Sample.sumCall := by decide +kernel
  have hsum : Sample.draft.registry.function? ⟨3⟩ = some ⟨⟨3⟩, "Sum", .closure "sum", .nobody,
      none, [⟨"total", "Float", .output⟩, ⟨"items", "Number*", .input⟩]⟩ := by decide +kernel
  obtain ⟨callee, reached, _, hreached, _, _, _, hlayout⟩ :=
    (calls_typed_throughout Sample.opened_draft .jaroWinkler [] Sample.types ⟨3⟩
      [⟨2⟩, ⟨1⟩, ⟨0⟩, ⟨2⟩] ⟨4⟩).1 Sample.sumCall hbound
  obtain rfl := Option.some.inj (hsum.symm.trans hreached)
  obtain ⟨declared, _, _, hlaid⟩ := hlayout (by simp)
  exact ⟨Sample.opened_draft, hbound, hlaid.length_eq⟩

end Callsite
