import Callsite.Proofs.Binding.Failures
import Callsite.Proofs.Binding.Narrowing
import Callsite.Proofs.Binding.Selected
import Callsite.Proofs.Registry.Acceptance

/-!
# Contexts of a call

The context of a call is checked after the function that it reaches was found and before that is
dispatched, and nothing else depends on it. A call that is bound in a context is therefore bound in
every refinement of it in the same way (`Registry.bind_of_refined`), and a call fails for its
context exactly if the function that it reaches does not support that, whatever its operands are
(`Registry.bind_eq_contextMismatch_iff`). The context type that a function needs is the one that the
text of its owner names, or that of the settings (`Registry.Opened.names_contextOf`).
-/

namespace Callsite

variable {β : Type} {scoring : Scoring}

/-- Services with the same types have transitive refinement together. -/
theorem TypeService.SameTypes.transitive {types other : TypeService} (h : types.SameTypes other)
    (htrans : types.Transitive) : other.Transitive := by
  intro first second third hfirst hsecond
  rw [h.isSubtype_eq] at hfirst hsecond ⊢
  exact htrans first second third hfirst hsecond

namespace Registry

variable {registry : Registry β} {types : TypeService} {memory : Memory β}
  {function : FunctionIndex} {runtime : List TypeId} {context refined : TypeId}

/-! ## Refined contexts -/

section Refined

variable (htrans : types.Transitive) (hrefined : types.isSubtype refined context = true)

include htrans hrefined

/-- A function that can run in a context can run in every refinement of it. -/
theorem supportsContext_of_refined {callee : Callee β}
    (h : registry.supportsContext types callee context = true) :
    registry.supportsContext types callee refined = true :=
  htrans.fits (TypeService.fits_eq_true_iff.2 (.inr hrefined)) h

/-- A call that is bound in a context has the same answer in every refinement of it. -/
theorem bind_of_refined {binding : Binding β}
    (h : (registry.bind types function runtime context memory).result = .ok binding) :
    registry.bind types function runtime refined memory =
      registry.bind types function runtime context memory := by
  obtain ⟨callee, reached, hcallee, hreached, hcontext, _⟩ := exists_of_bind_eq_ok h
  have hsupported : registry.supportsContext types reached refined = true :=
    supportsContext_of_refined htrans hrefined hcontext
  rw [bind_of_target hcallee hreached hsupported, bind_of_target hcallee hreached hcontext]

end Refined

/-! ## Contexts that do not fit -/

/-- A call fails for its context exactly if it reaches a function that does not support that. -/
theorem bind_eq_contextMismatch_iff (h : registry.WellFormed)
    (hwinners : memory.WinnersFrom registry) {name needed given : String} :
    (registry.bind types function runtime context memory).result =
        .error (.contextMismatch name needed given) ↔
      ∃ callee reached, registry.function? function = some callee ∧
        (registry.target types callee runtime memory).result = .ok reached ∧
        registry.supportsContext types reached context = false ∧
        .contextMismatch name needed given = registry.contextMismatch types reached context := by
  rw [bind]
  cases hfunction : registry.function? function with
  | none => simp [Answer.fail]
  | some callee =>
    dsimp only
    constructor
    · intro hfailure
      rcases Answer.result_andThen_eq_error.1 hfailure with htarget | ⟨reached, hreached, hnext⟩
      · have hoperands := operandFailure_of_target h hwinners htarget
        exact absurd rfl (hoperands.ne_contextMismatch name needed given)
      · by_cases hcontext : registry.supportsContext types reached context = true
        · rw [if_pos hcontext, Answer.result_map_eq_error] at hnext
          have hoperands := operandFailure_of_dispatch h
            (registered_of_target h (h.registered hfunction) hreached) hnext
          exact absurd rfl (hoperands.ne_contextMismatch name needed given)
        · rw [if_neg hcontext] at hnext
          exact ⟨callee, reached, rfl, hreached, by simpa using hcontext,
            (Except.error.inj hnext).symm⟩
    · rintro ⟨_, reached, hcallee, hreached, hcontext, hmismatch⟩
      obtain rfl := Option.some.inj hcallee
      rw [Answer.andThen_of_ok hreached, if_neg (by simp [hcontext]), hmismatch]
      rfl

/-- What it means for a call to reach a function: either no overload is selected, and it is the one
that the call names, or it is the one that the template of that resolves to. -/
theorem target_eq_ok_iff_resolved (h : registry.WellFormed) {callee reached : Callee β} :
    (registry.target types callee runtime memory).result = .ok reached ↔
      ((∀ id template, callee.template = some id → registry.template? id = some template →
        template.members.length ≤ 1) ∧ reached = callee) ∨
      ∃ id template winner, callee.template = some id ∧ registry.template? id = some template ∧
        1 < template.members.length ∧
        (registry.resolveTemplate types id runtime memory).result = .ok winner ∧
        registry.function? winner = some reached := by
  rw [target_eq_ok, family?_eq_none_iff]
  refine or_congr Iff.rfl ⟨?_, ?_⟩
  · rintro ⟨template, winner, hfamily, hwinner, hfound⟩
    obtain ⟨id, hlink, htemplate, hmany⟩ := family?_eq_some_iff.1 hfamily
    obtain rfl := h.template_id htemplate
    exact ⟨_, template, winner, hlink, htemplate, hmany, hwinner, hfound⟩
  · rintro ⟨id, template, winner, hlink, htemplate, hmany, hwinner, hfound⟩
    obtain rfl := h.template_id htemplate
    exact ⟨template, winner, family?_eq_some_iff.2 ⟨_, hlink, htemplate, hmany⟩, hwinner, hfound⟩

/-! ## Binding again in a refined context -/

section History

variable {opened : Memory β} {past : List (TypeService × Query)} {service other : TypeService}

/-- A call that was bound is bound alike in every refinement of its context at every later point,
and by the same dispatch if the function that it reaches belongs to a factory. -/
theorem bind_later_of_refined (h : registry.WellFormed) (htrans : types.Transitive)
    (hrefined : types.isSubtype refined context = true)
    (hrefines : ∀ candidate required,
      other.isSubtype candidate required = types.isSubtype candidate required)
    {binding : Binding β}
    (hbinding : (registry.bind types function runtime context memory).result = .ok binding)
    (further : List (TypeService × Query)) :
    ∃ again, (registry.bind other function runtime refined (registry.answerAll scoring further
        (registry.bind types function runtime context memory).state).2).result = .ok again ∧
      again.unnumbered = binding.unnumbered ∧
      ∀ reached id, registry.function? binding.function = some reached →
        reached.owner = .factory id → again = binding := by
  have hsame := bind_of_refined htrans hrefined hbinding
  obtain ⟨again, made, hagain, halike, hdispatch⟩ :=
    bind_again hrefines h (hsame ▸ hbinding) (keeps_answerAll h further)
  rw [hsame] at hagain
  refine ⟨again, congrArg Answer.result hagain, halike, fun reached id hreached howner => ?_⟩
  rcases hdispatch with hidentical | ⟨found, hfound, hnone⟩
  · exact hidentical
  · obtain rfl := Option.some.inj (hreached.symm.trans hfound)
    exact absurd howner (hnone id)

/-- A call that was bound without a factory is bound alike in every refinement of its context at
every point of every history. -/
theorem Opened.bindsAlike_of_refined (h : registry.Opened types opened) (hstable : types.Stable)
    (htrans : types.Transitive) (hrefined : types.isSubtype refined context = true)
    (hpast : ∀ step ∈ past, types.SameTypes step.1) (hservice : types.SameTypes service)
    {binding : Binding β} (hbinding : (registry.bind service function runtime context
      (registry.answerAll scoring past opened).2).result = .ok binding)
    {reached : Callee β} (hreached : registry.function? binding.function = some reached)
    (howner : ∀ id, reached.owner ≠ .factory id) {elsewhere : List (TypeService × Query)}
    (helsewhere : ∀ step ∈ elsewhere, types.SameTypes step.1) (hother : types.SameTypes other) :
    registry.BindsAlike other function runtime refined
      (registry.answerAll scoring elsewhere opened).2
      binding := by
  obtain ⟨callee, declared, layout, hcallee, htarget, hcontext, hsignature, hlayout, _, hmade⟩ :=
    h.exists_layout_of_bind hstable hpast hservice hbinding hreached howner
  exact h.bindsAlike_of_layout hstable helsewhere hother hcallee
    (h.target_elsewhere hstable hpast hservice htarget helsewhere hother)
    (supportsContext_of_refined htrans hrefined hcontext) howner hsignature hlayout hmade

end History

end Registry

/-! ## Every context -/

/-- Refined contexts can always be used. Let a registry be frozen with the types of a catalog, asked
anything, and then called with the types of a catalog, the same or another one. A call that is bound
in a context has the same answer in every refinement of it; at every later point it is bound alike
in that refinement, and by the same dispatch if the function that it reaches belongs to a factory.
If the types were the same at all times, a call that reaches a function without a factory is bound
alike in that refinement at every other point as well. A call fails for its context exactly if it
reaches a function, by resolving the template of the one that it names or without that, and the
function that it reaches does not support the context. A function needs the context type that its
factory or struct declares, or that of the settings if there is none of these, and supports that and
what refines it. -/
theorem refined_contexts_usable {drafting requests : List Catalog.Request} {registry : Registry β}
    {opened : Memory β} (h : registry.Opened (Catalog.empty.applyAll drafting).service opened)
    (scoring : Scoring) (past : List (TypeService × Query)) {service : TypeService}
    (hservice : (Catalog.empty.applyAll requests).service.SameTypes service)
    (function : FunctionIndex) (runtime : List TypeId) (context : TypeId) :
    let drafted := (Catalog.empty.applyAll drafting).service
    let now := (registry.answerAll scoring past opened).2
    let bound := registry.bind service function runtime context now
    (∀ refined, service.isSubtype refined context = true →
      ∀ binding, bound.result = .ok binding →
        registry.bind service function runtime refined now = bound ∧
        (∀ further other, service.SameTypes other →
          ∃ again, (registry.bind other function runtime refined
              (registry.answerAll scoring further bound.state).2).result = .ok again ∧
            again.unnumbered = binding.unnumbered ∧
            ∀ reached id, registry.function? binding.function = some reached →
              reached.owner = .factory id → again = binding) ∧
        ∀ (elsewhere : List (TypeService × Query)) (other : TypeService),
          (∀ step ∈ past ++ elsewhere, drafted.SameTypes step.1) → drafted.SameTypes service →
          drafted.SameTypes other →
            ∀ reached, registry.function? binding.function = some reached →
              (∀ id, reached.owner ≠ .factory id) →
                registry.BindsAlike other function runtime refined
                  (registry.answerAll scoring elsewhere opened).2 binding) ∧
    (∀ name needed given, bound.result = .error (.contextMismatch name needed given) ↔
      ∃ callee reached, registry.function? function = some callee ∧
        (((∀ id template, callee.template = some id → registry.template? id = some template →
            template.members.length ≤ 1) ∧ reached = callee) ∨
          ∃ id template winner, callee.template = some id ∧
            registry.template? id = some template ∧ 1 < template.members.length ∧
            (registry.resolveTemplate service id runtime now).result = .ok winner ∧
            registry.function? winner = some reached) ∧
        registry.supportsContext service reached context = false ∧
        .contextMismatch name needed given =
          registry.contextMismatch service reached context) ∧
    ∀ callee, drafted.Names (registry.contextTextOf callee) (registry.contextOf callee) ∧
      (registry.supportsContext service callee context = true ↔
        context = registry.contextOf callee ∨
          service.isSubtype context (registry.contextOf callee) = true) := by
  intro drafted now bound
  have hregistry := h.wellFormed
  have hdrafted : drafted.Stable := Catalog.service_stable _
  have htrans : service.Transitive := hservice.transitive (Catalog.service_transitive requests)
  refine ⟨?usable, ?mismatch, ?needed⟩
  case usable =>
    intro refined hrefined binding hbinding
    refine ⟨Registry.bind_of_refined htrans hrefined hbinding, fun further other hother => ?_, ?_⟩
    · exact Registry.bind_later_of_refined hregistry htrans hrefined hother.isSubtype_eq hbinding
        further
    · intro elsewhere other hsame hsame_service hother reached hreached howner
      obtain ⟨hpast, helsewhere⟩ := List.forall_mem_append.1 hsame
      rw [hsame_service.isSubtype_eq] at hrefined
      exact h.bindsAlike_of_refined hdrafted (Catalog.service_transitive drafting) hrefined hpast
        hsame_service hbinding hreached howner helsewhere hother
  case mismatch =>
    intro name needed given
    have hwinners : now.WinnersFrom registry := h.winnersFrom_answerAll past
    rw [Registry.bind_eq_contextMismatch_iff hregistry hwinners]
    simp only [Registry.target_eq_ok_iff_resolved hregistry]
  case needed =>
    intro callee
    exact ⟨h.names_contextOf hdrafted callee, TypeService.fits_eq_true_iff⟩

namespace Sample

/-- What a call of the template with two integers is bound to: the overload for integers. -/
def joinCall : Binding String :=
  ⟨⟨0⟩, ⟨⟨.function "join", [⟨"left", .input, ⟨1⟩⟩, ⟨"right", .output, ⟨1⟩⟩]⟩, 0⟩⟩

end Sample

/-- Two integers are bound to the overload for integers in the default context, and alike in the
refinement of it that the factory of the overload for numbers needs. A float and an integer reach
that overload by way of the one for integers, and fail in the default context. -/
theorem refined_contexts_usable_by_join :
    Sample.joins.registry.Opened Sample.types Sample.joinsOpened ∧
      Sample.types.SameTypes Sample.types ∧ Sample.types.isSubtype ⟨4⟩ ⟨3⟩ = true ∧
      (Sample.joins.registry.bind Sample.types ⟨0⟩ [⟨1⟩, ⟨1⟩] ⟨3⟩ Sample.joinsOpened).result =
        .ok Sample.joinCall ∧
      Sample.joins.registry.bind Sample.types ⟨0⟩ [⟨1⟩, ⟨1⟩] ⟨4⟩ Sample.joinsOpened =
        Sample.joins.registry.bind Sample.types ⟨0⟩ [⟨1⟩, ⟨1⟩] ⟨3⟩ Sample.joinsOpened ∧
      (Sample.joins.registry.bind Sample.types ⟨0⟩ [⟨2⟩, ⟨1⟩] ⟨3⟩ Sample.joinsOpened).result =
        .error (.contextMismatch "Pairing::Join" "RigContext" "ExecuteContext") := by
  have hrefined : Sample.types.isSubtype ⟨4⟩ ⟨3⟩ = true := by decide +kernel
  have hbound : (Sample.joins.registry.bind Sample.types ⟨0⟩ [⟨1⟩, ⟨1⟩] ⟨3⟩
      Sample.joinsOpened).result = .ok Sample.joinCall := by decide +kernel
  have hwinner : (Sample.joins.registry.resolveTemplate Sample.types ⟨0⟩ [⟨2⟩, ⟨1⟩]
      Sample.joinsOpened).result = .ok ⟨1⟩ := by decide +kernel
  have hsame := ((refined_contexts_usable Sample.opened_joins .jaroWinkler [] (.refl Sample.types)
    ⟨0⟩ [⟨1⟩, ⟨1⟩] ⟨3⟩).1 ⟨4⟩ hrefined _ hbound).1
  have hmismatch := ((refined_contexts_usable Sample.opened_joins .jaroWinkler []
    (.refl Sample.types) ⟨0⟩ [⟨2⟩, ⟨1⟩] ⟨3⟩).2.1 "Pairing::Join" "RigContext" "ExecuteContext").2
    ⟨_, _, Sample.function?_joins_zero, .inr ⟨⟨0⟩, Sample.join, ⟨1⟩, rfl, Sample.template?_joins,
      by decide, hwinner, Sample.function?_joins_one⟩, by decide +kernel, by decide +kernel⟩
  exact ⟨Sample.opened_joins, .refl Sample.types, hrefined, hbound, hsame, hmismatch⟩

end Callsite
