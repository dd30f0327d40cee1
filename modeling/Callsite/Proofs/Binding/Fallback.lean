import Callsite.Proofs.Binding.Rebinding
import Callsite.Proofs.Memory.Laziness

/-!
# Overloads with and without refinements

If overloads accept no refinements, a template resolves to the member that declares exactly the
types of the operands (`Registry.exists_wins_iff_of_strict`). That member also wins if refinements
are accepted (`Registry.Opened.resolveTemplate_withSettings_of_strict`). Nothing else reads the
setting: drafts are frozen alike (`Draft.freeze_withSettings`), and calls that reach the same
function are bound alike (`Registry.result_bind_withSettings`).
-/

namespace Callsite

variable {β : Type} {scoring : Scoring}

/-! ## Exact overloads -/

/-- Whether a member of a template declares exactly the given types. -/
def Registry.Declares (registry : Registry β) (types : TypeService) (template : Template)
    (declared : List TypeId) (member : FunctionIndex) : Prop :=
  member ∈ template.members ∧ ∃ callee, registry.function? member = some callee ∧
    callee.signature types = .ok declared

namespace Registry

variable {registry : Registry β} {types : TypeService} {id : TemplateId} {template : Template}
  {runtime declared : List TypeId} {member : FunctionIndex}

/-- Without refinements, declared types only take operands of these types. -/
theorem takes_iff_eq_of_strict (hstrict : registry.settings.subtypeOverloads = false) :
    Takes (registry.widens types) declared runtime ↔ declared = runtime := by
  simp [Takes, widens, hstrict, List.forall₂_eq_eq_eq]

/-- Without refinements, the member that wins a call is the one that declares the types of the
operands. -/
theorem exists_wins_iff_of_strict (h : registry.WellFormed)
    (hdistinct : registry.DistinctSignatures types)
    (hstrict : registry.settings.subtypeOverloads = false)
    (htemplate : registry.template? id = some template) :
    (∃ declared, registry.Wins types template runtime member declared) ↔
      registry.Declares types template runtime member := by
  constructor
  · rintro ⟨declared, hwins⟩
    obtain ⟨hmember, hsignature, htakes⟩ := eligible_iff_takes.1 hwins.eligible
    obtain rfl := (takes_iff_eq_of_strict hstrict).1 htakes
    exact ⟨hmember, hsignature⟩
  · rintro ⟨hmember, callee, hcallee, hsignature⟩
    exact ⟨runtime, wins_of_signature_eq h hdistinct htemplate hmember hcallee hsignature⟩

/-- Without refinements, no member is eligible for a call exactly if none declares the types of the
operands. -/
theorem forall_not_eligible_iff_of_strict
    (hstrict : registry.settings.subtypeOverloads = false) :
    (∀ member declared, ¬ registry.Eligible types template runtime member declared) ↔
      ∀ member, ¬ registry.Declares types template runtime member := by
  simp only [eligible_iff_takes, takes_iff_eq_of_strict hstrict]
  constructor
  · rintro hnone member ⟨hmember, hsignature⟩
    exact hnone member runtime ⟨hmember, hsignature, rfl⟩
  · rintro hnone member _ ⟨hmember, hsignature, rfl⟩
    exact hnone member ⟨hmember, hsignature⟩

end Registry

/-! ## Other settings -/

/-- A draft is frozen alike under other settings, if these agree on when types are resolved. -/
theorem Draft.freeze_withSettings {types : TypeService} {settings : Settings} {draft : Draft β}
    (heager : settings.eagerTypes = draft.registry.settings.eagerTypes) :
    (draft.withSettings settings).freeze types =
      (draft.freeze types).map (Registry.withSettings settings) := by
  have hsettings : (draft.withSettings settings).registry.settings.eagerTypes =
      draft.registry.settings.eagerTypes := heager
  have hresolve : resolveAll types (draft.withSettings settings).registry.functions
      (draft.withSettings settings).memory =
        resolveAll types draft.registry.functions draft.memory := rfl
  rw [freeze, freeze, hsettings, hresolve]
  split
  · obtain ⟨result, state⟩ := resolveAll types draft.registry.functions draft.memory
    cases result <;> rfl
  · rfl

namespace Registry

variable {registry : Registry β} {types : TypeService} {memory other : Memory β}
  {settings : Settings} {function : FunctionIndex} {runtime : List TypeId} {context : TypeId}

/-- Factories that answer alike do so under all settings. -/
theorem Alike.withSettings {service : TypeService} (h : registry.Alike types service) :
    (registry.withSettings settings).Alike types service :=
  ⟨h.same_texts, h.isSubtype_eq, h.variant?_eq⟩

/-- A call of a function that is called directly has the same answer under other settings. -/
theorem bind_withSettings_of_family?_none
    (hsingle : ∀ callee, registry.function? function = some callee →
      registry.family? callee = none) :
    (registry.withSettings settings).bind types function runtime context memory =
      registry.bind types function runtime context memory := by
  have hfunction : (registry.withSettings settings).function? function =
      registry.function? function := rfl
  rw [bind, bind, hfunction]
  cases hcallee : registry.function? function with
  | none => rfl
  | some callee =>
    have hfamily := hsingle callee hcallee
    have hfamily_other : (registry.withSettings settings).family? callee = none := hfamily
    dsimp only
    rw [target_of_family?_none hfamily, target_of_family?_none hfamily_other]
    rfl

/-- Dispatching a function gives the same result under other settings, if the same is known of
argument types and, for the function of a factory, remembered of the factory. -/
theorem result_dispatch_withSettings (hstable : types.Stable) {callee : Callee β}
    (hcallee : registry.Registered callee) (hmemory : memory.TypesFrom registry types.Names)
    (hother : other.TypesFrom registry types.Names)
    (hfactory : ∀ id, callee.owner = .factory id → registry.Steady types ∧
      memory.Coherent registry types ∧ other.Coherent (registry.withSettings settings) types) :
    ((registry.withSettings settings).dispatch types callee runtime other).result.map
        Dispatch.unnumbered =
      (registry.dispatch types callee runtime memory).result.map Dispatch.unnumbered := by
  by_cases howned : ∃ id, callee.owner = .factory id
  · obtain ⟨id, howner⟩ := howned
    obtain ⟨hsteady, hcoherent, hcoherent_other⟩ := hfactory id howner
    rw [dispatch, dispatch, howner]
    dsimp only
    cases hentry : registry.factory? id with
    | none =>
      have hentry_other : (registry.withSettings settings).factory? id = none := hentry
      rw [resolveFactory, resolveFactory, hentry, hentry_other]
      rfl
    | some entry =>
      have hsteady_other : (registry.withSettings settings).Steady types := hsteady
      have hentry_other : (registry.withSettings settings).factory? id = some entry := hentry
      rw [result_resolveFactory_eq hsteady hcoherent hentry,
        result_resolveFactory_eq hsteady_other hcoherent_other hentry_other]
  · rw [dispatch_eq_ownDispatch (not_exists.1 howned), dispatch_eq_ownDispatch
      (not_exists.1 howned)]
    exact result_ownDispatch hstable hcallee hother hmemory runtime

/-- Calls that reach the same function have the same result under other settings, if the same is
known of argument types and, for the function of a factory, remembered of the factory. -/
theorem result_bind_withSettings (h : registry.WellFormed)
    (hwell : (registry.withSettings settings).WellFormed) (hstable : types.Stable)
    {callee reached : Callee β} (hcallee : registry.function? function = some callee)
    (htarget : (registry.target types callee runtime memory).result = .ok reached)
    (htarget_other :
      ((registry.withSettings settings).target types callee runtime other).result = .ok reached)
    (hmemory : memory.TypesFrom registry types.Names)
    (hother : other.TypesFrom registry types.Names)
    (hfactory : ∀ id, reached.owner = .factory id → registry.Steady types ∧
      memory.Coherent registry types ∧ other.Coherent (registry.withSettings settings) types) :
    ((registry.withSettings settings).bind types function runtime context other).result.map
        Binding.unnumbered =
      (registry.bind types function runtime context memory).result.map Binding.unnumbered := by
  have hcallee_other : (registry.withSettings settings).function? function = some callee := hcallee
  have hcontext : (registry.withSettings settings).supportsContext types reached context =
      registry.supportsContext types reached context := rfl
  rw [bind, bind, hcallee, hcallee_other]
  dsimp only
  rw [Answer.andThen_of_ok htarget, Answer.andThen_of_ok htarget_other, hcontext]
  split
  · have hregistered := registered_of_target h (h.registered hcallee) htarget
    rw [Answer.result_map, Answer.result_map]
    refine map_map_congr (⟨reached.index, ·⟩) (result_dispatch_withSettings hstable hregistered
      (typesFrom_target h hstable hmemory callee runtime)
      (typesFrom_target hwell hstable hother callee runtime) fun id howner => ?_) fun _ => rfl
    obtain ⟨hsteady, hcoherent, hcoherent_other⟩ := hfactory id howner
    exact ⟨hsteady,
      coherent_of_learns h hstable hsteady (target_learns h callee runtime) hcoherent,
      coherent_of_learns hwell hstable hsteady (target_learns hwell callee runtime)
        hcoherent_other⟩
  · rfl

/-! ## At any points of any histories -/

section History

variable {opened : Memory β} {past elsewhere : List (TypeService × Query)} {service : TypeService}

/-- Calls that reach the same function have the same result under other settings at any points of
any histories, if a factory that the function belongs to answers alike at all times. -/
theorem Opened.result_bind_withSettings (h : registry.Opened types opened)
    (hother : (registry.withSettings settings).Opened types opened) (hstable : types.Stable)
    (hhistories : ∀ step ∈ past ++ elsewhere, types.SameTypes step.1)
    (hservice : types.SameTypes service) {callee reached : Callee β}
    (hcallee : registry.function? function = some callee)
    (htarget : (registry.target service callee runtime
      (registry.answerAll scoring past opened).2).result = .ok reached)
    (htarget_other : ((registry.withSettings settings).target service callee runtime
      ((registry.withSettings settings).answerAll scoring elsewhere opened).2).result = .ok reached)
    (hfactory : ∀ id, reached.owner = .factory id → registry.Alike types service ∧
      ∀ step ∈ past ++ elsewhere, registry.Alike types step.1) (context : TypeId) :
    ((registry.withSettings settings).bind service function runtime context
        ((registry.withSettings settings).answerAll scoring elsewhere opened).2).result.map
          Binding.unnumbered =
      (registry.bind service function runtime context
        (registry.answerAll scoring past opened).2).result.map Binding.unnumbered := by
  obtain ⟨hpast, helsewhere⟩ := List.forall_mem_append.1 hhistories
  refine Registry.result_bind_withSettings h.wellFormed hother.wellFormed
    (hservice.same_texts.stable hstable) hcallee htarget htarget_other
    (h.settled_answerAll hstable hpast hservice scoring).1
    (hother.settled_answerAll hstable helsewhere hservice scoring).1 fun id howner => ?_
  obtain ⟨halike, halikes⟩ := hfactory id howner
  obtain ⟨hpast_alike, helsewhere_alike⟩ := List.forall_mem_append.1 halikes
  exact ⟨halike.steady, halike.coherent (h.coherent_answerAll hstable hpast_alike),
    halike.withSettings.coherent (hother.coherent_answerAll hstable
      fun step hstep => (helsewhere_alike step hstep).withSettings)⟩

/-- A template that resolves to a member without refinements resolves to it under all settings. -/
theorem Opened.resolveTemplate_withSettings_of_strict (h : registry.Opened types opened)
    (hother : (registry.withSettings settings).Opened types opened) (hstable : types.Stable)
    (hstrict : registry.settings.subtypeOverloads = false)
    (hhistories : ∀ step ∈ past ++ elsewhere, types.SameTypes step.1)
    (hservice : types.SameTypes service) {id : TemplateId} {template : Template}
    (htemplate : registry.template? id = some template) {member : FunctionIndex}
    (hmember : (registry.resolveTemplate service id runtime
      (registry.answerAll scoring past opened).2).result = .ok member) :
    ((registry.withSettings settings).resolveTemplate service id runtime
      ((registry.withSettings settings).answerAll scoring elsewhere opened).2).result =
        .ok member := by
  obtain ⟨hpast, helsewhere⟩ := List.forall_mem_append.1 hhistories
  have hwins := (h.resolveTemplate_eq_ok_iff hstable hpast hservice htemplate).1 hmember
  -- signatures do not depend on the settings
  obtain ⟨hmem, callee, hcallee, hsignature⟩ :=
    (exists_wins_iff_of_strict h.wellFormed (h.distinctSignatures hstable) hstrict htemplate).1
      hwins
  have hwins_other : (registry.withSettings settings).Wins types template runtime member runtime :=
    wins_of_signature_eq hother.wellFormed (hother.distinctSignatures hstable) htemplate hmem
      hcallee hsignature
  exact (hother.resolveTemplate_eq_ok_iff hstable helsewhere hservice htemplate).2
    ⟨runtime, hwins_other⟩

/-- A call that reaches a function without refinements reaches it under all settings. -/
theorem Opened.target_withSettings_of_strict (h : registry.Opened types opened)
    (hother : (registry.withSettings settings).Opened types opened) (hstable : types.Stable)
    (hstrict : registry.settings.subtypeOverloads = false)
    (hhistories : ∀ step ∈ past ++ elsewhere, types.SameTypes step.1)
    (hservice : types.SameTypes service) {callee reached : Callee β}
    (htarget : (registry.target service callee runtime
      (registry.answerAll scoring past opened).2).result = .ok reached) :
    ((registry.withSettings settings).target service callee runtime
      ((registry.withSettings settings).answerAll scoring elsewhere opened).2).result =
        .ok reached := by
  rcases target_eq_ok.1 htarget with hsingle | ⟨template, winner, hfamily, hwinner, hfound⟩
  · exact target_eq_ok.2 (.inl hsingle)
  · have hagain := h.resolveTemplate_withSettings_of_strict hother hstable hstrict hhistories
      hservice (template?_of_family? h.wellFormed hfamily) hwinner
    exact target_eq_ok.2 (.inr ⟨template, winner, hfamily, hagain, hfound⟩)

end History

end Registry

/-! ## Two drafts -/

/-- Accepting refinements as operands of overloads only adds answers. Suppose that the answers on
texts never change. Two drafts that differ only in this setting have the same outcomes of all
registrations, and they are frozen alike. At any points of any histories of questions: without
refinements, a template resolves to a member exactly if that declares the types of the operands, and
it fails only with the error that no overload accepts the operands; with them, it resolves to this
member as well. A function outside of families has the same answer on each memory with and without
refinements, and the same result at any points, if a factory that it belongs to answers alike at all
times. A call that is bound without refinements is bound alike with them, if that is so for the
function that it reaches. -/
theorem fallback_only_adds_answers {types : TypeService} (hstable : types.Stable)
    {settings : Settings} {start : Draft β} (hstart : Draft.start types settings = .ok start)
    (registrations : List (Registration β)) (scoring : Scoring) :
    ∃ strictStart wideStart : Draft β,
      Draft.start types { settings with subtypeOverloads := false } = .ok strictStart ∧
      Draft.start types { settings with subtypeOverloads := true } = .ok wideStart ∧
      strictStart.outcomes types registrations = wideStart.outcomes types registrations ∧
      let widen := Registry.withSettings { settings with subtypeOverloads := true }
      let strictDraft := strictStart.applyAll types registrations
      let wideDraft := wideStart.applyAll types registrations
      wideDraft.freeze types = (strictDraft.freeze types).map widen ∧
      ∀ strict opened, strictDraft.freeze types = .ok strict opened →
        ∀ past elsewhere : List (TypeService × Query),
          (∀ step ∈ past ++ elsewhere, types.SameTypes step.1) →
        ∀ service, types.SameTypes service →
          let now := (strict.answerAll scoring past opened).2
          let later := ((widen strict).answerAll scoring elsewhere opened).2
          let answersAlike := strict.Alike types service ∧
            ∀ step ∈ past ++ elsewhere, strict.Alike types step.1
          (∀ id template, strict.template? id = some template → ∀ runtime,
            let resolved := (strict.resolveTemplate service id runtime now).result
            (∀ member, resolved = .ok member ↔ strict.Declares types template runtime member) ∧
            (∀ failure, resolved = .error failure ↔
              failure = .noMatch template.name (service.describe runtime) ∧
                ∀ member, ¬ strict.Declares types template runtime member) ∧
            ∀ member, resolved = .ok member →
              ((widen strict).resolveTemplate service id runtime later).result = .ok member) ∧
          (∀ function, (∀ callee id template, strict.function? function = some callee →
              callee.template = some id → strict.template? id = some template →
                template.members.length ≤ 1) → ∀ runtime context,
            (∀ memory, (widen strict).bind service function runtime context memory =
              strict.bind service function runtime context memory) ∧
            ((∀ callee id, strict.function? function = some callee → callee.owner = .factory id →
                answersAlike) →
              ((widen strict).bind service function runtime context later).result.map
                  Binding.unnumbered =
                (strict.bind service function runtime context now).result.map
                  Binding.unnumbered)) ∧
          ∀ function runtime context binding,
            (strict.bind service function runtime context now).result = .ok binding →
            (∀ reached id, strict.function? binding.function = some reached →
              reached.owner = .factory id → answersAlike) →
              (widen strict).BindsAlike service function runtime context later binding := by
  obtain ⟨strictStart, wideStart, hstrictStart, hwideStart, houtcomes, hsettings, hdrafts⟩ :=
    Draft.exists_starts hstart registrations { settings with subtypeOverloads := false }
      { settings with subtypeOverloads := true } rfl rfl
  refine ⟨strictStart, wideStart, hstrictStart, hwideStart, houtcomes, ?_⟩
  intro widen strictDraft wideDraft
  have hwide : wideDraft =
      strictDraft.withSettings { settings with subtypeOverloads := true } := hdrafts
  have hfreeze : wideDraft.freeze types = (strictDraft.freeze types).map widen := by
    rw [hwide]
    exact Draft.freeze_withSettings (by rw [hsettings])
  refine ⟨hfreeze, ?_⟩
  intro strict opened hopened past elsewhere hhistories service hservice now later answersAlike
  obtain ⟨hpast, helsewhere⟩ := List.forall_mem_append.1 hhistories
  have h : strict.Opened types opened := ⟨_, _, registrations, hstrictStart, hopened⟩
  have hother : (widen strict).Opened types opened :=
    ⟨_, _, registrations, hwideStart, by rw [hfreeze, hopened]; rfl⟩
  have hstrict : strict.settings.subtypeOverloads = false := by
    rw [Draft.freeze_eq_ok (congrArg Answer.result hopened), hsettings]
  refine ⟨?templates, ?single, ?bound⟩
  case templates =>
    intro id template htemplate runtime resolved
    refine ⟨fun member => ?_, fun failure => ?_, fun member hmember => ?_⟩
    · rw [h.resolveTemplate_eq_ok_iff hstable hpast hservice htemplate]
      exact Registry.exists_wins_iff_of_strict h.wellFormed (h.distinctSignatures hstable) hstrict
        htemplate
    · rw [h.resolveTemplate_eq_error_iff hstable hpast hservice htemplate,
        Registry.forall_not_eligible_iff_of_strict hstrict]
    · exact h.resolveTemplate_withSettings_of_strict hother hstable hstrict hhistories hservice
        htemplate hmember
  case single =>
    intro function hsingle runtime context
    have hfamily (callee : Callee β) (hcallee : strict.function? function = some callee) :
        strict.family? callee = none :=
      Registry.family?_eq_none_iff.2 fun id template => hsingle callee id template hcallee
    refine ⟨fun memory => Registry.bind_withSettings_of_family?_none hfamily, fun hfactory => ?_⟩
    cases hcallee : strict.function? function with
    | none =>
      have hcallee_wide : (widen strict).function? function = none := hcallee
      rw [Registry.bind, Registry.bind, hcallee, hcallee_wide]
      rfl
    | some callee =>
      have htarget : (strict.target service callee runtime now).result = .ok callee :=
        congrArg Answer.result (Registry.target_of_family?_none (hfamily callee hcallee) runtime)
      exact h.result_bind_withSettings hother hstable hhistories hservice hcallee htarget
        (h.target_withSettings_of_strict hother hstable hstrict hhistories hservice htarget)
        (fun id => hfactory callee id hcallee) context
  case bound =>
    intro function runtime context binding hbinding hfactory
    obtain ⟨callee, reached, hcallee, htarget, _, _, hfunction⟩ :=
      Registry.exists_of_bind_eq_ok hbinding
    have hreached := Registry.registered_of_target h.wellFormed (h.wellFormed.registered hcallee)
      htarget
    have hsame := h.result_bind_withSettings hother hstable hhistories hservice hcallee htarget
      (h.target_withSettings_of_strict hother hstable hstrict hhistories hservice htarget)
      (fun id => hfactory reached id (hfunction ▸ hreached)) context
    rw [hbinding] at hsame
    exact Answer.result_map_eq_ok.1 hsame

namespace Sample

/-- The start of a draft whose overloads accept no refinements. -/
def strictStart : Draft String := ⟨.empty { subtypeOverloads := false } ⟨3⟩, .fresh 1⟩

/-- The draft after the sample history, if overloads accept no refinements. -/
def strict : Draft String := strictStart.applyAll types history

/-- The memory of the registry that this draft is frozen into. -/
def strictOpened : Memory String := (strict.freeze types).state

/-- This draft can be frozen. -/
theorem freeze_strict : strict.freeze types = .ok strict.registry strictOpened :=
  Draft.freeze_eq_of_isOk (by decide +kernel)

end Sample

/-- In the sample registry two integers are added by the overload for integers, with and without
refinements. A float and an integer are only added with refinements, for no overload declares these
types. The variadic function is bound to them alike. -/
theorem fallback_only_adds_answers_to_addition :
    Sample.types.Stable ∧ Draft.start Sample.types {} = .ok Sample.start ∧
      Sample.strict.freeze Sample.types = .ok Sample.strict.registry Sample.strictOpened ∧
      (Sample.strict.registry.resolveTemplate Sample.types ⟨0⟩ [⟨1⟩, ⟨1⟩]
        Sample.strictOpened).result = .ok ⟨0⟩ ∧
      (Sample.draft.registry.resolveTemplate Sample.types ⟨0⟩ [⟨1⟩, ⟨1⟩]
        (Sample.draft.registry.answerAll .jaroWinkler Sample.addition Sample.opened).2).result =
          .ok ⟨0⟩ ∧
      (∀ member, ¬ Sample.strict.registry.Declares Sample.types Sample.add [⟨2⟩, ⟨1⟩] member) ∧
      (Sample.draft.registry.resolveTemplate Sample.types ⟨0⟩ [⟨2⟩, ⟨1⟩] Sample.opened).result =
        .ok ⟨1⟩ ∧
      Sample.draft.registry.bind Sample.types ⟨3⟩ [⟨2⟩, ⟨1⟩] ⟨3⟩ Sample.strictOpened =
        Sample.strict.registry.bind Sample.types ⟨3⟩ [⟨2⟩, ⟨1⟩] ⟨3⟩ Sample.strictOpened := by
  have hstable : Sample.types.Stable := Catalog.service_stable _
  have htemplate : Sample.strict.registry.template? ⟨0⟩ = some Sample.add := by decide +kernel
  have hsum : Sample.strict.registry.function? ⟨3⟩ = some ⟨⟨3⟩, "Sum", .closure "sum", .nobody,
      none, [⟨"total", "Float", .output⟩, ⟨"items", "Number*", .input⟩]⟩ := by decide +kernel
  have hints : (Sample.strict.registry.resolveTemplate Sample.types ⟨0⟩ [⟨1⟩, ⟨1⟩]
      Sample.strictOpened).result = .ok ⟨0⟩ := by decide +kernel
  have hmixed : (Sample.strict.registry.resolveTemplate Sample.types ⟨0⟩ [⟨2⟩, ⟨1⟩]
      Sample.strictOpened).result = .error (.noMatch "Add" "[Float, Int]") := by decide +kernel
  obtain ⟨_, _, hstrict, hwide, _, hfreeze, hanswers⟩ :=
    fallback_only_adds_answers hstable Sample.start_eq Sample.history .jaroWinkler
  obtain rfl : Sample.strictStart = _ := Except.ok.inj hstrict
  obtain rfl := Except.ok.inj (Sample.start_eq.symm.trans hwide)
  obtain ⟨htemplates, hsingle, _⟩ := hanswers _ _ Sample.freeze_strict [] Sample.addition
    Sample.sameTypes_of_mem_addition Sample.types (.refl Sample.types)
  -- the draft with refinements is frozen into the same tables, under its own settings
  have hfrozen : Sample.draft.freeze Sample.types = _ := hfreeze
  rw [← Sample.strict, Sample.freeze_draft, Sample.freeze_strict] at hfrozen
  obtain ⟨hresult, hmemory⟩ := Answer.mk.inj hfrozen
  have htables : Sample.draft.registry = _ := Except.ok.inj hresult
  have hmemory_same : Sample.opened = Sample.strictOpened := hmemory
  have hsame := (htemplates ⟨0⟩ Sample.add htemplate [⟨1⟩, ⟨1⟩]).2.2 ⟨0⟩ hints
  have hnone := ((htemplates ⟨0⟩ Sample.add htemplate [⟨2⟩, ⟨1⟩]).2.1 _).1 hmixed
  have hnowhere : ∀ callee id template, Sample.strict.registry.function? ⟨3⟩ = some callee →
      callee.template = some id → Sample.strict.registry.template? id = some template →
        template.members.length ≤ 1 := by
    intro callee id template hcallee hlink
    obtain rfl := Option.some.inj (hsum.symm.trans hcallee)
    exact absurd hlink (by simp)
  have hbound := (hsingle ⟨3⟩ hnowhere [⟨2⟩, ⟨1⟩] ⟨3⟩).1 Sample.strictOpened
  rw [← htables] at hsame hbound
  rw [← hmemory_same] at hsame
  exact ⟨hstable, Sample.start_eq, Sample.freeze_strict, hints, hsame, hnone.2, by decide +kernel,
    hbound⟩

end Callsite
