import Callsite.Proofs.Memory.Stability

/-!
# Overloads are never ambiguous

A new overload is refused if another one of its template has the same argument types, so that the
signatures of the overloads of a template are pairwise distinct in every draft
(`Registry.DistinctSignatures`), however their texts spell the types. The comparison uses argument
types that were resolved at different times. With a stable service these are the signatures, and the
candidates of every later selection have them as well, so that none is ever ambiguous.
-/

namespace Callsite

open Relation (ReflTransGen)

variable {β : Type}

/-- Whether every overload of a template has a signature, and no two overloads have the same. -/
structure Registry.DistinctSignatures (registry : Registry β) (types : TypeService) : Prop where
  exists_signature : ∀ id template, registry.template? id = some template →
    ∀ callee ∈ registry.membersOf template, ∃ ids, callee.signature types = .ok ids
  nodup : ∀ id template, registry.template? id = some template →
    ((registry.membersOf template).map (Callee.signature types)).Nodup

namespace Registry

variable {registry : Registry β} {types : TypeService} {callee : Callee β}

/-- Distinct signatures are distinct for every service with the same answers on texts. -/
theorem DistinctSignatures.sameTexts {other : TypeService}
    (h : registry.DistinctSignatures types) (hother : types.SameTexts other) :
    registry.DistinctSignatures other := by
  refine ⟨?_, ?_⟩
  · rw [hother.signature_eq]
    exact h.exists_signature
  · rw [hother.signature_eq]
    exact h.nodup

/-! ## Overloads after a registration -/

/-- Entering a function does not change the overloads that a list of members stands for. -/
theorem membersOf_enter (h : registry.WellFormed) {id : TemplateId} {template : Template}
    (htemplate : registry.template? id = some template) :
    (registry.enter callee).membersOf template = registry.membersOf template := by
  refine List.filterMap_congr fun index hindex => ?_
  obtain ⟨other, hother, _⟩ := (h.mem_members_iff htemplate index).1 hindex
  rw [hother, function?_enter_of_some hother]

/-- A template with one more member has one more overload. -/
theorem membersOf_enter_add (h : registry.WellFormed) (hindex : callee.index = ⟨registry.size⟩)
    {id : TemplateId} {template : Template} (htemplate : registry.template? id = some template) :
    (registry.enter callee).membersOf (template.add callee.index callee.arguments) =
      registry.membersOf template ++ [callee] := by
  have hself : (registry.enter callee).function? callee.index = some callee :=
    (function?_enter_eq_some_iff hindex).2 (.inr ⟨rfl, rfl⟩)
  have hold : (registry.enter callee).membersOf template = registry.membersOf template :=
    membersOf_enter h htemplate
  rw [← hold, membersOf, membersOf, Template.add, List.filterMap_append]
  rw [List.filterMap_cons_some hself, List.filterMap_nil]

namespace DistinctSignatures

/-- Entering a function keeps signatures distinct if its own is that of no other overload of its
template. -/
theorem enter (hdistinct : registry.DistinctSignatures types) (h : registry.WellFormed)
    (hindex : callee.index = ⟨registry.size⟩)
    (hnew : ∀ id template, callee.template = some id → registry.template? id = some template →
      (∃ ids, callee.signature types = .ok ids) ∧
        ∀ other ∈ registry.membersOf template, other.signature types ≠ callee.signature types) :
    (registry.enter callee).DistinctSignatures types := by
  refine ⟨?exist, ?nodup⟩
  case exist =>
    intro id found hfound other hother
    obtain ⟨template, htemplate, ⟨hlink, rfl⟩ | ⟨_, rfl⟩⟩ :=
      WellFormed.exists_template_of_enter hfound
    · rw [membersOf_enter_add h hindex htemplate, List.mem_append, List.mem_singleton] at hother
      rcases hother with hold | rfl
      · exact hdistinct.exists_signature id template htemplate other hold
      · exact (hnew id template hlink htemplate).1
    · rw [membersOf_enter h htemplate] at hother
      exact hdistinct.exists_signature id _ htemplate other hother
  case nodup =>
    intro id found hfound
    obtain ⟨template, htemplate, ⟨hlink, rfl⟩ | ⟨_, rfl⟩⟩ :=
      WellFormed.exists_template_of_enter hfound
    · rw [membersOf_enter_add h hindex htemplate, List.map_append, List.nodup_append]
      refine ⟨hdistinct.nodup id template htemplate, List.nodup_singleton _, ?_⟩
      intro signature hsignature last hlast
      obtain ⟨other, hother, rfl⟩ := List.mem_map.1 hsignature
      rw [List.map_singleton, List.mem_singleton] at hlast
      rw [hlast]
      exact (hnew id template hlink htemplate).2 other hother
    · rw [membersOf_enter h htemplate]
      exact hdistinct.nodup id _ htemplate

/-- A template without members keeps signatures distinct. -/
theorem enterTemplate (hdistinct : registry.DistinctSignatures types) (name : String) :
    (registry.enterTemplate name).DistinctSignatures types := by
  have hmembers : ∀ {id : TemplateId} {found : Template},
      (registry.enterTemplate name).template? id = some found →
        registry.template? id = some found ∨ registry.membersOf found = [] := by
    rintro ⟨n⟩ found hfound
    rcases getElem?_concat_eq_some_iff.1 hfound with hold | ⟨_, rfl⟩
    · exact .inl hold
    · exact .inr rfl
  refine ⟨?exist, ?nodup⟩
  case exist =>
    intro id found hfound other hother
    rcases hmembers hfound with hold | hnone
    · exact hdistinct.exists_signature id found hold other hother
    · have hmem : other ∈ registry.membersOf found := hother
      rw [hnone] at hmem
      exact absurd hmem List.not_mem_nil
  case nodup =>
    intro id found hfound
    show ((registry.membersOf found).map (Callee.signature types)).Nodup
    rcases hmembers hfound with hold | hnone
    · exact hdistinct.nodup id found hold
    · rw [hnone]
      exact List.nodup_nil

/-- Every step of a registration keeps signatures distinct if the types that are known afterwards
are those that the texts name. -/
theorem grows (hdistinct : registry.DistinctSignatures types) (h : registry.WellFormed)
    (hstable : types.Stable) {memory : Memory β} {later : Registry β}
    (hmemory : memory.TypesFrom registry types.Names) (hgrows : registry.Grows types memory later) :
    later.DistinctSignatures types := by
  cases hgrows with
  | same => exact hdistinct
  | function hacc hlink =>
    refine hdistinct.enter h hacc.index_eq fun id template hid => ?_
    rw [hlink] at hid
    exact absurd hid (by simp)
  | member hacc hlink htemplate hshape hsignature hother =>
    rename_i callee linked template earlier signature
    -- the signature was resolved at another time than the types it was compared with
    have hsigned : callee.signature types = .ok signature := by
      rw [Callee.signature, result_resolveArguments hstable _ _ 0 earlier, hsignature]
    refine hdistinct.enter h hacc.index_eq fun id found hid hfound => ?_
    obtain rfl := Option.some.inj (hlink.symm.trans hid)
    obtain rfl := Option.some.inj (htemplate.symm.trans hfound)
    refine ⟨⟨signature, hsigned⟩, fun other hmember => ?_⟩
    obtain ⟨declared, hdeclared, hne⟩ := hother other hmember
    obtain ⟨known, hknown, htyped⟩ := hmemory _ _ hdeclared
    have hregistered := h.registered_of_mem_membersOf template other hmember
    obtain rfl := Option.some.inj (hregistered.symm.trans hknown)
    rw [(Callee.signature_eq_ok_iff hstable).2 htyped, hsigned]
    exact fun hsame => hne (Except.ok.inj hsame)
  | struct declaration context => exact ⟨hdistinct.exists_signature, hdistinct.nodup⟩
  | factory factory context => exact ⟨hdistinct.exists_signature, hdistinct.nodup⟩
  | template hnew => exact hdistinct.enterTemplate _

end DistinctSignatures

end Registry

/-- The signatures of the overloads of every template are pairwise distinct after every history of
registrations. -/
theorem Draft.distinctSignatures_applyAll {types : TypeService} (hstable : types.Stable)
    {settings : Settings} {draft : Draft β} (hstart : Draft.start types settings = .ok draft)
    (registrations : List (Registration β)) :
    (draft.applyAll types registrations).registry.DistinctSignatures types := by
  -- the types that are known are part of the invariant, for a new overload is compared with them
  suffices h : (draft.applyAll types registrations).memory.TypesFrom
      (draft.applyAll types registrations).registry types.Names ∧
        (draft.applyAll types registrations).registry.DistinctSignatures types from h.2
  refine applyAll_induction (motive := fun draft =>
    draft.memory.TypesFrom draft.registry types.Names ∧ draft.registry.DistinctSignatures types)
    hstart ?_ ?_ registrations
  · intro context
    refine ⟨Memory.typesFrom_fresh _ types.Names 1, ?_, ?_⟩ <;>
      simp [Registry.empty, Registry.template?]
  · rintro draft later hdraft hadvances ⟨hmemory, hdistinct⟩
    have hlearnt := Registry.typesFrom_learnsTypes hstable.answersWithin hadvances.learns hmemory
    exact ⟨Registry.typesFrom_grows hadvances.grows hlearnt,
      hdistinct.grows hdraft hstable hlearnt hadvances.grows⟩

/-- The signatures of the overloads of every template of an opened registry are pairwise
distinct. -/
theorem Registry.Opened.distinctSignatures {registry : Registry β} {types : TypeService}
    {memory : Memory β} (h : registry.Opened types memory) (hstable : types.Stable) :
    registry.DistinctSignatures types := by
  obtain ⟨settings, start, registrations, hstart, rfl, _⟩ := h.exists_draft
  exact Draft.distinctSignatures_applyAll hstable hstart registrations

/-! ## Selections -/

/-- Functions with signatures make candidates. -/
theorem exists_candidates {types : TypeService} (hstable : types.Stable) {callees : List (Callee β)}
    (h : ∀ callee ∈ callees, ∃ ids, callee.signature types = .ok ids) :
    ∃ candidates, List.Forall₂ (Callee.IsCandidate types.Names) callees candidates := by
  induction callees with
  | nil => exact ⟨[], .nil⟩
  | cons callee rest ih =>
    obtain ⟨⟨ids, hids⟩, hrest⟩ := List.forall_mem_cons.1 h
    obtain ⟨others, hothers⟩ := ih hrest
    have htyped := (Callee.signature_eq_ok_iff hstable).1 hids
    exact ⟨⟨callee.index, ids⟩ :: others, .cons ⟨rfl, htyped⟩ hothers⟩

/-- The types of candidates are the signatures of their functions. -/
theorem map_signature_eq {types : TypeService} (hstable : types.Stable) {callees : List (Callee β)}
    {candidates : List Candidate}
    (h : List.Forall₂ (Callee.IsCandidate types.Names) callees candidates) :
    callees.map (Callee.signature types) = (candidates.map (·.types)).map .ok := by
  induction h with
  | nil => rfl
  | cons hfirst _ ih =>
    have hsignature := (Callee.signature_eq_ok_iff hstable).2 hfirst.2
    rw [List.map_cons, List.map_cons, List.map_cons, ih, hsignature]

namespace Registry

variable {registry : Registry β} {types : TypeService} {memory : Memory β}

/-- If the overloads of a template have distinct signatures, selecting one of them finds it or finds
that none fits. -/
theorem result_selectOverload_cases (h : registry.WellFormed) (hstable : types.Stable)
    (hdistinct : registry.DistinctSignatures types)
    (hmemory : memory.TypesFrom registry types.Names) {id : TemplateId} {template : Template}
    (htemplate : registry.template? id = some template) (runtime : List TypeId) :
    (∃ winner, (registry.selectOverload types template runtime memory).result = .ok winner) ∨
      (registry.selectOverload types template runtime memory).result =
        .error (.noMatch template.name (types.describe runtime)) := by
  obtain ⟨candidates, hcandidates⟩ :=
    exists_candidates hstable (hdistinct.exists_signature id template htemplate)
  have hnodup : (candidates.map (·.types)).Nodup := by
    have hsignatures := hdistinct.nodup id template htemplate
    rw [map_signature_eq hstable hcandidates] at hsignatures
    exact hsignatures.of_map
  -- whatever is remembered, the candidates that are made are these
  have hmade := result_candidatesOf_eq_ok hstable (h.registered_of_mem_membersOf template)
    hmemory hcandidates
  rw [selectOverload, Answer.andThen_of_ok (Answer.result_mapError_eq_ok.2 hmade)]
  cases hselect : select (registry.widens types) candidates runtime with
  | found winner => exact .inl ⟨winner, rfl⟩
  | noMatch => exact .inr rfl
  | ambiguous twins => exact absurd hselect (select_ne_ambiguous hnodup twins)

/-- If the overloads of every template have distinct signatures, resolving a template finds an
overload, finds that none fits, or finds no template. -/
theorem result_resolveTemplate_cases (h : registry.WellFormed) (hstable : types.Stable)
    (hdistinct : registry.DistinctSignatures types)
    (hmemory : memory.TypesFrom registry types.Names) (id : TemplateId) (runtime : List TypeId) :
    (∃ winner, (registry.resolveTemplate types id runtime memory).result = .ok winner) ∨
      (∃ name, (registry.resolveTemplate types id runtime memory).result =
        .error (.noMatch name (types.describe runtime))) ∨
      (registry.resolveTemplate types id runtime memory).result = .error (.unknownTemplate id) := by
  cases htemplate : registry.template? id with
  | none =>
    rw [resolveTemplate_of_template?_none htemplate]
    exact .inr (.inr rfl)
  | some template =>
    cases hknown : memory.winner? id runtime with
    | some winner =>
      rw [resolveTemplate_of_known htemplate hknown]
      exact .inl ⟨winner, rfl⟩
    | none =>
      rw [resolveTemplate_of_unknown htemplate hknown, Answer.result_andThen_ok]
      rcases result_selectOverload_cases h hstable hdistinct hmemory htemplate runtime with
        hfound | hnone
      · exact .inl hfound
      · exact .inr (.inl ⟨template.name, hnone⟩)

end Registry

/-! ## Every history -/

/-- With a type service whose answers on texts never change, every overload in a draft has a
signature, which no other overload of its template has, however the texts spell the types; and a
registry frozen from the draft never finds two overloads equally good or a type unknown when it
resolves a template, whatever it was asked before. -/
theorem overloads_never_ambiguous {types : TypeService} (hstable : types.Stable)
    {settings : Settings} {start : Draft β} (hstart : Draft.start types settings = .ok start)
    (registrations : List (Registration β)) (scoring : Scoring) :
    let draft := start.applyAll types registrations
    (∀ id template, draft.registry.template? id = some template →
      (∀ index ∈ template.members, ∃ callee ids, draft.registry.function? index = some callee ∧
        callee.signature types = .ok ids) ∧
      ∀ i ∈ template.members, ∀ j ∈ template.members, ∀ f g,
        draft.registry.function? i = some f → draft.registry.function? j = some g →
          f.signature types = g.signature types → i = j) ∧
    ∀ registry opened, draft.freeze types = ⟨.ok registry, opened⟩ →
      ∀ history : List (TypeService × Query),
        (∀ step ∈ history, types.SameTexts step.1) →
      ∀ service : TypeService, types.SameTexts service → ∀ id runtime,
        let memory := (registry.answerAll scoring history opened).2
        (∀ target operands twins, (registry.resolveTemplate service id runtime memory).result ≠
          .error (.ambiguous target operands twins)) ∧
        ∀ failure, (registry.resolveTemplate service id runtime memory).result ≠
          .error (.unknownType failure) := by
  intro draft
  have hdraft : draft.registry.WellFormed := Draft.wellFormed_applyAll hstart registrations
  have hdistinct : draft.registry.DistinctSignatures types :=
    Draft.distinctSignatures_applyAll hstable hstart registrations
  refine ⟨?signatures, ?resolved⟩
  case signatures =>
    intro id template htemplate
    have hmember : ∀ {index callee}, index ∈ template.members →
        draft.registry.function? index = some callee →
          callee ∈ draft.registry.membersOf template := by
      intro index callee hindex hcallee
      exact List.mem_filterMap.2 ⟨index, hindex, hcallee⟩
    constructor
    · intro index hindex
      obtain ⟨callee, hcallee, _⟩ := (hdraft.mem_members_iff htemplate index).1 hindex
      obtain ⟨ids, hids⟩ :=
        hdistinct.exists_signature id template htemplate callee (hmember hindex hcallee)
      exact ⟨callee, ids, hcallee, hids⟩
    · intro i hi j hj f g hf hg hsame
      have heq : f = g := List.inj_on_of_nodup_map (hdistinct.nodup id template htemplate)
        (hmember hi hf) (hmember hj hg) hsame
      rw [← hdraft.function_index hf, heq, hdraft.function_index hg]
  case resolved =>
    intro registry opened hfreeze history hhistory service hservice id runtime memory
    have hopened : registry.Opened types opened :=
      ⟨settings, start, registrations, hstart, hfreeze⟩
    obtain rfl : registry = draft.registry := Draft.freeze_eq_ok (congrArg Answer.result hfreeze)
    have hmemory : memory.TypesFrom draft.registry service.Names := by
      rw [hservice.names_eq]
      exact hopened.typesFrom_answerAll hstable.answersWithin
        fun step hstep => (hhistory step hstep).answersWithin hstable
    have hcases := Registry.result_resolveTemplate_cases hdraft (hservice.stable hstable)
      (hdistinct.sameTexts hservice) hmemory id runtime
    constructor
    · intro target operands twins hambiguous
      rw [hambiguous] at hcases
      simp at hcases
    · intro failure hunknown
      rw [hunknown] at hcases
      simp at hcases

/-- In the sample registry, whose first overload spells integers in two ways, operands that only the
second overload takes are resolved to it, without ambiguity. -/
theorem overloads_never_ambiguous_spelled :
    Sample.types.Stable ∧ Draft.start Sample.types {} = .ok Sample.start ∧
      (Sample.draft.registry.resolveTemplate Sample.types ⟨0⟩ [⟨1⟩, ⟨2⟩]
        Sample.opened).result = .ok ⟨1⟩ ∧
      ∀ target operands twins, (Sample.draft.registry.resolveTemplate Sample.types ⟨0⟩ [⟨1⟩, ⟨2⟩]
        Sample.opened).result ≠ .error (.ambiguous target operands twins) := by
  have hstable : Sample.types.Stable := Catalog.service_stable _
  have hresolved := (overloads_never_ambiguous hstable Sample.start_eq Sample.history
    .jaroWinkler).2 Sample.draft.registry Sample.opened Sample.freeze_draft [] (by simp)
    Sample.types (fun _ _ => rfl) ⟨0⟩ [⟨1⟩, ⟨2⟩]
  exact ⟨hstable, Sample.start_eq, by decide +kernel, hresolved.1⟩

end Callsite
