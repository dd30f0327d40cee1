import Callsite.Proofs.Memory.Permanence

/-!
# Binding again

A call of a member of a family is a call of the family: it does not matter which member is named
(`Registry.bind_eq_of_members`), so that the function that a bound call reaches may be named instead
(`Registry.bind_function_eq`). Operands of the types of a layout have that layout again
(`Callee.layout_types`). In a family these are the types that the winner declares, with which it
wins against every other member, so that a call with them is bound as before
(`Registry.Opened.bindsAlike_types`).
-/

namespace Callsite

variable {β : Type} {scoring : Scoring}

/-- Two services with the types of a third one have the same types. -/
theorem TypeService.SameTypes.between {types service other : TypeService}
    (hservice : types.SameTypes service) (hother : types.SameTypes other) :
    service.SameTypes other where
  same_texts earlier text := by rw [hother.same_texts, hservice.same_texts]
  isSubtype_eq candidate required := by rw [hother.isSubtype_eq, hservice.isSubtype_eq]

/-- Whether a call is bound to the function, the code and the layout of a binding. The dispatch may
have another serial number. -/
def Registry.BindsAlike (registry : Registry β) (types : TypeService) (function : FunctionIndex)
    (runtime : List TypeId) (context : TypeId) (memory : Memory β) (binding : Binding β) : Prop :=
  ∃ again, (registry.bind types function runtime context memory).result = .ok again ∧
    again.unnumbered = binding.unnumbered

namespace Callee

variable {types : TypeService} {callee : Callee β} {declared runtime : List TypeId}
  {layout : Layout}

/-- Operands of the types of a layout have the same layout. -/
theorem layout_types (h : callee.layout types declared runtime = .ok layout) :
    callee.layout types declared layout.types = .ok layout := by
  obtain ⟨hcount, hlength, hslots⟩ := layout_eq_ok_iff.1 h
  have htypes : layout.types.length = runtime.length := by
    rw [Layout.types, List.length_map, hlength]
  refine layout_eq_ok_iff.2 ⟨htypes.symm ▸ hcount, hlength.trans htypes.symm, ?_⟩
  intro operand given slot hgiven hslot
  have hlt : operand < runtime.length := hlength ▸ (List.getElem?_eq_some_iff.1 hslot).1
  obtain ⟨position, argument, hposition, hargument, hwanted, _, hrest⟩ :=
    slot_eq_ok_iff.1 (hslots operand _ slot (List.getElem?_eq_getElem hlt) hslot)
  have hsame : slot.typeId = given := by
    rw [Layout.types, List.getElem?_map, hslot] at hgiven
    exact Option.some.inj hgiven
  have hfits : types.fits given slot.typeId = true :=
    TypeService.fits_eq_true_iff.2 (.inl hsame.symm)
  exact slot_eq_ok_iff.2
    ⟨position, argument, htypes.symm ▸ hposition, hargument, hwanted, hfits, hrest⟩

/-- A layout for as many operands as arguments has the declared types. -/
theorem types_of_layout (h : callee.layout types declared runtime = .ok layout)
    (hlength : runtime.length = callee.arguments.length)
    (hdeclared : declared.length = callee.arguments.length) : layout.types = declared := by
  obtain ⟨_, hslots_length, hslots⟩ := layout_eq_ok_iff.1 h
  refine List.ext_getElem? fun operand => ?_
  rw [Layout.types, List.getElem?_map]
  cases hslot : layout[operand]? with
  | none =>
    have hle := List.getElem?_eq_none_iff.1 hslot
    exact (List.getElem?_eq_none (by omega)).symm
  | some slot =>
    have hlt : operand < runtime.length := hslots_length ▸ (List.getElem?_eq_some_iff.1 hslot).1
    obtain ⟨position, _, hposition, _, hwanted, _⟩ :=
      slot_eq_ok_iff.1 (hslots operand _ slot (List.getElem?_eq_getElem hlt) hslot)
    -- the operand stands for the argument at its own place
    rw [argumentPosition?_of_lt hlt (hlength ▸ hlt)] at hposition
    obtain rfl := Option.some.inj hposition
    exact hwanted.symm

end Callee

namespace Registry

variable {registry : Registry β} {types other : TypeService} {memory later : Memory β}
  {id : TemplateId} {template : Template} {runtime : List TypeId} {context : TypeId}

/-! ## Naming another member -/

/-- It does not matter which member of a family a call names. -/
theorem bind_eq_of_members (h : registry.WellFormed)
    (htemplate : registry.template? id = some template) (hmany : 1 < template.members.length)
    {first second : FunctionIndex} (hfirst : first ∈ template.members)
    (hsecond : second ∈ template.members) :
    registry.bind types second runtime context memory =
      registry.bind types first runtime context memory := by
  obtain ⟨callee, hcallee, hfamily⟩ := exists_family?_of_member h htemplate hmany hfirst
  obtain ⟨twin, htwin, htwin_family⟩ := exists_family?_of_member h htemplate hmany hsecond
  have htarget : registry.target types twin runtime memory =
      registry.target types callee runtime memory := by
    rw [target, target, hfamily, htwin_family]
  rw [bind, bind, hcallee, htwin]
  dsimp only
  rw [htarget]

/-- The function that a bound call reaches may be named instead of the function that it names, with
every service and at every point. -/
theorem bind_function_eq (h : registry.WellFormed) (hmemory : memory.WinnersFrom registry)
    {function : FunctionIndex} {binding : Binding β}
    (hbinding : (registry.bind types function runtime context memory).result = .ok binding)
    (other : TypeService) (later : Memory β) :
    registry.bind other binding.function runtime context later =
      registry.bind other function runtime context later := by
  obtain ⟨callee, _, hcallee, _, hsame, hmember, _⟩ := bind_sound h hmemory hbinding
  cases hfamily : registry.family? callee with
  | none => rw [hsame hfamily]
  | some template =>
    obtain ⟨id, hlink, htemplate, hmany⟩ := family?_eq_some_iff.1 hfamily
    have hnamed := (h.mem_members_iff htemplate function).2 ⟨callee, hcallee, hlink⟩
    exact bind_eq_of_members h htemplate hmany hnamed (hmember template hfamily)

/-! ## The types of a layout -/

/-- A function that is reached without a factory is bound to its own code and layout, if its
signature admits the layout. -/
theorem exists_bind_own (h : registry.WellFormed) (hstable : types.Stable)
    (hmemory : memory.TypesFrom registry types.Names) {function : FunctionIndex}
    {callee reached : Callee β} {declared : List TypeId} {layout : Layout}
    (hcallee : registry.function? function = some callee)
    (hreached : (registry.target types callee runtime memory).result = .ok reached)
    (hcontext : registry.supportsContext types reached context = true)
    (howner : ∀ id, reached.owner ≠ .factory id)
    (hsignature : reached.signature types = .ok declared)
    (hlayout : reached.layout types declared runtime = .ok layout) :
    ∃ serial, (registry.bind types function runtime context memory).result =
      .ok ⟨reached.index, ⟨reached.invocable, layout⟩, serial⟩ := by
  have hdeclared := result_argumentTypes_of_target h hstable hmemory (h.registered hcallee) hreached
  have hdispatch := Callee.ownDispatch_eq_ok_iff.2
    ⟨declared, layout, hdeclared.trans hsignature, hlayout, rfl⟩
  rw [bind_of_target hcallee hreached hcontext, dispatch_eq_ownDispatch howner]
  exact ⟨_, Answer.result_map_eq_ok.2 ⟨_, hdispatch, rfl⟩⟩

section History

variable {opened : Memory β} {past : List (TypeService × Query)} {service : TypeService}

/-- What a call was bound by, if the function that it reaches belongs to no factory: the context is
one that the function supports, and the binding is the function's own code with the layout that its
signature admits for the operands. -/
theorem Opened.exists_layout_of_bind (h : registry.Opened types opened) (hstable : types.Stable)
    (hpast : ∀ step ∈ past, types.SameTypes step.1) (hservice : types.SameTypes service)
    {function : FunctionIndex} {binding : Binding β}
    (hbinding : (registry.bind service function runtime context
      (registry.answerAll scoring past opened).2).result = .ok binding)
    {reached : Callee β} (hreached : registry.function? binding.function = some reached)
    (howner : ∀ id, reached.owner ≠ .factory id) :
    ∃ callee declared layout, registry.function? function = some callee ∧
      (registry.target service callee runtime (registry.answerAll scoring past opened).2).result =
        .ok reached ∧
      registry.supportsContext types reached context = true ∧
      reached.signature types = .ok declared ∧
      reached.layout types declared runtime = .ok layout ∧
      binding.dispatch.layout = layout ∧
      binding.unnumbered = ⟨reached.index, ⟨reached.invocable, layout⟩, 0⟩ := by
  have hregistry := h.wellFormed
  obtain ⟨callee, found, hcallee, htarget, hcontext, hdispatch, hfunction⟩ :=
    exists_of_bind_eq_ok hbinding
  have hregistered := registered_of_target hregistry (hregistry.registered hcallee) htarget
  rw [hfunction] at hreached
  obtain rfl : found = reached := Option.some.inj (hregistered.symm.trans hreached)
  rw [dispatch_eq_ownDispatch howner] at hdispatch
  obtain ⟨declared, layout, hdeclared, hlayout, hmade⟩ := Callee.ownDispatch_eq_ok_iff.1 hdispatch
  -- the types that the call was laid out by are the signature of the function that it reached
  rw [result_argumentTypes_of_target hregistry (hservice.same_texts.stable hstable)
    (h.settled_answerAll hstable hpast hservice scoring).1 (hregistry.registered hcallee) htarget,
    hservice.same_texts.signature_eq] at hdeclared
  rw [supportsContext_again hservice.isSubtype_eq] at hcontext
  refine ⟨callee, declared, layout, hcallee, htarget, hcontext, hdeclared,
    layout_again (fun _ _ => (hservice.isSubtype_eq _ _).symm) hlayout, ?_, ?_⟩
  · rw [hmade]
    rfl
  · rw [Binding.unnumbered, hfunction, hmade]
    rfl

/-- A call that reaches a function without a factory is bound alike at every point of every history,
wherever the context is supported and the signature of the function admits the layout. -/
theorem Opened.bindsAlike_of_layout (h : registry.Opened types opened) (hstable : types.Stable)
    (hpast : ∀ step ∈ past, types.SameTypes step.1) (hservice : types.SameTypes service)
    {function : FunctionIndex} {callee reached : Callee β} {declared : List TypeId}
    {layout : Layout} (hcallee : registry.function? function = some callee)
    (hreached : (registry.target service callee runtime
      (registry.answerAll scoring past opened).2).result = .ok reached)
    (hcontext : registry.supportsContext types reached context = true)
    (howner : ∀ id, reached.owner ≠ .factory id)
    (hsignature : reached.signature types = .ok declared)
    (hlayout : reached.layout types declared runtime = .ok layout) {binding : Binding β}
    (hbinding : binding.unnumbered = ⟨reached.index, ⟨reached.invocable, layout⟩, 0⟩) :
    registry.BindsAlike service function runtime context (registry.answerAll scoring past opened).2
      binding := by
  rw [← hservice.same_texts.signature_eq] at hsignature
  rw [← supportsContext_again hservice.isSubtype_eq] at hcontext
  obtain ⟨serial, hagain⟩ := exists_bind_own h.wellFormed (hservice.same_texts.stable hstable)
    (h.settled_answerAll hstable hpast hservice scoring).1 hcallee hreached hcontext howner
    hsignature
    (layout_again hservice.isSubtype_eq hlayout)
  exact ⟨_, hagain, hbinding.symm⟩

/-- A call reaches the same function at every point of every history. -/
theorem Opened.target_elsewhere (h : registry.Opened types opened) (hstable : types.Stable)
    (hpast : ∀ step ∈ past, types.SameTypes step.1) (hservice : types.SameTypes service)
    {callee reached : Callee β} (hreached : (registry.target service callee runtime
      (registry.answerAll scoring past opened).2).result = .ok reached)
    {elsewhere : List (TypeService × Query)}
    (helsewhere : ∀ step ∈ elsewhere, types.SameTypes step.1) (hother : types.SameTypes other) :
    (registry.target other callee runtime (registry.answerAll scoring elsewhere opened).2).result =
      .ok reached := by
  rcases target_eq_ok.1 hreached with hsingle | ⟨template, winner, hfamily, hwinner, hfound⟩
  · exact target_eq_ok.2 (.inl hsingle)
  · have htemplate := template?_of_family? h.wellFormed hfamily
    have hwins := (h.resolveTemplate_eq_ok_iff hstable hpast hservice htemplate).1 hwinner
    have hagain : (registry.resolveTemplate other template.id runtime
        (registry.answerAll scoring elsewhere opened).2).result = .ok winner :=
      (h.resolveTemplate_eq_ok_iff hstable helsewhere hother htemplate).2 hwins
    exact target_eq_ok.2 (.inr ⟨template, winner, hfamily, hagain, hfound⟩)

/-- A call that reaches a function by operands that have a layout of it reaches the function by the
types of the layout as well, at every point of every history. -/
theorem Opened.target_types (h : registry.Opened types opened) (hstable : types.Stable)
    (hpast : ∀ step ∈ past, types.SameTypes step.1) (hservice : types.SameTypes service)
    {callee reached : Callee β} {declared : List TypeId} {layout : Layout}
    (hreached : (registry.target service callee runtime
      (registry.answerAll scoring past opened).2).result = .ok reached)
    (hsignature : reached.signature types = .ok declared)
    (hlayout : reached.layout types declared runtime = .ok layout)
    {elsewhere : List (TypeService × Query)}
    (helsewhere : ∀ step ∈ elsewhere, types.SameTypes step.1) (hother : types.SameTypes other) :
    (registry.target other callee layout.types
      (registry.answerAll scoring elsewhere opened).2).result = .ok reached := by
  have hregistry := h.wellFormed
  rcases target_eq_ok.1 hreached with ⟨hnone, rfl⟩ | ⟨template, winner, hfamily, hwinner, hfound⟩
  · rw [target_of_family?_none hnone]
    rfl
  · have htemplate := template?_of_family? hregistry hfamily
    obtain ⟨wanted, hwins⟩ :=
      (h.resolveTemplate_eq_ok_iff hstable hpast hservice htemplate).1 hwinner
    obtain ⟨twin, htwin, hwanted⟩ := hwins.eligible.signature
    obtain rfl := Option.some.inj (hfound.symm.trans htwin)
    obtain rfl := Except.ok.inj (hsignature.symm.trans hwanted)
    -- an overload takes as many operands as it has arguments, so that the layout has its signature
    have hdeclared := Callee.length_of_signature hsignature
    have hlength := hwins.eligible.length_eq.symm.trans hdeclared
    rw [Callee.types_of_layout hlayout hlength hdeclared]
    have hexact := wins_of_signature_eq hregistry (h.distinctSignatures hstable) htemplate
      hwins.eligible.mem hfound hsignature
    have hagain : (registry.resolveTemplate other template.id declared
        (registry.answerAll scoring elsewhere opened).2).result = .ok winner :=
      (h.resolveTemplate_eq_ok_iff hstable helsewhere hother htemplate).2 ⟨declared, hexact⟩
    exact target_eq_ok.2 (.inr ⟨template, winner, hfamily, hagain, hfound⟩)

/-- A bound call of a function without a factory is bound alike by the types of its layout, at every
point of every history. -/
theorem Opened.bindsAlike_types (h : registry.Opened types opened) (hstable : types.Stable)
    (hpast : ∀ step ∈ past, types.SameTypes step.1) (hservice : types.SameTypes service)
    {function : FunctionIndex} {binding : Binding β}
    (hbinding : (registry.bind service function runtime context
      (registry.answerAll scoring past opened).2).result = .ok binding)
    {reached : Callee β} (hreached : registry.function? binding.function = some reached)
    (howner : ∀ id, reached.owner ≠ .factory id) {elsewhere : List (TypeService × Query)}
    (helsewhere : ∀ step ∈ elsewhere, types.SameTypes step.1) (hother : types.SameTypes other) :
    registry.BindsAlike other function binding.dispatch.layout.types context
      (registry.answerAll scoring elsewhere opened).2 binding := by
  obtain ⟨callee, declared, layout, hcallee, htarget, hcontext, hsignature, hlayout, hlayout_eq,
    hmade⟩ := h.exists_layout_of_bind hstable hpast hservice hbinding hreached howner
  have htarget_again := h.target_types hstable hpast hservice htarget hsignature hlayout helsewhere
    hother
  rw [hlayout_eq]
  exact h.bindsAlike_of_layout hstable helsewhere hother hcallee htarget_again hcontext howner
    hsignature (Callee.layout_types hlayout) hmade

end History

/-- A bound call is bound alike at every later point, also if another function is named whose calls
are the same. -/
theorem bindsAlike_later (h : registry.WellFormed) (hrefines : ∀ candidate required,
      other.isSubtype candidate required = types.isSubtype candidate required)
    {function named : FunctionIndex} {binding : Binding β}
    (hbinding : (registry.bind types function runtime context memory).result = .ok binding)
    (hnamed : ∀ later, registry.bind other named runtime context later =
      registry.bind other function runtime context later)
    (further : List (TypeService × Query)) :
    registry.BindsAlike other named runtime context (registry.answerAll scoring further
      (registry.bind types function runtime context memory).state).2 binding := by
  obtain ⟨again, made, hagain, hsame, _⟩ :=
    bind_again hrefines h hbinding (keeps_answerAll h further)
  exact ⟨again, (congrArg Answer.result (hnamed _)).trans (congrArg Answer.result hagain), hsame⟩

end Registry

/-! ## Every history -/

/-- Binding a call again changes nothing. With a type service whose answers never change, at every
point of every history: calls of two members of one family have the same answer, of failures too; if
one is bound, the other is bound alike at every later point; and if the factories answer alike at
all times, the two have the same result at any two points. A bound call has the same answer if the
function that it reaches is named instead, and is bound alike by it at every later point. If that
function belongs to no factory, the call is also bound alike, at every point, if its operands are of
the types of the layout. -/
theorem rebinding_changes_nothing {registry : Registry β} {types : TypeService}
    {opened : Memory β} (h : registry.Opened types opened) (hstable : types.Stable)
    {past : List (TypeService × Query)} (hpast : ∀ step ∈ past, types.SameTypes step.1)
    {service : TypeService} (hservice : types.SameTypes service) (scoring : Scoring)
    (runtime : List TypeId) (context : TypeId) :
    let now := (registry.answerAll scoring past opened).2
    (∀ id template, registry.template? id = some template → 1 < template.members.length →
      ∀ first ∈ template.members, ∀ second ∈ template.members,
        let bound := registry.bind service first runtime context now
        registry.bind service second runtime context now = bound ∧
        (∀ binding, bound.result = .ok binding → ∀ further other, types.SameTypes other →
          registry.BindsAlike other second runtime context
            (registry.answerAll scoring further bound.state).2 binding) ∧
        ∀ elsewhere : List (TypeService × Query), registry.Alike types service →
          (∀ step ∈ past ++ elsewhere, registry.Alike types step.1) →
            (registry.bind service second runtime context
                (registry.answerAll scoring elsewhere opened).2).result.map Binding.unnumbered =
              bound.result.map Binding.unnumbered) ∧
    ∀ function binding,
      let bound := registry.bind service function runtime context now
      bound.result = .ok binding →
        registry.bind service binding.function runtime context now = bound ∧
        (∀ further other, types.SameTypes other →
          registry.BindsAlike other binding.function runtime context
            (registry.answerAll scoring further bound.state).2 binding) ∧
        ∀ reached, registry.function? binding.function = some reached →
          (∀ id, reached.owner ≠ .factory id) →
          ∀ (elsewhere : List (TypeService × Query)) (other : TypeService),
            (∀ step ∈ elsewhere, types.SameTypes step.1) → types.SameTypes other →
              registry.BindsAlike other function binding.dispatch.layout.types context
                (registry.answerAll scoring elsewhere opened).2 binding := by
  intro now
  have hregistry := h.wellFormed
  refine ⟨?members, ?bound⟩
  case members =>
    intro id template htemplate hmany first hfirst second hsecond bound
    refine ⟨Registry.bind_eq_of_members hregistry htemplate hmany hfirst hsecond, ?_, ?_⟩
    · intro binding hbinding further other hother
      exact Registry.bindsAlike_later hregistry (hservice.between hother).isSubtype_eq hbinding
        (fun _ => Registry.bind_eq_of_members hregistry htemplate hmany hfirst hsecond) further
    · intro elsewhere halike halikes
      obtain ⟨hnow, helsewhere⟩ := List.forall_mem_append.1 halikes
      rw [Registry.bind_eq_of_members hregistry htemplate hmany hfirst hsecond]
      exact Registry.result_bind hregistry (hservice.same_texts.stable hstable) halike.steady
        (halike.coherent (h.coherent_answerAll hstable helsewhere))
        (halike.coherent (h.coherent_answerAll hstable hnow)) first runtime context
  case bound =>
    intro function binding bound hbinding
    have hnamed (other : TypeService) (later : Memory β) :
        registry.bind other binding.function runtime context later =
          registry.bind other function runtime context later :=
      Registry.bind_function_eq hregistry (h.winnersFrom_answerAll past) hbinding other later
    refine ⟨hnamed service now, fun further other hother => ?_, ?_⟩
    · exact Registry.bindsAlike_later hregistry (hservice.between hother).isSubtype_eq hbinding
        (hnamed other) further
    · intro reached hreached howner elsewhere other helsewhere hother
      exact h.bindsAlike_types hstable hpast hservice hbinding hreached howner helsewhere hother

namespace Sample

/-- What a call with a float and an integer is bound to: the overload for numbers. -/
def addCall : Binding String :=
  ⟨⟨1⟩, ⟨⟨.function "add", [⟨"a", .input, ⟨0⟩⟩, ⟨"rest", .input, ⟨0⟩⟩]⟩, 0⟩⟩

end Sample

/-- In the sample registry a float and an integer are bound to the overload for numbers, whichever
overload is named, and two numbers are then bound alike by way of the overload for integers. -/
theorem rebinding_changes_nothing_for_numbers :
    Sample.draft.registry.Opened Sample.types Sample.opened ∧ Sample.types.Stable ∧
      (Sample.draft.registry.bind Sample.types ⟨0⟩ [⟨2⟩, ⟨1⟩] ⟨3⟩ Sample.opened).result =
        .ok Sample.addCall ∧
      Sample.draft.registry.bind Sample.types ⟨1⟩ [⟨2⟩, ⟨1⟩] ⟨3⟩ Sample.opened =
        Sample.draft.registry.bind Sample.types ⟨0⟩ [⟨2⟩, ⟨1⟩] ⟨3⟩ Sample.opened ∧
      Sample.draft.registry.BindsAlike Sample.types ⟨0⟩ [⟨0⟩, ⟨0⟩] ⟨3⟩
        (Sample.draft.registry.answerAll .jaroWinkler Sample.addition Sample.opened).2
        Sample.addCall := by
  have hstable : Sample.types.Stable := Catalog.service_stable _
  have hpast : ∀ step ∈ ([] : List (TypeService × Query)), Sample.types.SameTypes step.1 := by simp
  have hbound : (Sample.draft.registry.bind Sample.types ⟨0⟩ [⟨2⟩, ⟨1⟩] ⟨3⟩ Sample.opened).result =
      .ok Sample.addCall := by decide +kernel
  have hreached : Sample.draft.registry.function? ⟨1⟩ = some ⟨⟨1⟩, "Tool::Add", .function "add",
      .struct ⟨0⟩, some ⟨0⟩, [⟨"a", "Number", .input⟩, ⟨"rest", "Number*", .input⟩]⟩ := by
    decide +kernel
  obtain ⟨hmembers, hbinding⟩ := rebinding_changes_nothing Sample.opened_draft hstable hpast
    (.refl Sample.types) .jaroWinkler [⟨2⟩, ⟨1⟩] ⟨3⟩
  have hnamed := (hmembers ⟨0⟩ Sample.add Sample.template?_draft (by decide) ⟨0⟩ (by decide) ⟨1⟩
    (by decide)).1
  have htypes := (hbinding ⟨0⟩ Sample.addCall hbound).2.2 _ hreached (by simp) Sample.addition
    Sample.types Sample.sameTypes_of_mem_addition (.refl Sample.types)
  exact ⟨Sample.opened_draft, hstable, hbound, hnamed, htypes⟩

end Callsite
