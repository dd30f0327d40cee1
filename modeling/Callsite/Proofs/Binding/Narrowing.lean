import Callsite.Proofs.Binding.Rebinding
import Callsite.Proofs.Typing.Order

/-!
# Narrower operands

Operand types are narrower than others if each is the other one or refines it. Refinement in a
catalog is transitive, so that a type fits wherever a wider one does. A function that is called
directly has the layout of the wider operands for the narrower ones as well
(`Callee.layout_of_narrows`), and an overload that is eligible stays so
(`Registry.Eligible.of_narrows`). Narrower operands may make other overloads eligible, and exact
positions may come and go, so that another overload may win; but some overload does.
-/

namespace Callsite

variable {β : Type}

/-! ## Transitive refinement -/

/-- Whether a refinement of a refinement is one. -/
def TypeService.Transitive (types : TypeService) : Prop :=
  ∀ first second third, types.isSubtype first second = true →
    types.isSubtype second third = true → types.isSubtype first third = true

/-- Refinement in a catalog is transitive. -/
theorem Catalog.service_transitive (requests : List Catalog.Request) :
    (Catalog.empty.applyAll requests).service.Transitive :=
  fun _ _ _ => Catalog.isSubtype_trans (Catalog.parentsFirst_applyAll requests)

/-- A type fits wherever a type does that it fits. -/
theorem TypeService.Transitive.fits {types : TypeService} (h : types.Transitive)
    {given wide wanted : TypeId} (hgiven : types.fits given wide = true)
    (hwide : types.fits wide wanted = true) : types.fits given wanted = true := by
  rw [fits_eq_true_iff] at hgiven hwide ⊢
  rcases hgiven with rfl | hgiven
  · exact hwide
  · rcases hwide with rfl | hwide
    · exact .inr hgiven
    · exact .inr (h given wide wanted hgiven hwide)

/-- Whether operand types are narrower than others: there are as many, and each is the other one or
refines it. -/
def TypeService.Narrows (types : TypeService) (narrower runtime : List TypeId) : Prop :=
  List.Forall₂ (fun given wide => given = wide ∨ types.isSubtype given wide = true)
    narrower runtime

/-- Each of narrower operands fits where the wider one does that stands at its place. -/
theorem TypeService.Narrows.exists_wider {types : TypeService} {narrower runtime : List TypeId}
    (h : types.Narrows narrower runtime) {operand : Nat} {given : TypeId}
    (hgiven : narrower[operand]? = some given) :
    ∃ wide, runtime[operand]? = some wide ∧ types.fits given wide = true := by
  obtain ⟨hlt, rfl⟩ := List.getElem?_eq_some_iff.1 hgiven
  have hlt' : operand < runtime.length := h.length_eq ▸ hlt
  exact ⟨_, List.getElem?_eq_getElem hlt', TypeService.fits_eq_true_iff.2 (h.get hlt hlt')⟩

/-! ## Layouts and overloads -/

section Narrower

variable {types : TypeService} {narrower runtime declared : List TypeId}
  (htrans : types.Transitive) (hnarrows : types.Narrows narrower runtime)

include htrans hnarrows

/-- Narrower operands have the layout of the wider ones. -/
theorem Callee.layout_of_narrows {callee : Callee β} {layout : Layout}
    (h : callee.layout types declared runtime = .ok layout) :
    callee.layout types declared narrower = .ok layout := by
  obtain ⟨hcount, hlength, hslots⟩ := layout_eq_ok_iff.1 h
  have hsame : narrower.length = runtime.length := hnarrows.length_eq
  refine layout_eq_ok_iff.2 ⟨hsame.symm ▸ hcount, hlength.trans hsame.symm, ?_⟩
  intro operand given slot hgiven hslot
  obtain ⟨wide, hwide, hfits⟩ := hnarrows.exists_wider hgiven
  -- the slot depends on the number of operands and on the declared type only
  obtain ⟨position, argument, hposition, hargument, hwanted, hwide_fits, hrest⟩ :=
    slot_eq_ok_iff.1 (hslots operand wide slot hwide hslot)
  exact slot_eq_ok_iff.2 ⟨position, argument, hsame.symm ▸ hposition, hargument, hwanted,
    htrans.fits hfits hwide_fits, hrest⟩

/-- If overloads accept refinements, a member that is eligible for a call is eligible for narrower
operands. -/
theorem Registry.Eligible.of_narrows {registry : Registry β}
    (hsubtypes : registry.settings.subtypeOverloads = true) {template : Template}
    {member : FunctionIndex} (h : registry.Eligible types template runtime member declared) :
    registry.Eligible types template narrower member declared := by
  refine ⟨h.mem, h.signature, h.length_eq.trans hnarrows.length_eq.symm, ?_⟩
  intro i want given hwant hgiven
  obtain ⟨wide, hwide, hfits⟩ := hnarrows.exists_wider hgiven
  have hwide_fits : types.fits wide want = true :=
    TypeService.fits_eq_true_iff.2 ((h.accepted i want wide hwant hwide).imp Eq.symm And.right)
  exact (TypeService.fits_eq_true_iff.1 (htrans.fits hfits hwide_fits)).imp Eq.symm (⟨hsubtypes, ·⟩)

end Narrower

/-! ## Every history -/

/-- Narrower operands stay acceptable. In a catalog, whatever was asked before: if a function that
belongs to no factory and to no template with a choice is bound for some operands, then it is bound
alike for narrower ones, at every point of every history. If overloads accept refinements and a
template resolves for some operands, then it resolves for narrower ones, at every point as well. -/
theorem narrower_operands_accepted {requests : List Catalog.Request} {registry : Registry β}
    {opened : Memory β} (h : registry.Opened (Catalog.empty.applyAll requests).service opened)
    {past : List (TypeService × Query)}
    (hpast : ∀ step ∈ past, (Catalog.empty.applyAll requests).service.SameTypes step.1)
    {service : TypeService} (hservice : (Catalog.empty.applyAll requests).service.SameTypes service)
    {narrower runtime : List TypeId}
    (hnarrows : (Catalog.empty.applyAll requests).service.Narrows narrower runtime)
    (scoring : Scoring) :
    let types := (Catalog.empty.applyAll requests).service
    let now := (registry.answerAll scoring past opened).2
    (∀ function callee, registry.function? function = some callee →
      (∀ id, callee.owner ≠ .factory id) →
      (∀ id template, callee.template = some id → registry.template? id = some template →
        template.members.length ≤ 1) →
      ∀ context binding, (registry.bind service function runtime context now).result =
          .ok binding →
        ∀ (elsewhere : List (TypeService × Query)) (other : TypeService),
          (∀ step ∈ elsewhere, types.SameTypes step.1) → types.SameTypes other →
            registry.BindsAlike other function narrower context
              (registry.answerAll scoring elsewhere opened).2 binding) ∧
    (registry.settings.subtypeOverloads = true →
      ∀ id winner, (registry.resolveTemplate service id runtime now).result = .ok winner →
        ∀ (elsewhere : List (TypeService × Query)) (other : TypeService),
          (∀ step ∈ elsewhere, types.SameTypes step.1) → types.SameTypes other →
            ∃ closest, (registry.resolveTemplate other id narrower
              (registry.answerAll scoring elsewhere opened).2).result = .ok closest) := by
  intro types now
  have hstable : types.Stable := Catalog.service_stable _
  have htrans : types.Transitive := Catalog.service_transitive requests
  refine ⟨?bound, ?resolved⟩
  case bound =>
    intro function callee hcallee howner hsingle context binding hbinding elsewhere other
      helsewhere hother
    have hfamily := Registry.family?_eq_none_iff.2 hsingle
    -- a function that is called directly is the one that the call reaches
    obtain ⟨named, _, hnamed, _, hsame, _⟩ :=
      Registry.bind_sound h.wellFormed (h.winnersFrom_answerAll past) hbinding
    obtain rfl : callee = named := Option.some.inj (hcallee.symm.trans hnamed)
    have hfunction : registry.function? binding.function = some callee := by
      rw [hsame hfamily, hcallee]
    obtain ⟨_, declared, layout, _, _, hcontext, hsignature, hlayout, _, hmade⟩ :=
      h.exists_layout_of_bind hstable hpast hservice hbinding hfunction howner
    have htarget : (registry.target other callee narrower
        (registry.answerAll scoring elsewhere opened).2).result = .ok callee :=
      congrArg Answer.result (Registry.target_of_family?_none hfamily narrower)
    exact h.bindsAlike_of_layout hstable helsewhere hother hcallee htarget hcontext howner
      hsignature (Callee.layout_of_narrows htrans hnarrows hlayout) hmade
  case resolved =>
    intro hsubtypes id winner hwinner elsewhere other helsewhere hother
    cases htemplate : registry.template? id with
    | none =>
      rw [Registry.resolveTemplate_of_template?_none htemplate] at hwinner
      exact absurd hwinner (by simp [Answer.fail])
    | some template =>
      obtain ⟨declared, hwins⟩ :=
        (h.resolveTemplate_eq_ok_iff hstable hpast hservice htemplate).1 hwinner
      have heligible := hwins.eligible.of_narrows htrans hnarrows hsubtypes
      cases hresult : (registry.resolveTemplate other id narrower
          (registry.answerAll scoring elsewhere opened).2).result with
      | ok closest => exact ⟨closest, rfl⟩
      | error failure =>
        obtain ⟨_, hnone⟩ :=
          (h.resolveTemplate_eq_error_iff hstable helsewhere hother htemplate).1 hresult
        exact absurd heligible (hnone winner declared)

namespace Sample

/-- What a call of the variadic function with two numbers is bound to. -/
def numbersCall : Binding String :=
  ⟨⟨3⟩, ⟨⟨.closure "sum",
    [⟨"total", .output, ⟨2⟩⟩, ⟨"items", .input, ⟨0⟩⟩, ⟨"items", .input, ⟨0⟩⟩]⟩, 0⟩⟩

end Sample

/-- In the sample registry the variadic function is bound to a float and two numbers, and alike to a
float, an integer and a float. Two numbers are added by the overload for numbers, and so an integer
and a number are added by some overload. -/
theorem narrower_operands_accepted_by_sums :
    Sample.draft.registry.Opened Sample.types Sample.opened ∧
      Sample.types.Narrows [⟨2⟩, ⟨1⟩, ⟨2⟩] [⟨2⟩, ⟨0⟩, ⟨0⟩] ∧
      (Sample.draft.registry.bind Sample.types ⟨3⟩ [⟨2⟩, ⟨0⟩, ⟨0⟩] ⟨3⟩ Sample.opened).result =
        .ok Sample.numbersCall ∧
      Sample.draft.registry.BindsAlike Sample.types ⟨3⟩ [⟨2⟩, ⟨1⟩, ⟨2⟩] ⟨3⟩
        (Sample.draft.registry.answerAll .jaroWinkler Sample.addition Sample.opened).2
        Sample.numbersCall ∧
      Sample.types.Narrows [⟨1⟩, ⟨0⟩] [⟨0⟩, ⟨0⟩] ∧
      Sample.draft.registry.settings.subtypeOverloads = true ∧
      (Sample.draft.registry.resolveTemplate Sample.types ⟨0⟩ [⟨0⟩, ⟨0⟩] Sample.opened).result =
        .ok ⟨1⟩ ∧
      ∃ closest, (Sample.draft.registry.resolveTemplate Sample.types ⟨0⟩ [⟨1⟩, ⟨0⟩]
        (Sample.draft.registry.answerAll .jaroWinkler Sample.addition Sample.opened).2).result =
          .ok closest := by
  have hpast : ∀ step ∈ ([] : List (TypeService × Query)), Sample.types.SameTypes step.1 := by simp
  have haddition := Sample.sameTypes_of_mem_addition
  have hsum : Sample.draft.registry.function? ⟨3⟩ = some ⟨⟨3⟩, "Sum", .closure "sum", .nobody, none,
      [⟨"total", "Float", .output⟩, ⟨"items", "Number*", .input⟩]⟩ := by decide +kernel
  have hitems : Sample.types.Narrows [⟨2⟩, ⟨1⟩, ⟨2⟩] [⟨2⟩, ⟨0⟩, ⟨0⟩] :=
    .cons (.inl rfl) (.cons (.inr (by decide +kernel)) (.cons (.inr (by decide +kernel)) .nil))
  have hpair : Sample.types.Narrows [⟨1⟩, ⟨0⟩] [⟨0⟩, ⟨0⟩] :=
    .cons (.inr (by decide +kernel)) (.cons (.inl rfl) .nil)
  have hbound : (Sample.draft.registry.bind Sample.types ⟨3⟩ [⟨2⟩, ⟨0⟩, ⟨0⟩] ⟨3⟩
      Sample.opened).result = .ok Sample.numbersCall := by decide +kernel
  have hresolved : (Sample.draft.registry.resolveTemplate Sample.types ⟨0⟩ [⟨0⟩, ⟨0⟩]
      Sample.opened).result = .ok ⟨1⟩ := by decide +kernel
  have hnarrower := (narrower_operands_accepted Sample.opened_draft hpast (.refl Sample.types)
    hitems .jaroWinkler).1 ⟨3⟩ _ hsum (by simp) (by simp) ⟨3⟩ _ hbound Sample.addition Sample.types
    haddition (.refl Sample.types)
  have hclosest := (narrower_operands_accepted Sample.opened_draft hpast (.refl Sample.types)
    hpair .jaroWinkler).2 (by decide +kernel) ⟨0⟩ ⟨1⟩ hresolved Sample.addition Sample.types
    haddition (.refl Sample.types)
  exact ⟨Sample.opened_draft, hitems, hbound, hnarrower, hpair, by decide +kernel, hresolved,
    hclosest⟩

end Callsite
