import Callsite.Proofs.Memory.Stability

/-!
# Remembered winners are selected again

If the answers on texts and on refinement never change, every winner that a memory holds is the
overload that is selected by the types that the texts name (`Memory.WinnersSelected`). Every step
keeps this, so that resolving a template has the result of a selection, remembered or not
(`Registry.result_resolveTemplate_eq`). Factories do not matter to it.
-/

namespace Callsite

variable {β : Type} {scoring : Scoring}

/-! ## Services with the same types -/

/-- Whether another service answers like the first one on texts and on refinement. The two may
differ in the way they write types in messages. -/
structure TypeService.SameTypes (types other : TypeService) : Prop where
  same_texts : types.SameTexts other
  isSubtype_eq : ∀ candidate required,
    other.isSubtype candidate required = types.isSubtype candidate required

namespace TypeService.SameTypes

variable {types other : TypeService}

/-- A service has its own types. -/
theorem refl (types : TypeService) : types.SameTypes types :=
  ⟨fun _ _ => rfl, fun _ _ => rfl⟩

/-- Services with the same types widen the same types. -/
theorem widens_eq (h : types.SameTypes other) (registry : Registry β) :
    registry.widens other = registry.widens types := by
  funext given wanted
  rw [Registry.widens, Registry.widens, h.isSubtype_eq]

end TypeService.SameTypes

/-! ## Winners -/

/-- Whether every remembered winner is the overload that is selected by the types that the texts
name. -/
def Memory.WinnersSelected (registry : Registry β) (types : TypeService) (memory : Memory β) :
    Prop :=
  ∀ id runtime winner, memory.winner? id runtime = some winner →
    ∃ template candidates, registry.template? id = some template ∧
      List.Forall₂ (Callee.IsCandidate types.Names) (registry.membersOf template) candidates ∧
        select (registry.widens types) candidates runtime = .found winner

/-- Winners that are selected with a service are selected with every service with its types. -/
theorem Memory.WinnersSelected.sameTypes {registry : Registry β} {types other : TypeService}
    {memory : Memory β} (hsame : types.SameTypes other)
    (h : memory.WinnersSelected registry types) : memory.WinnersSelected registry other := by
  rw [WinnersSelected, hsame.same_texts.names_eq, hsame.widens_eq]
  exact h

namespace Registry

variable {registry : Registry β} {types other : TypeService} {memory later : Memory β}

/-- Every step remembers no winner but one that is selected by the types that the texts name. -/
theorem Learns.winnersSelected (hregistry : registry.WellFormed) (hsame : types.SameTypes other)
    (hmemory : memory.TypesFrom registry types.Names) (h : registry.Learns other memory later)
    (hwinners : memory.WinnersSelected registry types) : later.WinnersSelected registry types := by
  cases h with
  | types hstep =>
    intro id runtime
    rw [winner?_eq_of_learnsTypes (.single hstep)]
    exact hwinners id runtime
  | winner htemplate hnew hknown hselect =>
    rename_i id template runtime candidates winner
    intro id' runtime' winner' hwinner
    rcases Memory.winner?_learnWinner_cases hwinner with hold | ⟨rfl, rfl, rfl⟩
    · exact hwinners id' runtime' winner' hold
    · rw [hsame.widens_eq] at hselect
      -- the winner was selected by known types, which are those that the texts name
      have hcandidates := isCandidate_of_knows hmemory
        (hregistry.registered_of_mem_membersOf template) hknown
      exact ⟨template, candidates, htemplate, hcandidates, hselect⟩
  | refused => exact hwinners
  | dispatched => exact hwinners
  | made => exact hwinners

/-- After every history of questions to services with the same types the remembered winners are
selected by the types that the texts name. -/
theorem Opened.winnersSelected_answerAll (h : registry.Opened types memory)
    (hstable : types.Stable) {history : List (TypeService × Query)}
    (hhistory : ∀ step ∈ history, types.SameTypes step.1) :
    (registry.answerAll scoring history memory).2.WinnersSelected registry types := by
  -- a winner is selected by known types, so that these are part of the invariant
  suffices hboth : (registry.answerAll scoring history memory).2.TypesFrom registry types.Names ∧
      (registry.answerAll scoring history memory).2.WinnersSelected registry types from hboth.2
  refine answerAll_induction (motive := fun memory =>
    memory.TypesFrom registry types.Names ∧ memory.WinnersSelected registry types)
    h.wellFormed ⟨h.typesFrom hstable.answersWithin, ?_⟩ ?_
  · intro id runtime winner hwinner
    exact absurd hwinner (by simp [h.unasked.winner?_eq_none])
  · rintro step hstep memory later hlearns ⟨htypes, hwinners⟩
    have hsame := hhistory step hstep
    exact ⟨hlearns.typesFrom (hsame.same_texts.answersWithin hstable) htypes,
      hlearns.winnersSelected h.wellFormed hsame htypes hwinners⟩

/-- Resolving a template gives what selecting an overload gives, remembered or not. -/
theorem result_resolveTemplate_eq (h : registry.WellFormed) (hstable : types.Stable)
    (hmemory : memory.TypesFrom registry types.Names)
    (hwinners : memory.WinnersSelected registry types) {id : TemplateId} {template : Template}
    (htemplate : registry.template? id = some template) (runtime : List TypeId) :
    (registry.resolveTemplate types id runtime memory).result =
      (registry.selectOverload types template runtime memory).result := by
  cases hknown : memory.winner? id runtime with
  | some winner =>
    obtain ⟨found, candidates, hfound, hcandidates, hselect⟩ := hwinners id runtime winner hknown
    obtain rfl := Option.some.inj (htemplate.symm.trans hfound)
    -- selecting again would make the same candidates and find the same winner
    have hresult : (registry.selectOverload types template runtime memory).result = .ok winner :=
      selectOverload_eq_ok.2 ⟨candidates, result_candidatesOf_eq_ok hstable
        (h.registered_of_mem_membersOf template) hmemory hcandidates, hselect⟩
    rw [resolveTemplate_of_known htemplate hknown, hresult]
    rfl
  | none =>
    rw [resolveTemplate_of_unknown htemplate hknown]
    exact Answer.result_andThen_ok _ _

end Registry

end Callsite
