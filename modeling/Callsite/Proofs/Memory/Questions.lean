import Callsite.Proofs.Registry.WellFormed
import Callsite.Registry.Query

/-!
# What questions teach a registry

Every question to a registry with well-formed tables changes its memory by the steps of
`Registry.Learns` only (`Registry.answerBy_learns`). What holds of a memory at first and is kept by
each of these steps holds therefore after every history of questions, each asked of the type service
of its time (`Registry.answerAll_induction`).
-/

namespace Callsite

open Relation (ReflTransGen)

variable {β : Type} {scoring : Scoring}

namespace Registry

variable {registry : Registry β} {types : TypeService} {memory : Memory β}

/-- The steps about argument types are steps of any question. -/
theorem learns_of_learnsTypes {later : Memory β}
    (h : ReflTransGen (registry.LearnsTypes types) memory later) :
    ReflTransGen (registry.Learns types) memory later := by
  induction h with
  | refl => exact .refl
  | tail _ hlast ih => exact ih.tail (.types hlast)

/-! ## Templates -/

/-- Selecting an overload learns what making the candidates learns. -/
theorem state_selectOverload (template : Template) (runtime : List TypeId) :
    (registry.selectOverload types template runtime memory).state =
      (candidatesOf types (registry.membersOf template) memory).state := by
  rw [selectOverload]
  refine Answer.state_andThen (motive := fun later => later = _) rfl fun candidates _ => ?_
  split <;> rfl

/-- An overload is selected if the candidates can be made and the selection finds it. -/
theorem selectOverload_eq_ok {template : Template} {runtime : List TypeId}
    {winner : FunctionIndex} :
    (registry.selectOverload types template runtime memory).result = .ok winner ↔
      ∃ candidates,
        (candidatesOf types (registry.membersOf template) memory).result = .ok candidates ∧
          select (registry.widens types) candidates runtime = .found winner := by
  rw [selectOverload, Answer.result_andThen_eq_ok]
  refine exists_congr fun candidates => and_congr Answer.result_mapError_eq_ok ?_
  split
  · rename_i found hfound
    rw [hfound]
    simp [Answer.ok]
  · rename_i hnone
    rw [hnone]
    simp [Answer.fail]
  · rename_i twins htwins
    rw [htwins]
    simp [Answer.fail]

/-- A template that is not registered is not resolved. -/
theorem resolveTemplate_of_template?_none {id : TemplateId} (h : registry.template? id = none)
    (runtime : List TypeId) :
    registry.resolveTemplate types id runtime memory = .fail (.unknownTemplate id) memory := by
  rw [resolveTemplate, h]

/-- A winner that is remembered is not selected again. -/
theorem resolveTemplate_of_known {id : TemplateId} {template : Template} {runtime : List TypeId}
    {winner : FunctionIndex} (htemplate : registry.template? id = some template)
    (h : memory.winner? id runtime = some winner) :
    registry.resolveTemplate types id runtime memory = .ok winner memory := by
  rw [resolveTemplate, htemplate]
  simp only [h]

/-- A winner that is not remembered is selected, and remembered if there is one. -/
theorem resolveTemplate_of_unknown {id : TemplateId} {template : Template} {runtime : List TypeId}
    (htemplate : registry.template? id = some template)
    (h : memory.winner? id runtime = none) :
    registry.resolveTemplate types id runtime memory =
      (registry.selectOverload types template runtime memory).andThen fun winner memory =>
        .ok winner (memory.learnWinner id runtime winner) := by
  rw [resolveTemplate, htemplate]
  simp only [h]

/-- Selecting an overload does not touch the winners that are remembered. -/
theorem winner?_selectOverload (h : registry.WellFormed) (template : Template) (id : TemplateId)
    (operands runtime : List TypeId) :
    (registry.selectOverload types template operands memory).state.winner? id runtime =
      memory.winner? id runtime := by
  rw [state_selectOverload]
  exact winner?_eq_of_learnsTypes
    (candidatesOf_learns (h.registered_of_mem_membersOf template)) id runtime

/-- Resolving a template learns about the types of its overloads and about its winner. -/
theorem resolveTemplate_learns (h : registry.WellFormed) (id : TemplateId)
    (runtime : List TypeId) :
    ReflTransGen (registry.Learns types) memory
      (registry.resolveTemplate types id runtime memory).state := by
  cases htemplate : registry.template? id with
  | none => rw [resolveTemplate_of_template?_none htemplate]; exact .refl
  | some template =>
    cases hnew : memory.winner? id runtime with
    | some winner => rw [resolveTemplate_of_known htemplate hnew]; exact .refl
    | none =>
      have hmembers := h.registered_of_mem_membersOf template
      have hselected : ReflTransGen (registry.Learns types) memory
          (registry.selectOverload types template runtime memory).state := by
        rw [state_selectOverload]
        exact learns_of_learnsTypes (candidatesOf_learns hmembers)
      rw [resolveTemplate_of_unknown htemplate hnew]
      refine Answer.state_andThen hselected fun winner hwinner => hselected.tail ?_
      obtain ⟨candidates, hresult, hfound⟩ := selectOverload_eq_ok.1 hwinner
      have hknows := candidatesOf_knows hmembers hresult
      rw [← state_selectOverload template runtime] at hknows
      rw [← winner?_selectOverload h template id runtime] at hnew
      exact .winner htemplate hnew hknows hfound

/-- A winner that was found is remembered afterwards. -/
theorem winner?_resolveTemplate (h : registry.WellFormed) {id : TemplateId} {runtime : List TypeId}
    {winner : FunctionIndex}
    (hwinner : (registry.resolveTemplate types id runtime memory).result = .ok winner) :
    (registry.resolveTemplate types id runtime memory).state.winner? id runtime = some winner := by
  cases htemplate : registry.template? id with
  | none =>
    rw [resolveTemplate_of_template?_none htemplate] at hwinner
    exact absurd hwinner (by simp [Answer.fail])
  | some template =>
    cases hnew : memory.winner? id runtime with
    | some known =>
      rw [resolveTemplate_of_known htemplate hnew] at hwinner ⊢
      rw [← Except.ok.inj hwinner]
      exact hnew
    | none =>
      rw [resolveTemplate_of_unknown htemplate hnew] at hwinner ⊢
      obtain ⟨found, hfound, hsame⟩ := Answer.result_andThen_eq_ok.1 hwinner
      obtain rfl : found = winner := Except.ok.inj hsame
      -- the selection learnt no winner, so that the one learnt now is the first
      rw [← winner?_selectOverload h template id runtime] at hnew
      rw [Answer.andThen_of_ok hfound, Answer.ok,
        Memory.winner?_learnWinner _ id runtime found (id, runtime), hnew, if_pos rfl]
      rfl

/-! ## Factories -/

/-- Asking a factory learns that it refuses the operand types, or its dispatch for them. -/
theorem resolveFactory_learns (id : FactoryId) (runtime : List TypeId) :
    ReflTransGen (registry.Learns types) memory
      (registry.resolveFactory types id runtime memory).state := by
  rw [resolveFactory]
  split
  · exact .refl
  · rename_i entry hentry
    split
    · exact .refl
    · rename_i hnew
      cases hvariant : entry.factory.variant? (memory.asked id) types runtime with
      | none => exact .single (.refused hentry hnew hvariant)
      | some variant => exact .single (.dispatched hentry hnew hvariant)

/-! ## Binding -/

/-- A dispatch of a function's own code learns about the types of its arguments. -/
theorem ownDispatch_learns {callee : Callee β} (hcallee : registry.Registered callee)
    (runtime : List TypeId) :
    ReflTransGen (registry.Learns types) memory
      (callee.ownDispatch types runtime memory).state := by
  have htypes : ReflTransGen (registry.Learns types) memory
      (callee.argumentTypes types memory).state :=
    learns_of_learnsTypes (Callee.argumentTypes_learns hcallee)
  rw [Callee.ownDispatch]
  refine Answer.state_andThen htypes fun declared _ => ?_
  split
  · exact htypes
  · rename_i layout _
    exact htypes.tail (.made ⟨callee.invocable, layout⟩)

/-- A dispatch of a function learns about its factory or about its arguments. -/
theorem dispatch_learns {callee : Callee β} (hcallee : registry.Registered callee)
    (runtime : List TypeId) :
    ReflTransGen (registry.Learns types) memory
      (registry.dispatch types callee runtime memory).state := by
  rw [dispatch]
  split
  · exact resolveFactory_learns _ runtime
  · exact ownDispatch_learns hcallee runtime
  · exact ownDispatch_learns hcallee runtime

/-- Finding the function that a call reaches learns what its template teaches. -/
theorem target_learns (h : registry.WellFormed) (callee : Callee β) (runtime : List TypeId) :
    ReflTransGen (registry.Learns types) memory
      (registry.target types callee runtime memory).state := by
  rw [target]
  split
  · exact .refl
  · refine Answer.state_andThen (resolveTemplate_learns h _ runtime) fun winner _ => ?_
    split
    · exact resolveTemplate_learns h _ runtime
    · exact resolveTemplate_learns h _ runtime

/-- The function that a call reaches is registered: it is the named one if its template offers no
choice, and else the overload that the template resolves to. -/
theorem target_eq_ok {callee reached : Callee β} {runtime : List TypeId} :
    (registry.target types callee runtime memory).result = .ok reached ↔
      (registry.family? callee = none ∧ reached = callee) ∨
        ∃ template winner, registry.family? callee = some template ∧
          (registry.resolveTemplate types template.id runtime memory).result = .ok winner ∧
            registry.function? winner = some reached := by
  rw [target]
  cases hfamily : registry.family? callee with
  | none => simp [Answer.ok, eq_comm]
  | some template =>
    rw [Answer.result_andThen_eq_ok]
    constructor
    · rintro ⟨winner, hwinner, hreached⟩
      refine .inr ⟨template, winner, rfl, hwinner, ?_⟩
      split at hreached
      · rename_i found hfound
        rw [hfound, ← Except.ok.inj hreached]
      · exact absurd hreached (by simp [Answer.fail])
    · rintro (⟨hnone, _⟩ | ⟨other, winner, hother, hwinner, hreached⟩)
      · exact absurd hnone (by simp)
      · obtain rfl := Option.some.inj hother
        exact ⟨winner, hwinner, by rw [hreached]; rfl⟩

/-- The function that a call reaches is registered. -/
theorem registered_of_target (h : registry.WellFormed) {callee reached : Callee β}
    (hcallee : registry.Registered callee) {runtime : List TypeId}
    (hreached : (registry.target types callee runtime memory).result = .ok reached) :
    registry.Registered reached := by
  rcases target_eq_ok.1 hreached with ⟨_, rfl⟩ | ⟨_, winner, _, _, hfound⟩
  · exact hcallee
  · exact h.registered hfound

/-- Binding a call learns what finding the function and dispatching it teach. -/
theorem bind_learns (h : registry.WellFormed) (function : FunctionIndex) (runtime : List TypeId)
    (context : TypeId) :
    ReflTransGen (registry.Learns types) memory
      (registry.bind types function runtime context memory).state := by
  rw [bind]
  split
  · exact .refl
  · rename_i callee hcallee
    have htarget : ReflTransGen (registry.Learns types) memory _ :=
      target_learns h callee runtime
    refine Answer.state_andThen htarget fun reached hreached => ?_
    split
    · have hregistered := registered_of_target h (h.registered hcallee) hreached
      exact htarget.trans (dispatch_learns hregistered runtime)
    · exact htarget

/-! ## All questions -/

/-- A question about one function teaches what it teaches if the function is registered. -/
theorem about_learns (h : registry.WellFormed) {function : FunctionIndex}
    {ask : Callee β → Answer (Memory β) ResolveError (Reply β)}
    (hask : ∀ callee, registry.Registered callee →
      ReflTransGen (registry.Learns types) memory (ask callee).state) :
    ReflTransGen (registry.Learns types) memory (registry.about function memory ask).state := by
  rw [about]
  split
  · exact .refl
  · rename_i callee hcallee
    exact hask callee (h.registered hcallee)

/-- Every question changes the memory by the listed steps only. -/
theorem answerBy_learns (h : registry.WellFormed) (query : Query) :
    ReflTransGen (registry.Learns types) memory
      (registry.answerBy scoring types query memory).state := by
  cases query with
  | function index => exact about_learns h fun _ _ => .refl
  | find name => exact .refl
  | argumentTypes function =>
    refine about_learns h fun callee hcallee => ?_
    exact learns_of_learnsTypes (Callee.argumentTypes_learns hcallee)
  | resolveTemplate id runtime => exact resolveTemplate_learns h id runtime
  | resolveFactory id runtime => exact resolveFactory_learns id runtime
  | supportsContext function context => exact about_learns h fun _ _ => .refl
  | argumentName function operand total => exact about_learns h fun _ _ => .refl
  | argument function operand total => exact about_learns h fun _ _ => .refl
  | bind function runtime context => exact bind_learns h function runtime context

/-- What a memory has at first and every step keeps, it has after any number of steps. -/
theorem learns_induction {motive : Memory β → Prop} {later : Memory β}
    (h : ReflTransGen (registry.Learns types) memory later) (hstart : motive memory)
    (hstep : ∀ memory later, registry.Learns types memory later → motive memory → motive later) :
    motive later := by
  induction h with
  | refl => exact hstart
  | tail _ hlast ih => exact hstep _ _ hlast ih

/-- What a memory has at first and every step of every question keeps, it has after every history of
questions. -/
theorem answerAll_induction {motive : Memory β → Prop} (h : registry.WellFormed)
    {history : List (TypeService × Query)} (hstart : motive memory)
    (hstep : ∀ step ∈ history, ∀ memory later, registry.Learns step.1 memory later →
      motive memory → motive later) :
    motive (registry.answerAll scoring history memory).2 := by
  induction history generalizing memory with
  | nil => exact hstart
  | cons step rest ih =>
    obtain ⟨types, query⟩ := step
    obtain ⟨hkeeps, hrest⟩ := List.forall_mem_cons.1 hstep
    have hfirst : motive (registry.answerBy scoring types query memory).state :=
      learns_induction (answerBy_learns h query) hstart hkeeps
    exact ih hfirst hrest

end Registry

end Callsite
