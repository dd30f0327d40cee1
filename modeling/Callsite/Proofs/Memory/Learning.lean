import Callsite.Registry.Draft
import Mathlib.Data.List.Forall2
import Mathlib.Logic.Relation

/-!
# How a memory grows

Whatever is asked of a registry or of a draft, its memory changes only by the steps listed here.
`Registry.LearnsTypes` has the steps that resolving argument types takes, which are the only ones of
a draft, and `Registry.Learns` adds those of selecting overloads and asking factories. An invariant
of the memory is proved once for each step and holds then after every operation. The steps about
argument types lead to memories that remember the same otherwise (`Memory.SameBesideTypes`).

The second half states what each operation that resolves argument types has learnt when it
succeeds. Known argument types stay known, so what was learnt on the way is still there at the end.
-/

namespace Callsite

open Relation (ReflTransGen)

variable {β : Type}

/-- Whether a function is kept in the table under its own key. -/
def Registry.Registered (registry : Registry β) (callee : Callee β) : Prop :=
  registry.function? callee.index = some callee

/-- A candidate is a function with the argument types that are known of it. -/
def Memory.Knows (memory : Memory β) (callee : Callee β) (candidate : Candidate) : Prop :=
  candidate.function = callee.index ∧ memory.types? callee.index = some candidate.types

/-! ## The steps -/

namespace Registry

/-- The steps in which a memory learns about argument types: texts are resolved in vain, or all
argument types of a function are resolved and remembered. -/
inductive LearnsTypes (registry : Registry β) (types : TypeService) :
    Memory β → Memory β → Prop
  | count {memory : Memory β} {n : Nat} (hn : memory.resolutions ≤ n) :
    LearnsTypes registry types memory (memory.countTo n)
  | types {memory : Memory β} {callee : Callee β} {found : List TypeId} {later : Nat}
    (hcallee : registry.Registered callee) (hnew : memory.types? callee.index = none)
    (hfound : resolveArguments types callee.name callee.arguments memory.resolutions =
      .ok found later) :
    LearnsTypes registry types memory ((memory.countTo later).learnTypes callee.index found)

/-- The steps in which a memory learns: about argument types, the winner of a template, that a
factory refuses operand types, or its dispatch for them; and a dispatch may be made of a function's
own code. -/
inductive Learns (registry : Registry β) (types : TypeService) : Memory β → Memory β → Prop
  | types {memory later : Memory β} (h : registry.LearnsTypes types memory later) :
    Learns registry types memory later
  | winner {memory : Memory β} {id : TemplateId} {template : Template} {runtime : List TypeId}
    {candidates : List Candidate} {winner : FunctionIndex}
    (htemplate : registry.template? id = some template)
    (hnew : memory.winner? id runtime = none)
    (hknown : List.Forall₂ memory.Knows (registry.membersOf template) candidates)
    (hselect : select (registry.widens types) candidates runtime = .found winner) :
    Learns registry types memory (memory.learnWinner id runtime winner)
  | refused {memory : Memory β} {id : FactoryId} {entry : FactoryEntry β} {runtime : List TypeId}
    (hentry : registry.factory? id = some entry) (hnew : memory.dispatch? id runtime = none)
    (hnone : entry.factory.variant? (memory.asked id) types runtime = none) :
    Learns registry types memory (memory.countQuestion id)
  | dispatched {memory : Memory β} {id : FactoryId} {entry : FactoryEntry β}
    {runtime : List TypeId} {variant : Variant β}
    (hentry : registry.factory? id = some entry) (hnew : memory.dispatch? id runtime = none)
    (hsome : entry.factory.variant? (memory.asked id) types runtime = some variant) :
    Learns registry types memory
      (((memory.countQuestion id).make variant).2.learnDispatch id runtime
        ((memory.countQuestion id).make variant).1)
  | made {memory : Memory β} (variant : Variant β) :
    Learns registry types memory (memory.make variant).2

end Registry

/-! ## Memories that know different types -/

/-- Whether two memories remember the same apart from argument types: the same winners and
dispatches, of as many questions to each factory and as many dispatches made. -/
structure Memory.SameBesideTypes (memory other : Memory β) : Prop where
  winners_eq : other.winners = memory.winners
  dispatches_eq : other.dispatches = memory.dispatches
  questions_eq : other.questions = memory.questions
  made_eq : other.made = memory.made

namespace Memory.SameBesideTypes

variable {memory other last : Memory β}

/-- Every memory remembers what it remembers itself. -/
theorem refl (memory : Memory β) : memory.SameBesideTypes memory :=
  ⟨rfl, rfl, rfl, rfl⟩

/-- It does not matter which of two memories comes first. -/
theorem symm (h : memory.SameBesideTypes other) : other.SameBesideTypes memory :=
  ⟨h.winners_eq.symm, h.dispatches_eq.symm, h.questions_eq.symm, h.made_eq.symm⟩

/-- Memories that remember the same as one between them do so themselves. -/
theorem trans (h : memory.SameBesideTypes other) (hlast : other.SameBesideTypes last) :
    memory.SameBesideTypes last :=
  ⟨hlast.winners_eq.trans h.winners_eq, hlast.dispatches_eq.trans h.dispatches_eq,
    hlast.questions_eq.trans h.questions_eq, hlast.made_eq.trans h.made_eq⟩

/-- The winners that are remembered are the same. -/
theorem winner?_eq (h : memory.SameBesideTypes other) (id : TemplateId) (runtime : List TypeId) :
    other.winner? id runtime = memory.winner? id runtime := by
  rw [winner?, winner?, h.winners_eq]

/-- The dispatches that are remembered are the same. -/
theorem dispatch?_eq (h : memory.SameBesideTypes other) (id : FactoryId)
    (runtime : List TypeId) : other.dispatch? id runtime = memory.dispatch? id runtime := by
  rw [dispatch?, dispatch?, h.dispatches_eq]

/-- Every factory was asked as often. -/
theorem asked_eq (h : memory.SameBesideTypes other) (id : FactoryId) :
    other.asked id = memory.asked id := by
  rw [asked, asked, h.questions_eq]

/-- It does not matter how many texts were resolved. -/
theorem countTo (h : memory.SameBesideTypes other) (n m : Nat) :
    (memory.countTo n).SameBesideTypes (other.countTo m) :=
  ⟨h.winners_eq, h.dispatches_eq, h.questions_eq, h.made_eq⟩

/-- The same winner may be learnt in both. -/
theorem learnWinner (h : memory.SameBesideTypes other) (id : TemplateId) (runtime : List TypeId)
    (winner : FunctionIndex) : (memory.learnWinner id runtime winner).SameBesideTypes
      (other.learnWinner id runtime winner) where
  winners_eq := congrArg (· ++ _) h.winners_eq
  dispatches_eq := h.dispatches_eq
  questions_eq := h.questions_eq
  made_eq := h.made_eq

/-- The same question may be counted in both. -/
theorem countQuestion (h : memory.SameBesideTypes other) (id : FactoryId) :
    (memory.countQuestion id).SameBesideTypes (other.countQuestion id) where
  winners_eq := h.winners_eq
  dispatches_eq := h.dispatches_eq
  questions_eq := congrArg (· ++ _) h.questions_eq
  made_eq := h.made_eq

/-- The same dispatch may be learnt in both. -/
theorem learnDispatch (h : memory.SameBesideTypes other) (id : FactoryId) (runtime : List TypeId)
    (dispatch : Dispatch β) : (memory.learnDispatch id runtime dispatch).SameBesideTypes
      (other.learnDispatch id runtime dispatch) where
  winners_eq := h.winners_eq
  dispatches_eq := congrArg (· ++ _) h.dispatches_eq
  questions_eq := h.questions_eq
  made_eq := h.made_eq

/-- A dispatch of the same variant may be made in both. -/
theorem make (h : memory.SameBesideTypes other) (variant : Variant β) :
    (memory.make variant).2.SameBesideTypes (other.make variant).2 where
  winners_eq := h.winners_eq
  dispatches_eq := h.dispatches_eq
  questions_eq := h.questions_eq
  made_eq := congrArg (· + 1) h.made_eq

end Memory.SameBesideTypes

namespace Registry

variable {registry : Registry β} {types : TypeService} {memory later : Memory β}

/-- Steps about argument types change nothing else that is remembered. -/
theorem sameBesideTypes_of_learnsTypes
    (h : ReflTransGen (registry.LearnsTypes types) memory later) :
    memory.SameBesideTypes later := by
  induction h with
  | refl => exact .refl memory
  | tail _ hstep ih =>
    refine ih.trans ?_
    cases hstep with
    | count => exact ⟨rfl, rfl, rfl, rfl⟩
    | types => exact ⟨rfl, rfl, rfl, rfl⟩

/-! ## What is known stays known -/

/-- A step about argument types keeps the argument types that are known. -/
theorem LearnsTypes.types?_mono (h : registry.LearnsTypes types memory later)
    {function : FunctionIndex} {ids : List TypeId} (hids : memory.types? function = some ids) :
    later.types? function = some ids := by
  cases h with
  | count => exact hids
  | types hcallee hnew hfound => rw [Memory.types?_learnTypes, Memory.types?_countTo, hids]; rfl

/-- Any number of steps about argument types keep the argument types that are known. -/
theorem types?_mono (h : ReflTransGen (registry.LearnsTypes types) memory later)
    {function : FunctionIndex} {ids : List TypeId} (hids : memory.types? function = some ids) :
    later.types? function = some ids := by
  induction h with
  | refl => exact hids
  | tail _ hstep ih => exact hstep.types?_mono ih

/-- Steps about argument types do not touch the winners of templates. -/
theorem winner?_eq_of_learnsTypes (h : ReflTransGen (registry.LearnsTypes types) memory later)
    (id : TemplateId) (runtime : List TypeId) :
    later.winner? id runtime = memory.winner? id runtime :=
  (sameBesideTypes_of_learnsTypes h).winner?_eq id runtime

/-- Steps about argument types do not touch the dispatches of factories. -/
theorem dispatch?_eq_of_learnsTypes (h : ReflTransGen (registry.LearnsTypes types) memory later)
    (id : FactoryId) (runtime : List TypeId) :
    later.dispatch? id runtime = memory.dispatch? id runtime :=
  (sameBesideTypes_of_learnsTypes h).dispatch?_eq id runtime

end Registry

/-! ## Resolving the argument types of one function -/

/-- Resolving texts only raises the number of texts resolved. -/
theorem resolveArguments_le (types : TypeService) (function : String) (arguments : List Argument)
    (earlier : Nat) : earlier ≤ (resolveArguments types function arguments earlier).state := by
  induction arguments generalizing earlier with
  | nil => exact Nat.le_refl earlier
  | cons argument rest ih =>
    rw [resolveArguments]
    split
    · exact Nat.le_succ earlier
    · exact Nat.le_trans (Nat.le_succ earlier) (ih (earlier + 1))

/-- Arguments are resolved one by one: each type is an answer of the service to the element type of
its argument. -/
theorem forall₂_of_resolveArguments {types : TypeService} {function : String}
    {arguments : List Argument} {earlier : Nat} {ids : List TypeId}
    (h : (resolveArguments types function arguments earlier).result = .ok ids) :
    List.Forall₂ (fun argument id => ∃ n, types.resolve n argument.elementType = some id)
      arguments ids := by
  induction arguments generalizing earlier ids with
  | nil =>
    obtain rfl : [] = ids := Except.ok.inj h
    exact .nil
  | cons argument rest ih =>
    rw [resolveArguments] at h
    split at h
    · exact absurd h (by simp [Answer.fail])
    · rename_i id hid
      obtain ⟨others, hothers, rfl⟩ := Answer.result_map_eq_ok.1 h
      exact .cons ⟨earlier, hid⟩ (ih hothers)

namespace Callee

variable {registry : Registry β} {types : TypeService} {memory : Memory β} {callee : Callee β}

/-- Argument types that are known are not resolved again. -/
theorem argumentTypes_of_known {ids : List TypeId}
    (h : memory.types? callee.index = some ids) :
    callee.argumentTypes types memory = .ok ids memory := by
  rw [argumentTypes, h]

/-- Argument types that are not known are resolved, and remembered if all of them are found. -/
theorem argumentTypes_of_unknown (h : memory.types? callee.index = none) :
    callee.argumentTypes types memory =
      (memory.resolveArguments types callee.name callee.arguments).andThen fun found memory =>
        .ok found (memory.learnTypes callee.index found) := by
  rw [argumentTypes, h]

/-- Asking for argument types takes at most one step. -/
theorem argumentTypes_learns (hcallee : registry.Registered callee) :
    ReflTransGen (registry.LearnsTypes types) memory (callee.argumentTypes types memory).state := by
  cases hknown : memory.types? callee.index with
  | some ids => rw [argumentTypes_of_known hknown]; exact .refl
  | none =>
    rw [argumentTypes_of_unknown hknown, Memory.resolveArguments]
    cases hresult : resolveArguments types callee.name callee.arguments memory.resolutions with
    | mk result later =>
      cases result with
      | error error =>
        have hle := resolveArguments_le types callee.name callee.arguments memory.resolutions
        rw [hresult] at hle
        exact .single (.count hle)
      | ok found => exact .single (.types hcallee hknown hresult)

/-- Argument types that were found are known afterwards. -/
theorem types?_argumentTypes {ids : List TypeId}
    (h : (callee.argumentTypes types memory).result = .ok ids) :
    (callee.argumentTypes types memory).state.types? callee.index = some ids := by
  cases hknown : memory.types? callee.index with
  | some known =>
    rw [argumentTypes_of_known hknown] at h ⊢
    rw [← Except.ok.inj h]
    exact hknown
  | none =>
    rw [argumentTypes_of_unknown hknown] at h ⊢
    obtain ⟨found, hfound, hids⟩ := Answer.result_andThen_eq_ok.1 h
    obtain rfl : found = ids := Except.ok.inj hids
    rw [Answer.andThen_of_ok hfound]
    rw [Answer.ok, Memory.types?_learnTypes, if_pos rfl, Memory.resolveArguments,
      Memory.types?_countTo, hknown]
    rfl

end Callee

/-! ## Resolving the argument types of several functions -/

section Several

variable {registry : Registry β} {types : TypeService} {memory : Memory β}

/-- Making candidates takes steps about argument types only. -/
theorem candidatesOf_learns {callees : List (Callee β)}
    (hcallees : ∀ callee ∈ callees, registry.Registered callee) :
    ReflTransGen (registry.LearnsTypes types) memory (candidatesOf types callees memory).state := by
  induction callees generalizing memory with
  | nil => exact .refl
  | cons callee rest ih =>
    obtain ⟨hcallee, hrest⟩ := List.forall_mem_cons.1 hcallees
    rw [candidatesOf]
    have hfirst : ReflTransGen (registry.LearnsTypes types) memory _ :=
      Callee.argumentTypes_learns hcallee
    exact Answer.state_andThen hfirst fun declared _ => hfirst.trans (ih hrest)

/-- Candidates that were made are the functions in order, each with its types as they are known
afterwards. -/
theorem candidatesOf_knows {callees : List (Callee β)} {candidates : List Candidate}
    (hcallees : ∀ callee ∈ callees, registry.Registered callee)
    (h : (candidatesOf types callees memory).result = .ok candidates) :
    List.Forall₂ (candidatesOf types callees memory).state.Knows callees candidates := by
  induction callees generalizing memory candidates with
  | nil =>
    obtain rfl : [] = candidates := Except.ok.inj h
    exact .nil
  | cons callee rest ih =>
    obtain ⟨_, hregistered⟩ := List.forall_mem_cons.1 hcallees
    rw [candidatesOf] at h ⊢
    obtain ⟨declared, hdeclared, hrest⟩ := Answer.result_andThen_eq_ok.1 h
    obtain ⟨others, hothers, rfl⟩ := Answer.result_map_eq_ok.1 hrest
    rw [Answer.andThen_of_ok hdeclared, Answer.state_map]
    -- the later functions only add to what is known of this one
    have hlater : ReflTransGen (registry.LearnsTypes types)
        (callee.argumentTypes types memory).state _ := candidatesOf_learns hregistered
    have hknown := Callee.types?_argumentTypes hdeclared
    exact .cons ⟨rfl, Registry.types?_mono hlater hknown⟩ (ih hregistered hothers)

/-- Looking for a function with given types takes steps about argument types only. -/
theorem Draft.twin_learns (signature : List TypeId) {callees : List (Callee β)}
    (hcallees : ∀ callee ∈ callees, registry.Registered callee) :
    ReflTransGen (registry.LearnsTypes types) memory
      (Draft.twin types signature callees memory).state := by
  induction callees generalizing memory with
  | nil => exact .refl
  | cons callee rest ih =>
    obtain ⟨hcallee, hrest⟩ := List.forall_mem_cons.1 hcallees
    rw [Draft.twin]
    have hfirst : ReflTransGen (registry.LearnsTypes types) memory _ :=
      Callee.argumentTypes_learns hcallee
    refine Answer.state_andThen hfirst fun declared _ => ?_
    split
    · exact hfirst
    · exact hfirst.trans (ih hrest)

/-- If no function has the given types, then each has known types that differ from them. -/
theorem Draft.types?_of_twin_none {signature : List TypeId} {callees : List (Callee β)}
    (hcallees : ∀ callee ∈ callees, registry.Registered callee)
    (h : (Draft.twin types signature callees memory).result = .ok none) :
    ∀ callee ∈ callees, ∃ declared,
      (Draft.twin types signature callees memory).state.types? callee.index = some declared ∧
        declared ≠ signature := by
  induction callees generalizing memory with
  | nil => exact fun callee hcallee => absurd hcallee List.not_mem_nil
  | cons first rest ih =>
    obtain ⟨_, hregistered⟩ := List.forall_mem_cons.1 hcallees
    rw [Draft.twin] at h ⊢
    obtain ⟨declared, hdeclared, hrest⟩ := Answer.result_andThen_eq_ok.1 h
    rw [Answer.andThen_of_ok hdeclared]
    by_cases htwin : declared = signature
    · rw [if_pos htwin] at hrest
      exact absurd hrest (by simp [Answer.ok])
    · rw [if_neg htwin] at hrest ⊢
      intro callee hcallee
      rcases List.mem_cons.1 hcallee with rfl | hcallee
      · have hlater : ReflTransGen (registry.LearnsTypes types)
            (callee.argumentTypes types memory).state (Draft.twin types signature rest _).state :=
          Draft.twin_learns signature hregistered
        have hknown := Callee.types?_argumentTypes hdeclared
        exact ⟨declared, Registry.types?_mono hlater hknown, htwin⟩
      · exact ih hregistered hrest callee hcallee

/-- Resolving the types of all functions takes steps about argument types only. -/
theorem Draft.resolveAll_learns {callees : List (Callee β)}
    (hcallees : ∀ callee ∈ callees, registry.Registered callee) :
    ReflTransGen (registry.LearnsTypes types) memory
      (Draft.resolveAll types callees memory).state := by
  induction callees generalizing memory with
  | nil => exact .refl
  | cons callee rest ih =>
    obtain ⟨hcallee, hrest⟩ := List.forall_mem_cons.1 hcallees
    rw [Draft.resolveAll]
    have hfirst : ReflTransGen (registry.LearnsTypes types) memory _ :=
      Callee.argumentTypes_learns hcallee
    exact Answer.state_andThen hfirst fun _ _ => hfirst.trans (ih hrest)

end Several

end Callsite
