import Callsite.Call.Factory
import Callsite.Key

/-!
# What a registry has learnt

Answering takes work that is done once: resolving the types of a function's arguments, selecting an
overload for a list of operand types, asking a dispatch factory for a variant. The results are kept
in a memory beside the tables, and the first result for a question stays. The memory also counts the
texts resolved, the questions put to each factory, and the dispatches made.
-/

namespace Callsite

/-- What a registry has learnt so far. -/
structure Memory (β : Type) where
  /-- The number of texts resolved. -/
  resolutions : Nat
  /-- The argument types of functions. -/
  types : List (FunctionIndex × List TypeId)
  /-- The winners of templates for lists of operand types. -/
  winners : List ((TemplateId × List TypeId) × FunctionIndex)
  /-- The dispatches of factories for lists of operand types. -/
  dispatches : List ((FactoryId × List TypeId) × Dispatch β)
  /-- The factories that were asked for a variant, once for each question. -/
  questions : List FactoryId
  /-- The number of dispatches made. -/
  made : Nat

namespace Memory

variable {β : Type}

/-- The memory of a registry that has not answered yet, after a number of resolutions. -/
def fresh (resolutions : Nat) : Memory β :=
  ⟨resolutions, [], [], [], [], 0⟩

/-- The remembered argument types of a function. -/
def types? (memory : Memory β) (function : FunctionIndex) : Option (List TypeId) :=
  memory.types.lookup function

/-- The remembered winner of a template. -/
def winner? (memory : Memory β) (template : TemplateId) (runtime : List TypeId) :
    Option FunctionIndex :=
  memory.winners.lookup (template, runtime)

/-- The remembered dispatch of a factory. -/
def dispatch? (memory : Memory β) (factory : FactoryId) (runtime : List TypeId) :
    Option (Dispatch β) :=
  memory.dispatches.lookup (factory, runtime)

/-- The number of dispatches remembered for a factory. -/
def remembered (memory : Memory β) (factory : FactoryId) : Nat :=
  memory.dispatches.countP fun entry => entry.1.1 == factory

/-- The number of questions put to a factory. -/
def asked (memory : Memory β) (factory : FactoryId) : Nat :=
  memory.questions.count factory

/-! ## Learning -/

/-- Counts the texts resolved so far. -/
def countTo (memory : Memory β) (resolutions : Nat) : Memory β :=
  { memory with resolutions }

/-- Remembers the argument types of a function. -/
def learnTypes (memory : Memory β) (function : FunctionIndex) (types : List TypeId) : Memory β :=
  { memory with types := memory.types ++ [(function, types)] }

/-- Remembers the winner of a template. -/
def learnWinner (memory : Memory β) (template : TemplateId) (runtime : List TypeId)
    (winner : FunctionIndex) : Memory β :=
  { memory with winners := memory.winners ++ [((template, runtime), winner)] }

/-- Remembers the dispatch of a factory. -/
def learnDispatch (memory : Memory β) (factory : FactoryId) (runtime : List TypeId)
    (dispatch : Dispatch β) : Memory β :=
  { memory with dispatches := memory.dispatches ++ [((factory, runtime), dispatch)] }

/-- Types that were learnt are remembered, and the first ones learnt stay. -/
theorem types?_learnTypes (memory : Memory β) (function other : FunctionIndex)
    (types : List TypeId) :
    (memory.learnTypes function types).types? other =
      (memory.types? other).or (if other = function then some types else none) := by
  by_cases h : other = function
  · simp [learnTypes, types?, List.lookup_append, h]
  · simp [learnTypes, types?, List.lookup_append, List.lookup_cons, h, beq_false_of_ne h]

/-- A winner that was learnt is remembered, and the first one learnt stays. -/
theorem winner?_learnWinner (memory : Memory β) (template : TemplateId) (runtime : List TypeId)
    (winner : FunctionIndex) (key : TemplateId × List TypeId) :
    (memory.learnWinner template runtime winner).winner? key.1 key.2 =
      (memory.winner? key.1 key.2).or
        (if key = (template, runtime) then some winner else none) := by
  by_cases h : key = (template, runtime) <;>
    simp [learnWinner, winner?, List.lookup_append, List.lookup_cons, h, beq_eq_false_iff_ne.2]

/-- A dispatch that was learnt is remembered, and the first one learnt stays. -/
theorem dispatch?_learnDispatch (memory : Memory β) (factory : FactoryId) (runtime : List TypeId)
    (dispatch : Dispatch β) (key : FactoryId × List TypeId) :
    (memory.learnDispatch factory runtime dispatch).dispatch? key.1 key.2 =
      (memory.dispatch? key.1 key.2).or
        (if key = (factory, runtime) then some dispatch else none) := by
  by_cases h : key = (factory, runtime) <;>
    simp [learnDispatch, dispatch?, List.lookup_append, List.lookup_cons, h, beq_eq_false_iff_ne.2]

/-- Counts one more question to a factory. -/
def countQuestion (memory : Memory β) (factory : FactoryId) : Memory β :=
  { memory with questions := memory.questions ++ [factory] }

/-- Makes a dispatch of a variant, with a serial number of its own. -/
def make (memory : Memory β) (variant : Variant β) : Dispatch β × Memory β :=
  (⟨variant, memory.made⟩, { memory with made := memory.made + 1 })

/-- Counting texts does not touch the argument types that are remembered. -/
@[simp]
theorem types?_countTo (memory : Memory β) (n : Nat) (function : FunctionIndex) :
    (memory.countTo n).types? function = memory.types? function := rfl

/-- Types that are remembered after some were learnt are these, or were remembered before. -/
theorem types?_learnTypes_cases {memory : Memory β} {function other : FunctionIndex}
    {types ids : List TypeId} (h : (memory.learnTypes function types).types? other = some ids) :
    memory.types? other = some ids ∨ (other = function ∧ ids = types) := by
  rw [types?_learnTypes, Option.or_eq_some_iff] at h
  rcases h with hold | ⟨_, hnew⟩
  · exact .inl hold
  · split at hnew
    · rename_i hother
      exact .inr ⟨hother, (Option.some.inj hnew).symm⟩
    · exact absurd hnew (by simp)

/-- A winner that is remembered after one was learnt is that one, or was remembered before. -/
theorem winner?_learnWinner_cases {memory : Memory β} {template id : TemplateId}
    {runtime operands : List TypeId} {winner found : FunctionIndex}
    (h : (memory.learnWinner template runtime winner).winner? id operands = some found) :
    memory.winner? id operands = some found ∨
      (id = template ∧ operands = runtime ∧ found = winner) := by
  rw [winner?_learnWinner memory template runtime winner (id, operands),
    Option.or_eq_some_iff] at h
  rcases h with hold | ⟨_, hnew⟩
  · exact .inl hold
  · split at hnew
    · rename_i hkey
      obtain ⟨hid, hoperands⟩ := Prod.mk.inj hkey
      exact .inr ⟨hid, hoperands, (Option.some.inj hnew).symm⟩
    · exact absurd hnew (by simp)

/-- A dispatch that is remembered after one was learnt is that one, or was remembered before. -/
theorem dispatch?_learnDispatch_cases {memory : Memory β} {factory id : FactoryId}
    {runtime operands : List TypeId} {dispatch found : Dispatch β}
    (h : (memory.learnDispatch factory runtime dispatch).dispatch? id operands = some found) :
    memory.dispatch? id operands = some found ∨
      (id = factory ∧ operands = runtime ∧ found = dispatch) := by
  rw [dispatch?_learnDispatch memory factory runtime dispatch (id, operands),
    Option.or_eq_some_iff] at h
  rcases h with hold | ⟨_, hnew⟩
  · exact .inl hold
  · split at hnew
    · rename_i hkey
      obtain ⟨hid, hoperands⟩ := Prod.mk.inj hkey
      exact .inr ⟨hid, hoperands, (Option.some.inj hnew).symm⟩
    · exact absurd hnew (by simp)

end Memory

end Callsite
