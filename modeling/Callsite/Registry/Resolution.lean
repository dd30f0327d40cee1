import Callsite.Overload.Selection
import Callsite.Registry.Answer
import Callsite.Registry.Failure
import Callsite.Registry.Memory
import Callsite.Registry.Tables

/-!
# Resolving types, templates and factories

The three questions whose answers a registry remembers: the types of a function's arguments, the
winner of a template for a list of operand types, and the dispatch of a factory for such a list.
Each is answered from the memory if it was answered before; otherwise the work is done and, if it
succeeds, its result is remembered. A failure is not remembered, but what was learnt on the way to
it is.
-/

namespace Callsite

variable {β : Type}

/-! ## Argument types -/

/-- The types of arguments, resolved in order up to the first that is unknown, and the number of
texts resolved afterwards. -/
def resolveArguments (types : TypeService) (function : String) :
    List Argument → Nat → Answer Nat UnknownType (List TypeId)
  | [], earlier => .ok [] earlier
  | argument :: rest, earlier =>
    match types.resolve earlier argument.elementType with
    | none => .fail ⟨function, argument.name, argument.typeText⟩ (earlier + 1)
    | some id => (resolveArguments types function rest (earlier + 1)).map (id :: ·)

/-- The types of arguments, without any use of what was learnt but the count of resolutions. -/
def Memory.resolveArguments (types : TypeService) (function : String) (arguments : List Argument)
    (memory : Memory β) : Answer (Memory β) UnknownType (List TypeId) :=
  let answer := Callsite.resolveArguments types function arguments memory.resolutions
  ⟨answer.result, memory.countTo answer.state⟩

/-- The types of a function's arguments. -/
def Callee.argumentTypes (types : TypeService) (callee : Callee β) (memory : Memory β) :
    Answer (Memory β) UnknownType (List TypeId) :=
  match memory.types? callee.index with
  | some known => .ok known memory
  | none =>
    (memory.resolveArguments types callee.name callee.arguments).andThen fun found memory =>
      .ok found (memory.learnTypes callee.index found)

/-! ## Templates -/

/-- Functions as candidates for a selection, each with its argument types. -/
def candidatesOf (types : TypeService) :
    List (Callee β) → Memory β → Answer (Memory β) UnknownType (List Candidate)
  | [], memory => .ok [] memory
  | callee :: rest, memory =>
    (callee.argumentTypes types memory).andThen fun declared memory =>
      (candidatesOf types rest memory).map (⟨callee.index, declared⟩ :: ·)

namespace Registry

/-- Whether an overload that declares type `wanted` takes an operand of another type `given`. -/
def widens (registry : Registry β) (types : TypeService) (given wanted : TypeId) : Bool :=
  registry.settings.subtypeOverloads && types.isSubtype given wanted

/-- The names of functions, in order. -/
def namesOf (registry : Registry β) (functions : List FunctionIndex) : List String :=
  functions.filterMap fun index => (registry.function? index).map (·.name)

/-- Selects an overload of a template, whatever is remembered about it. -/
def selectOverload (registry : Registry β) (types : TypeService) (template : Template)
    (runtime : List TypeId) (memory : Memory β) : Answer (Memory β) ResolveError FunctionIndex :=
  ((candidatesOf types (registry.membersOf template) memory).mapError .unknownType).andThen
    fun candidates memory =>
      match select (registry.widens types) candidates runtime with
      | .found winner => .ok winner memory
      | .noMatch => .fail (.noMatch template.name (types.describe runtime)) memory
      | .ambiguous twins =>
        .fail (.ambiguous template.name (types.describe runtime) (registry.namesOf twins)) memory

/-- The overload of a template that takes operands of the given types. -/
def resolveTemplate (registry : Registry β) (types : TypeService) (id : TemplateId)
    (runtime : List TypeId) (memory : Memory β) : Answer (Memory β) ResolveError FunctionIndex :=
  match registry.template? id with
  | none => .fail (.unknownTemplate id) memory
  | some template =>
    match memory.winner? id runtime with
    | some winner => .ok winner memory
    | none =>
      (registry.selectOverload types template runtime memory).andThen fun winner memory =>
        .ok winner (memory.learnWinner id runtime winner)

/-! ## Factories -/

/-- The dispatch of a factory for operands of the given types. -/
def resolveFactory (registry : Registry β) (types : TypeService) (id : FactoryId)
    (runtime : List TypeId) (memory : Memory β) : Answer (Memory β) ResolveError (Dispatch β) :=
  match registry.factory? id with
  | none => .fail (.unknownFactory id) memory
  | some entry =>
    match memory.dispatch? id runtime with
    | some dispatch => .ok dispatch memory
    | none =>
      let variant := entry.factory.variant? (memory.asked id) types runtime
      let memory := memory.countQuestion id
      match variant with
      | none => .fail (.unsupported entry.factory.name (types.describe runtime)) memory
      | some variant =>
        let (dispatch, memory) := memory.make variant
        .ok dispatch (memory.learnDispatch id runtime dispatch)

end Registry

end Callsite
