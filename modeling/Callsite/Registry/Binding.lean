import Callsite.Registry.Lookup
import Callsite.Registry.Resolution

/-!
# Binding a call site

A call site names a function, the types of its operands and the type of its context. Binding first
selects the overload if the function's template offers a choice, then checks that the overload can
run in the context, and then asks its factory for a dispatch or, if it has none, lays out its own
arguments over the operands. A binding is the function that was reached and the dispatch to run.
-/

namespace Callsite

/-- A call that is ready to run. -/
structure Binding (β : Type) where
  /-- The function that the call reaches. -/
  function : FunctionIndex
  dispatch : Dispatch β
deriving DecidableEq

/-- Runs a bound call. -/
def Binding.invoke {γ ν : Type} (binding : Binding (Code γ ν)) (context : γ)
    (operands : List (Operand ν)) : γ × List (Operand ν) :=
  binding.dispatch.invocable.invoke context operands

variable {β : Type}

namespace Callee

/-- The error that a function does not take operands of the given types. -/
def mismatch (types : TypeService) (callee : Callee β) (runtime : List TypeId) : ResolveError :=
  .noMatch callee.name (types.describe runtime)

/-- The slot of an operand of type `given`, which must fit it: that of the argument that the operand
stands for, with the type declared at the place of the operand, or at the last place for an operand
beyond it. -/
def slot (types : TypeService) (callee : Callee β) (declared runtime : List TypeId)
    (given : TypeId) (operand : Nat) : Except ResolveError Slot :=
  match argumentForOperand callee.name callee.arguments operand runtime.length with
  | .error error => .error error
  | .ok argument =>
    match declared[min operand (callee.arguments.length - 1)]? with
    | none => .error (callee.mismatch types runtime)
    | some wanted =>
      if types.fits given wanted then .ok ⟨argument.name, argument.direction, wanted⟩
      else .error (callee.mismatch types runtime)

/-- The layout of a call by the function's own arguments, whose types are `declared`: one slot for
each operand, if their number is right and each fits its slot. -/
def layout (types : TypeService) (callee : Callee β) (declared runtime : List TypeId) :
    Except ResolveError Layout :=
  if admitsCount callee.arguments runtime.length then
    runtime.zipIdx.mapM fun (given, operand) => callee.slot types declared runtime given operand
  else .error (callee.mismatch types runtime)

/-- Makes a dispatch of the function's own code for operands of the given types. -/
def ownDispatch (types : TypeService) (callee : Callee β) (runtime : List TypeId)
    (memory : Memory β) : Answer (Memory β) ResolveError (Dispatch β) :=
  ((callee.argumentTypes types memory).mapError .unknownType).andThen fun declared memory =>
    match callee.layout types declared runtime with
    | .error error => .fail error memory
    | .ok layout =>
      let (dispatch, memory) := memory.make ⟨callee.invocable, layout⟩
      .ok dispatch memory

end Callee

namespace Registry

/-- The function that a call of `callee` reaches: the selected overload if there is a choice. -/
def target (registry : Registry β) (types : TypeService) (callee : Callee β)
    (runtime : List TypeId) (memory : Memory β) : Answer (Memory β) ResolveError (Callee β) :=
  match registry.family? callee with
  | none => .ok callee memory
  | some template =>
    (registry.resolveTemplate types template.id runtime memory).andThen fun winner memory =>
      match registry.function? winner with
      | some reached => .ok reached memory
      | none => .fail (.unknownFunction winner) memory

/-- The dispatch of a function that is called directly. -/
def dispatch (registry : Registry β) (types : TypeService) (callee : Callee β)
    (runtime : List TypeId) (memory : Memory β) : Answer (Memory β) ResolveError (Dispatch β) :=
  match callee.owner with
  | .factory id => registry.resolveFactory types id runtime memory
  | .nobody | .struct _ => callee.ownDispatch types runtime memory

/-- The error that a function cannot run in a context. -/
def contextMismatch (registry : Registry β) (types : TypeService) (callee : Callee β)
    (context : TypeId) : ResolveError :=
  .contextMismatch callee.name (TypeService.label types.name? (registry.contextOf callee))
    (TypeService.label types.name? context)

/-- Binds a call of a function by its operand types and its context type. -/
def bind (registry : Registry β) (types : TypeService) (function : FunctionIndex)
    (runtime : List TypeId) (context : TypeId) (memory : Memory β) :
    Answer (Memory β) ResolveError (Binding β) :=
  match registry.function? function with
  | none => .fail (.unknownFunction function) memory
  | some callee =>
    (registry.target types callee runtime memory).andThen fun reached memory =>
      if registry.supportsContext types reached context then
        (registry.dispatch types reached runtime memory).map (⟨reached.index, ·⟩)
      else .fail (registry.contextMismatch types reached context) memory

end Registry

end Callsite
