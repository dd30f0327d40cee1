import Callsite.Registry.Binding
import Callsite.Registry.Lookup

/-!
# Questions to a registry

The questions to a frozen registry as values, so that the history of a registry is a list. A
question about a function that is not registered is answered by `absent`, except that binding one is
an error. The answers are told for every way of scoring names (`Registry.answerBy`); registries give
the one of `Registry.answer`.
-/

namespace Callsite

/-- A question to a registry. -/
inductive Query where
  | function (index : FunctionIndex)
  | find (name : String)
  | argumentTypes (function : FunctionIndex)
  | resolveTemplate (id : TemplateId) (runtime : List TypeId)
  | resolveFactory (id : FactoryId) (runtime : List TypeId)
  | supportsContext (function : FunctionIndex) (context : TypeId)
  | argumentName (function : FunctionIndex) (operand total : Nat)
  | argument (function : FunctionIndex) (operand total : Nat)
  | bind (function : FunctionIndex) (runtime : List TypeId) (context : TypeId)
deriving DecidableEq

/-- The answer to a question. -/
inductive Reply (β : Type) where
  /-- The question is about a function that is not registered. -/
  | absent
  | function (index : FunctionIndex)
  | types (ids : List TypeId)
  | dispatch (dispatch : Dispatch β)
  | verdict (yes : Bool)
  | name (text : String)
  | argument (argument : Argument)
  | binding (binding : Binding β)
deriving DecidableEq

namespace Registry

variable {β : Type}

/-- Asks about a function, if it is registered. -/
def about (registry : Registry β) (function : FunctionIndex) (memory : Memory β)
    (ask : Callee β → Answer (Memory β) ResolveError (Reply β)) :
    Answer (Memory β) ResolveError (Reply β) :=
  match registry.function? function with
  | none => .ok .absent memory
  | some callee => ask callee

/-- The answer to a question, with what the registry has learnt afterwards, if names are scored in
the given way. -/
def answerBy (scoring : Scoring) (registry : Registry β) (types : TypeService) (query : Query)
    (memory : Memory β) : Answer (Memory β) ResolveError (Reply β) :=
  match query with
  | .function index =>
    registry.about index memory fun callee => .ok (.function callee.index) memory
  | .find name => ⟨(registry.find scoring name).map .function, memory⟩
  | .argumentTypes function =>
    registry.about function memory fun callee =>
      ((callee.argumentTypes types memory).mapError .unknownType).map .types
  | .resolveTemplate id runtime => (registry.resolveTemplate types id runtime memory).map .function
  | .resolveFactory id runtime => (registry.resolveFactory types id runtime memory).map .dispatch
  | .supportsContext function context =>
    registry.about function memory fun callee =>
      .ok (.verdict (registry.supportsContext types callee context)) memory
  | .argumentName function operand total =>
    registry.about function memory fun callee =>
      ⟨(registry.argumentName callee operand total).map .name, memory⟩
  | .argument function operand total =>
    registry.about function memory fun callee =>
      ⟨(argumentForOperand callee.name callee.arguments operand total).map .argument, memory⟩
  | .bind function runtime context =>
    (registry.bind types function runtime context memory).map .binding

/-- The answer to a question, with what the registry has learnt afterwards. -/
def answer (registry : Registry β) (types : TypeService) (query : Query) (memory : Memory β) :
    Answer (Memory β) ResolveError (Reply β) :=
  registry.answerBy .jaroWinkler types query memory

/-- The answers to a history of questions, in order. Each question comes with the type service of
its time. -/
def answerAll (scoring : Scoring) (registry : Registry β) :
    List (TypeService × Query) → Memory β →
      List (Except ResolveError (Reply β)) × Memory β
  | [], memory => ([], memory)
  | (types, query) :: rest, memory =>
    let answer := registry.answerBy scoring types query memory
    let (results, memory) := registry.answerAll scoring rest answer.state
    (answer.result :: results, memory)

end Registry

end Callsite
