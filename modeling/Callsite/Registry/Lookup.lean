import Callsite.Registry.Failure
import Callsite.Registry.Tables
import Callsite.Text.Similarity

/-!
# Finding functions by name and naming operands

A name that no function has is answered with the closest name that a function has, if the settings
ask for it and the two are close enough. How close they are is for a `Scoring` to say; registries
use `Scoring.jaroWinkler`. An operand has the name of the argument it stands for, unless the factory
of its function gives it another one.
-/

namespace Callsite

/-- The argument that an operand stands for, or the error that there is none. -/
def argumentForOperand (function : String) (arguments : List Argument) (operand total : Nat) :
    Except ResolveError Argument :=
  match argumentFor? arguments operand total with
  | some argument => .ok argument
  | none => .error (.operandOutOfRange function operand total arguments.length)

/-! ## Ways of scoring names -/

/-- A way of scoring how close one name is to another, with the score that a suggested name must
exceed. Scores are compared, and nothing else is asked of them. -/
structure Scoring where
  Score : Type
  [lt : LT Score]
  [decidableLT : DecidableLT Score]
  score : String → String → Score
  floor : Score

attribute [instance] Scoring.lt Scoring.decidableLT

/-- The similarity that a suggested name must exceed. -/
def suggestionFloor : Float := 0.8

/-- Names are close if they are similar enough: the way of scoring that registries use. -/
def Scoring.jaroWinkler : Scoring where
  Score := Float
  score := Text.jaroWinkler
  floor := suggestionFloor

namespace Registry

variable {β : Type}

/-! ## Names of functions -/

section Score

variable {σ : Type} [LT σ] [DecidableLT σ]

/-- The registered name with the greatest score above `floor`, if suggestions are wanted. -/
def suggestBy (score : String → String → σ) (floor : σ) (registry : Registry β) (name : String) :
    Option String :=
  if registry.settings.suggestNames then
    Text.closest (score name) floor (registry.names.map (·.1))
  else none

/-- The function with a name, or the closest name by a way of scoring. -/
def findBy (score : String → String → σ) (floor : σ) (registry : Registry β) (name : String) :
    Except ResolveError FunctionIndex :=
  match registry.named? name with
  | some index => .ok index
  | none => .error (.notFound name (registry.suggestBy score floor name))

end Score

/-- The function with a name, or the closest name that a function has. -/
def find (scoring : Scoring) (registry : Registry β) (name : String) :
    Except ResolveError FunctionIndex :=
  registry.findBy scoring.score scoring.floor name

/-! ## Names of operands -/

/-- The name that the factory of a function gives to an operand. -/
def factoryArgumentName? (registry : Registry β) (callee : Callee β) (operand total : Nat) :
    Option String :=
  match callee.owner with
  | .factory id =>
    if operand < total then
      (registry.factory? id).bind fun entry => entry.factory.argumentName? operand total
    else none
  | .nobody | .struct _ => none

/-- The name of an operand of a function. -/
def argumentName (registry : Registry β) (callee : Callee β) (operand total : Nat) :
    Except ResolveError String :=
  match registry.factoryArgumentName? callee operand total with
  | some name => .ok name
  | none => (argumentForOperand callee.name callee.arguments operand total).map (·.name)

end Registry

end Callsite
