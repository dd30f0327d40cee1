import Callsite.Typing.TypeId

/-!
# Code that can be called

The code of a function works on a context and on a list of operands. A registry never looks into
code, so everything that only stores it is stated for any type of code; `Code` is the type that can
be run.
-/

namespace Callsite

/-- One operand of a call: its type and its value. -/
structure Operand (ν : Type) where
  typeId : TypeId
  value : ν

/-- Code that reads and changes a context of type `γ` and operand values of type `ν`. -/
abbrev Code (γ ν : Type) := γ → List (Operand ν) → γ × List (Operand ν)

/-- Code of either kind: a plain function, or a closure made while the program runs. -/
inductive Invocable (β : Type) where
  | function (code : β)
  | closure (code : β)
deriving DecidableEq

namespace Invocable

/-- The code of an invocable, of whatever kind. -/
def code {β : Type} : Invocable β → β
  | function code => code
  | closure code => code

/-- Runs the code. -/
def invoke {γ ν : Type} (invocable : Invocable (Code γ ν)) (context : γ)
    (operands : List (Operand ν)) : γ × List (Operand ν) :=
  invocable.code context operands

end Invocable

end Callsite
