import Callsite.Call.Invocable
import Callsite.Signature.Layout
import Callsite.Typing.Service

/-!
# Dispatch factories

A factory chooses the code for a call from the types of its operands. What it chooses is a variant;
once a registry has received a variant it is a dispatch with a serial number of its own, so that the
same dispatch handed out twice can be told from two equal ones.
-/

namespace Callsite

/-- Code together with the layout of the operands it is run on. -/
structure Variant (β : Type) where
  invocable : Invocable β
  layout : Layout
deriving DecidableEq

/-- A variant as a registry hands it out. -/
structure Dispatch (β : Type) extends Variant β where
  /-- The number of dispatches made before this one. -/
  serial : Nat
deriving DecidableEq

/-- A source of variants for the functions that belong to it. -/
structure Factory (β : Type) where
  name : String
  /-- The text of the context type that its variants need. -/
  contextText : Option String
  /-- The variant for a list of operand types, if it supports them. The first argument counts the
  earlier questions, so that the answer may depend on it. -/
  variant? : (earlier : Nat) → TypeService → List TypeId → Option (Variant β)
  /-- The name of an operand in a call of so many operands, if the factory gives one. -/
  argumentName? : (operand total : Nat) → Option String

end Callsite
