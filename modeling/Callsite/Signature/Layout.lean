import Callsite.Signature.Argument
import Callsite.Typing.TypeId

/-!
# Layouts

A layout lists the operand slots of a resolved call, each with the type its operand is used at.
-/

namespace Callsite

/-- The slot of one operand. -/
structure Slot where
  name : String
  direction : Direction
  typeId : TypeId
deriving DecidableEq

/-- The slots of a call, in the order of its operands. -/
abbrev Layout := List Slot

/-- The types of the slots. -/
def Layout.types (layout : Layout) : List TypeId :=
  layout.map (·.typeId)

end Callsite
