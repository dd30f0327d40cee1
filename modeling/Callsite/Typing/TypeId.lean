/-!
# Type identifiers

A type is known by a number. The greatest number that fits 32 bits is reserved for a type that was
never resolved; a host can hand in the numbers of 32 bits and no others.
-/

namespace Callsite

/-- The identifier of a type. -/
structure TypeId where
  number : Nat
deriving DecidableEq

namespace TypeId

/-- The number of identifiers that a host can hand in: two to the power of 32. -/
def count : Nat := 4294967296

/-- Stands for a type that was not resolved. -/
def invalid : TypeId := ⟨count - 1⟩

/-- Whether the identifier can stand for a type. -/
def isValid (id : TypeId) : Bool :=
  id != invalid

/-- The identifier with a given number, if the number fits 32 bits and is not negative. -/
def ofInt? : Int → Option TypeId
  | .ofNat n => if n < count then some ⟨n⟩ else none
  | .negSucc _ => none

/-- The identifier as messages show it. -/
def display (id : TypeId) : String :=
  if id = invalid then "TypeId(INVALID)" else "TypeId(" ++ toString id.number ++ ")"

/-- The identifier as an inspected record shows it, by its number alone. -/
def inspect (id : TypeId) : String :=
  "TypeId(" ++ toString id.number ++ ")"

/-- A host can hand in every number below `count`. -/
theorem ofInt?_natCast {n : Nat} (h : n < count) : ofInt? n = some ⟨n⟩ :=
  if_pos h

end TypeId

end Callsite
