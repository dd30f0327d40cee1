import Callsite.Signature.Argument

/-!
# Operands and arguments

The operands of a call stand for the declared arguments one by one, and a variadic last argument
takes all operands from its own position on.
-/

namespace Callsite

/-- Whether the last argument is variadic. -/
def isVariadic (arguments : List Argument) : Bool :=
  arguments.getLast?.any Argument.isVariadic

/-- The number of operands that the arguments before a variadic last one take. -/
def fixedCount (arguments : List Argument) : Nat :=
  if isVariadic arguments then arguments.length - 1 else arguments.length

/-- Whether a call may have this many operands: as many as there are fixed arguments, or at least as
many if the last argument is variadic. -/
def admitsCount (arguments : List Argument) (total : Nat) : Bool :=
  if isVariadic arguments then fixedCount arguments ≤ total else total == fixedCount arguments

/-- The place of the argument that an operand stands for, in a call of `total` operands. -/
def argumentPosition? (arguments : List Argument) (operand total : Nat) : Option Nat :=
  if total ≤ operand then none
  else if operand < fixedCount arguments then some operand
  else if isVariadic arguments then some (fixedCount arguments)
  else none

/-- Every operand that stands for an argument stands for one that is declared. -/
theorem argumentPosition?_lt {arguments : List Argument} {operand total position : Nat}
    (h : argumentPosition? arguments operand total = some position) :
    position < arguments.length := by
  by_cases hv : isVariadic arguments = true
  · have hlast : 0 < arguments.length := by
      cases arguments with
      | nil => simp [isVariadic] at hv
      | cons => simp
    simp only [argumentPosition?, fixedCount, hv, if_true] at h
    split at h
    · simp at h
    · split at h
      · have := Option.some.inj h
        omega
      · have := Option.some.inj h
        omega
  · simp only [argumentPosition?, fixedCount, hv, Bool.false_eq_true, if_false] at h
    split at h
    · simp at h
    · split at h
      · have := Option.some.inj h
        omega
      · simp at h

/-- The argument that an operand stands for, in a call of `total` operands. -/
def argumentFor? (arguments : List Argument) (operand total : Nat) : Option Argument :=
  (argumentPosition? arguments operand total).bind (arguments[·]?)

end Callsite
