import Callsite.Text.Blank

/-!
# Declared arguments

An argument has a name, a direction and the text of its type. A type text that ends in `*`, blanks
after it apart, makes the argument variadic: it stands for any number of trailing operands of its
element type, which is the text without the mark and without blanks around it.
-/

namespace Callsite

/-- The role of an argument in a call. -/
inductive Direction where
  /-- A value that is only read. -/
  | input
  /-- A value that is only written. -/
  | output
  /-- A value that is read and written. -/
  | inout
  /-- A value that is only read and that nothing can be connected to. -/
  | visible
  /-- State that is kept out of sight and may be written. -/
  | hidden
deriving DecidableEq

namespace Direction

/-- Whether a call may write through an operand of this direction. -/
def isMutable : Direction → Bool
  | output | inout | hidden => true
  | input | visible => false

/-- The word for the direction in the shape of a template. -/
def word : Direction → String
  | input => "in"
  | output => "out"
  | inout => "io"
  | visible => "const"
  | hidden => "hidden"

/-- The direction that a word stands for. -/
def ofWord? : String → Option Direction
  | "in" => some input
  | "out" => some output
  | "io" => some inout
  | "const" => some visible
  | "hidden" => some hidden
  | _ => none

/-- The direction as an inspected record shows it. -/
def inspect : Direction → String
  | input => "Input"
  | output => "Output"
  | inout => "IO"
  | visible => "Visible"
  | hidden => "Hidden"

/-- Every direction is read back from its word. -/
theorem ofWord?_word (direction : Direction) : ofWord? direction.word = some direction := by
  cases direction <;> rfl

end Direction

/-! ## Type texts -/

namespace TypeText

/-- The mark of a variadic argument. -/
def mark : Char := '*'

/-- Whether a type text ends in the mark, blanks after it apart. -/
def isVariadic (text : String) : Bool :=
  (Text.Chars.trimEnd text.toList).getLast? == some mark

/-- A type text without one final mark and without blanks around it. -/
def element (text : String) : String :=
  match Text.Chars.dropLast? mark (Text.Chars.trim text.toList) with
  | some cs => String.ofList (Text.Chars.trimEnd cs)
  | none => Text.trim text

end TypeText

/-! ## Arguments -/

/-- A declared argument of a function. -/
structure Argument where
  name : String
  typeText : String
  direction : Direction := .input
deriving DecidableEq

namespace Argument

/-- Whether the argument stands for any number of trailing operands. -/
def isVariadic (argument : Argument) : Bool :=
  TypeText.isVariadic argument.typeText

/-- The text of the type that every operand of the argument has. -/
def elementType (argument : Argument) : String :=
  TypeText.element argument.typeText

end Argument

end Callsite
