import Callsite.Signature.Argument

/-!
# The shape of a list of arguments

The shape is what two overloads of one template must share: the number of arguments and, for each,
its name, its direction and whether it is variadic. Types are no part of it.
-/

namespace Callsite

/-- What overloads must have in common at one argument. -/
structure ArgumentShape where
  name : String
  direction : Direction
  variadic : Bool
deriving DecidableEq

/-- The shape of an argument. -/
def Argument.shape (argument : Argument) : ArgumentShape :=
  ⟨argument.name, argument.direction, argument.isVariadic⟩

/-- The shape of a list of arguments. -/
def shapeOf (arguments : List Argument) : List ArgumentShape :=
  arguments.map Argument.shape

/-- Whether two lists of arguments have the same number of arguments and agree at each in what makes
up a shape. -/
def sameShape (arguments others : List Argument) : Bool :=
  arguments.length == others.length && (arguments.zip others).all fun (a, b) =>
    a.name == b.name && a.direction == b.direction && a.isVariadic == b.isVariadic

/-- Arguments agree with each other exactly if they have one shape. -/
theorem sameShape_iff {arguments others : List Argument} :
    sameShape arguments others = true ↔ shapeOf arguments = shapeOf others := by
  induction arguments generalizing others with
  | nil => cases others <;> simp [sameShape, shapeOf]
  | cons a arguments ih =>
    cases others with
    | nil => simp [sameShape, shapeOf]
    | cons b others =>
      have hshape : a.shape = b.shape ↔
          (a.name = b.name ∧ a.direction = b.direction) ∧ a.isVariadic = b.isVariadic := by
        rw [Argument.shape, Argument.shape, ArgumentShape.mk.injEq, and_assoc]
      have hrest : sameShape (a :: arguments) (b :: others) = true ↔
          a.shape = b.shape ∧ sameShape arguments others = true := by
        simp only [sameShape, hshape, List.length_cons, List.zip_cons_cons, List.all_cons,
          Bool.and_eq_true, beq_iff_eq, Nat.add_right_cancel_iff]
        exact and_left_comm
      rw [hrest, ih]
      exact List.cons_eq_cons.symm

/-- A shape as messages show it: the name of the template and, in parentheses, the direction and the
name of each argument. -/
def shapeText (template : String) (shape : List ArgumentShape) : String :=
  template ++ "(" ++ ",".intercalate (shape.map fun s => s.direction.word ++ " " ++ s.name) ++ ")"

/-- The only arguments that may be variadic are last: the first argument that breaks this. -/
def misplacedVariadic? : List Argument → Option Argument
  | [] => none
  | [_] => none
  | argument :: rest =>
    if argument.isVariadic then some argument else misplacedVariadic? rest

end Callsite
