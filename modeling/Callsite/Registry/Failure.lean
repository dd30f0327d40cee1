import Callsite.Key
import Callsite.Text.Quoted

/-!
# Failures

Registering a function can fail, and so can every question to a registry. Each failure names its
cause, and `message` is the only place where its wording stands.
-/

namespace Callsite

/-- An argument whose type text names no type. -/
structure UnknownType where
  function : String
  argument : String
  typeText : String
deriving DecidableEq

/-- The message for an argument of unknown type. -/
def UnknownType.message (failure : UnknownType) : String :=
  "unknown type " ++ Text.quoted failure.typeText ++ " for argument " ++
    Text.quoted failure.argument ++ " of " ++ Text.quoted failure.function

/-- Why a registration is refused. -/
inductive RegistrationError where
  /-- A function without a name or without code. -/
  | invalidDeclaration (name : String) (hasCode : Bool)
  /-- A name that another function has. -/
  | duplicateName (name : String) (existing : FunctionIndex)
  | unknownType (failure : UnknownType)
  /-- A context type text that names no type. -/
  | unknownContextType (owner typeText : String)
  /-- A variadic argument before the last one. -/
  | misplacedVariadic (function argument : String)
  /-- An overload whose arguments do not have the shape of its template. -/
  | shapeMismatch (template function expected : String)
  /-- An overload with the argument types of another one. -/
  | duplicateSignature (template types existing : String)
  | unknownTemplate (id : TemplateId)
  | unknownFactory (id : FactoryId)
  | unknownStruct (id : StructId)
deriving DecidableEq

/-- The message for a refused registration. -/
def RegistrationError.message : RegistrationError → String
  | .invalidDeclaration name hasCode =>
    "invalid function descriptor: name=" ++ Text.quoted name ++ " has_invocable=" ++
      toString hasCode
  | .duplicateName name existing =>
    "duplicate function name: " ++ Text.quoted name ++ " already registered at " ++ existing.display
  | .unknownType failure => failure.message
  | .unknownContextType owner typeText =>
    "unknown execute context type " ++ Text.quoted typeText ++ " declared by " ++ Text.quoted owner
  | .misplacedVariadic function argument =>
    "variadic argument " ++ Text.quoted argument ++ " of " ++ Text.quoted function ++
      " must be the last argument"
  | .shapeMismatch template function expected =>
    Text.quoted function ++ " does not match the shape of template " ++ Text.quoted template ++
      ": expected " ++ expected
  | .duplicateSignature template types existing =>
    "template " ++ Text.quoted template ++ " already has a member with types " ++ types ++ ": " ++
      Text.quoted existing
  | .unknownTemplate id => "unknown template: " ++ id.display
  | .unknownFactory id => "unknown dispatch factory: " ++ id.display
  | .unknownStruct id => "unknown struct: " ++ id.display

/-- Why a question to a registry has no answer. -/
inductive ResolveError where
  /-- A name that no function has, with the closest one that a function has. -/
  | notFound (name : String) (suggestion : Option String)
  | unknownFunction (index : FunctionIndex)
  | unknownTemplate (id : TemplateId)
  | unknownFactory (id : FactoryId)
  | unknownType (failure : UnknownType)
  /-- Operand types that neither an overload nor the function itself accepts. -/
  | noMatch (target types : String)
  /-- Operand types for which two overloads are equally good. -/
  | ambiguous (target types : String) (candidates : List String)
  /-- Operand types that a dispatch factory has no variant for. -/
  | unsupported (factory types : String)
  /-- An operand that no declared argument stands for. -/
  | operandOutOfRange (function : String) (operand total declared : Nat)
  /-- A context that is not of the type the function needs. -/
  | contextMismatch (function required candidate : String)
deriving DecidableEq

/-- The message for a question without an answer. -/
def ResolveError.message : ResolveError → String
  | .notFound name suggestion =>
    "function not found: " ++ Text.quoted name ++
      match suggestion with
      | some closest => " (did you mean " ++ Text.quoted closest ++ "?)"
      | none => ""
  | .unknownFunction index => "unknown function index: " ++ index.display
  | .unknownTemplate id => "unknown template: " ++ id.display
  | .unknownFactory id => "unknown dispatch factory: " ++ id.display
  | .unknownType failure => failure.message
  | .noMatch target types => "no overload of " ++ Text.quoted target ++ " accepts " ++ types
  | .ambiguous target types candidates =>
    "ambiguous overload of " ++ Text.quoted target ++ " for " ++ types ++ ": " ++
      Text.bracketed (candidates.map Text.quoted)
  | .unsupported factory types =>
    "dispatch factory " ++ Text.quoted factory ++ " does not support " ++ types
  | .operandOutOfRange function operand total declared =>
    "operand " ++ toString operand ++ " out of range for " ++ Text.quoted function ++ " (" ++
      toString total ++ " operands, " ++ toString declared ++ " declared arguments)"
  | .contextMismatch function required candidate =>
    Text.quoted function ++ " requires execute context " ++ required ++ ", got " ++ candidate

end Callsite
