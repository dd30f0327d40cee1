import Callsite.Call.Factory
import Callsite.Key
import Callsite.Signature.Operand
import Callsite.Signature.Shape
import Callsite.Text.Qualified

/-!
# Entries of a registry

What a host hands in is a declaration; what a registry keeps of it is an entry, which also has its
key and the links to other entries. A function entry is a `Callee`: what a call site can be bound
to.
-/

namespace Callsite

variable {β : Type}

/-! ## Functions -/

/-- A function as a host declares it. -/
structure Declaration (β : Type) where
  name : String
  /-- The code of the function; a declaration without code only shows the shape of one. -/
  invocable : Option (Invocable β)
  arguments : List Argument
deriving DecidableEq

/-- Whether the declaration has a name and code. -/
def Declaration.isValid (declaration : Declaration β) : Bool :=
  declaration.name != "" && declaration.invocable.isSome

/-- A registered function. -/
structure Callee (β : Type) where
  index : FunctionIndex
  name : String
  invocable : Invocable β
  owner : Owner
  /-- The template that the function is an overload of. -/
  template : Option TemplateId
  arguments : List Argument
deriving DecidableEq

namespace Callee

/-- The name of the function within its owner. -/
def methodName (callee : Callee β) : String :=
  Text.unqualified callee.name

/-- Whether the function has a name; every registered function has one. -/
def isValid (callee : Callee β) : Bool :=
  callee.name != ""

/-- Whether the last argument is variadic. -/
def isVariadic (callee : Callee β) : Bool :=
  Callsite.isVariadic callee.arguments

end Callee

/-! ## Templates -/

/-- A family of overloads: functions with arguments of one shape and of different types. -/
structure Template where
  id : TemplateId
  name : String
  /-- The overloads in the order of their registration. -/
  members : List FunctionIndex
  /-- The shape of the overloads as messages show it, once there is one. -/
  shapeText? : Option String
deriving DecidableEq

namespace Template

/-- The template without overloads. -/
def empty (id : TemplateId) (name : String) : Template :=
  ⟨id, name, [], none⟩

/-- The template with one more overload; the first one gives it the text of its shape. -/
def add (template : Template) (member : FunctionIndex) (arguments : List Argument) : Template :=
  { template with
    members := template.members ++ [member]
    shapeText? := some (template.shapeText?.getD (shapeText template.name (shapeOf arguments))) }

/-- Whether there is a choice between overloads. -/
def isGeneric (template : Template) : Bool :=
  1 < template.members.length

end Template

/-! ## Owners -/

/-- A structural type as a host declares it. -/
structure StructDeclaration where
  name : String
  /-- The module that declares the struct. -/
  moduleName : String
  /-- The text of the context type that its methods need. -/
  contextText : Option String
  /-- The path of its header, relative to the module. -/
  header : Option String
deriving DecidableEq

/-- A registered struct. -/
structure StructEntry where
  id : StructId
  declaration : StructDeclaration
  /-- The context type that its methods need, if it declares one. -/
  context : Option TypeId
deriving DecidableEq

/-- A registered dispatch factory. -/
structure FactoryEntry (β : Type) where
  id : FactoryId
  factory : Factory β
  /-- The context type that its variants need, if it declares one. -/
  context : Option TypeId

end Callsite
