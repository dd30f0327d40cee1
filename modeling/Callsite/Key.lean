/-!
# Keys of the registry tables

Functions, templates, dispatch factories and structs are each kept in a table, and a key is the
place of an entry in its table. Messages show a key with the name of its kind.
-/

namespace Callsite

/-- The place of a function in the table of functions. -/
structure FunctionIndex where
  number : Nat
deriving DecidableEq

/-- The place of a template in the table of templates. -/
structure TemplateId where
  number : Nat
deriving DecidableEq

/-- The place of a dispatch factory in the table of factories. -/
structure FactoryId where
  number : Nat
deriving DecidableEq

/-- The place of a struct in the table of structs. -/
structure StructId where
  number : Nat
deriving DecidableEq

/-- The key of a function as messages show it. -/
def FunctionIndex.display (index : FunctionIndex) : String :=
  "FunctionIndex(" ++ toString index.number ++ ")"

/-- The key of a template as messages show it. -/
def TemplateId.display (id : TemplateId) : String :=
  "TemplateId(" ++ toString id.number ++ ")"

/-- The key of a dispatch factory as messages show it. -/
def FactoryId.display (id : FactoryId) : String :=
  "FactoryId(" ++ toString id.number ++ ")"

/-- The key of a struct as messages show it. -/
def StructId.display (id : StructId) : String :=
  "StructId(" ++ toString id.number ++ ")"

/-- What a function belongs to: nothing, a struct whose method it is, or the dispatch factory that
chooses its code. -/
inductive Owner where
  | nobody
  | struct (id : StructId)
  | factory (id : FactoryId)
deriving DecidableEq

end Callsite
