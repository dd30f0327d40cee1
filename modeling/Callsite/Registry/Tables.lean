import Callsite.Registry.Entry
import Callsite.Settings
import Callsite.Typing.Service

/-!
# The tables of a registry

A registry is a set of tables. Each kind of entry has a table, in which an entry's key is its place,
and functions and templates can also be found by name. The tables grow while a registry is drafted
and never change afterwards; what a registry learns while it answers is kept apart from them.
-/

namespace Callsite

/-- The tables of a registry whose functions have code of type `β`. -/
structure Registry (β : Type) where
  settings : Settings
  /-- The context type that a function needs unless its owner declares one. -/
  defaultContext : TypeId
  functions : List (Callee β)
  names : List (String × FunctionIndex)
  templates : List Template
  templateNames : List (String × TemplateId)
  factories : List (FactoryEntry β)
  structs : List StructEntry

namespace Registry

variable {β : Type}

/-- The registry without entries. -/
def empty (settings : Settings) (defaultContext : TypeId) : Registry β :=
  ⟨settings, defaultContext, [], [], [], [], [], []⟩

/-- The number of functions. -/
def size (registry : Registry β) : Nat :=
  registry.functions.length

/-! ## Finding entries -/

/-- The function with a key. -/
def function? (registry : Registry β) (index : FunctionIndex) : Option (Callee β) :=
  registry.functions[index.number]?

/-- The key of the function with a name. -/
def named? (registry : Registry β) (name : String) : Option FunctionIndex :=
  registry.names.lookup name

/-- The template with a key. -/
def template? (registry : Registry β) (id : TemplateId) : Option Template :=
  registry.templates[id.number]?

/-- The template with a name. -/
def templateNamed? (registry : Registry β) (name : String) : Option Template :=
  (registry.templateNames.lookup name).bind registry.template?

/-- The dispatch factory with a key. -/
def factory? (registry : Registry β) (id : FactoryId) : Option (FactoryEntry β) :=
  registry.factories[id.number]?

/-- The struct with a key. -/
def struct? (registry : Registry β) (id : StructId) : Option StructEntry :=
  registry.structs[id.number]?

/-- The overloads of a template. -/
def membersOf (registry : Registry β) (template : Template) : List (Callee β) :=
  template.members.filterMap registry.function?

/-- The template of a function, if it offers a choice. -/
def family? (registry : Registry β) (callee : Callee β) : Option Template :=
  (callee.template.bind registry.template?).filter Template.isGeneric

/-! ## What a function has from its owner -/

/-- The name of the owner. -/
def ownerName? (registry : Registry β) (callee : Callee β) : Option String :=
  match callee.owner with
  | .nobody => none
  | .struct id => (registry.struct? id).map (·.declaration.name)
  | .factory id => (registry.factory? id).map (·.factory.name)

/-- The struct that the function is a method of. -/
def ownerStruct? (registry : Registry β) (callee : Callee β) : Option StructEntry :=
  match callee.owner with
  | .struct id => registry.struct? id
  | .nobody | .factory _ => none

/-- The module of the struct that the function is a method of. -/
def moduleName? (registry : Registry β) (callee : Callee β) : Option String :=
  (registry.ownerStruct? callee).map (·.declaration.moduleName)

/-- The header of the struct that the function is a method of. -/
def header? (registry : Registry β) (callee : Callee β) : Option String :=
  (registry.ownerStruct? callee).bind (·.declaration.header)

/-! ## Contexts -/

/-- The context type that the owner of a function declares. -/
def declaredContext? (registry : Registry β) (callee : Callee β) : Option TypeId :=
  match callee.owner with
  | .nobody => none
  | .struct id => (registry.struct? id).bind (·.context)
  | .factory id => (registry.factory? id).bind (·.context)

/-- The context type that a function needs: the one its owner declares, or the default. -/
def contextOf (registry : Registry β) (callee : Callee β) : TypeId :=
  (registry.declaredContext? callee).getD registry.defaultContext

end Registry

/-- Whether a value of type `given` can be used where type `wanted` is needed: the types are equal,
or the given type refines the wanted one. -/
def TypeService.fits (types : TypeService) (given wanted : TypeId) : Bool :=
  given == wanted || types.isSubtype given wanted

/-- Whether a function can run in a context of a given type. -/
def Registry.supportsContext {β : Type} (registry : Registry β) (types : TypeService)
    (callee : Callee β) (context : TypeId) : Bool :=
  types.fits context (registry.contextOf callee)

end Callsite
