import Callsite.Text.Blank
import Callsite.Text.Quoted
import Callsite.Typing.TypeId

/-!
# The catalog of types

A catalog lists types in the order of their declaration, and the number of a type is its place in
that order. A type may refine one type declared before it, so going from parent to parent always
ends. A second table maps texts to types: the name of every type, and aliases. A text is looked up
without the blanks around it.

Declaring needs a name that is not blank and not taken; an alias only needs a text that is not
taken. An operation that fails leaves the catalog as it was.
-/

namespace Callsite

/-- A declared type. -/
structure DeclaredType where
  id : TypeId
  name : String
  /-- The type that this one refines. -/
  parent : Option TypeId
deriving DecidableEq

/-- Declared types in order, and the texts that name them. -/
structure Catalog where
  types : List DeclaredType
  names : List (String × TypeId)
deriving DecidableEq

/-- Why a catalog refuses an operation. -/
inductive CatalogError where
  /-- A text or an identifier that stands for no type. -/
  | unknown (text : String)
  /-- A text that names a type already. -/
  | duplicate (name : String)
deriving DecidableEq

/-- The message for a refused operation. -/
def CatalogError.message : CatalogError → String
  | .unknown text => "unknown type: " ++ Text.quoted text
  | .duplicate name => "type already declared: " ++ Text.quoted name

namespace Catalog

/-- The catalog without types. -/
def empty : Catalog := ⟨[], []⟩

/-- The number of declared types. -/
def size (catalog : Catalog) : Nat :=
  catalog.types.length

/-- The declaration of a type. -/
def get? (catalog : Catalog) (id : TypeId) : Option DeclaredType :=
  catalog.types[id.number]?

/-- The name of a declared type. -/
def name? (catalog : Catalog) (id : TypeId) : Option String :=
  (catalog.get? id).map (·.name)

/-- The type that a declared type refines. -/
def parent? (catalog : Catalog) (id : TypeId) : Option TypeId :=
  (catalog.get? id).bind (·.parent)

/-- The type that a key of the table of names stands for; a key is looked up as it is. -/
def named? (catalog : Catalog) (key : String) : Option TypeId :=
  catalog.names.lookup key

/-- The type that a text names, whatever blanks surround it. -/
def find? (catalog : Catalog) (text : String) : Option TypeId :=
  catalog.named? (Text.trim text)

/-- The type that a text names, or the error that it names none. -/
def resolve (catalog : Catalog) (text : String) : Except CatalogError TypeId :=
  match catalog.find? text with
  | some id => .ok id
  | none => .error (.unknown text)

/-! ## Declaring types -/

/-- Appends a type under the trimmed name. -/
def insert (catalog : Catalog) (name : String) (parent : Option TypeId) :
    Except CatalogError (TypeId × Catalog) :=
  let key := Text.trim name
  if key = "" then .error (.unknown name)
  else if (catalog.named? key).isSome then .error (.duplicate key)
  else
    let id : TypeId := ⟨catalog.size⟩
    .ok (id, ⟨catalog.types ++ [⟨id, key, parent⟩], catalog.names ++ [(key, id)]⟩)

/-- Declares a type that refines no other. -/
def declare (catalog : Catalog) (name : String) : Except CatalogError (TypeId × Catalog) :=
  catalog.insert name none

/-- Declares a type that refines a declared one. -/
def refine (catalog : Catalog) (name : String) (parent : TypeId) :
    Except CatalogError (TypeId × Catalog) :=
  if (catalog.get? parent).isNone then .error (.unknown parent.display)
  else catalog.insert name (some parent)

/-- Lets the trimmed text name a declared type. -/
def addAlias (catalog : Catalog) (text : String) (target : TypeId) : Except CatalogError Catalog :=
  let key := Text.trim text
  if (catalog.get? target).isNone then .error (.unknown target.display)
  else if (catalog.named? key).isSome then .error (.duplicate key)
  else .ok { catalog with names := catalog.names ++ [(key, target)] }

/-! ## Refinement -/

/-- The type and the types above it, from parent to parent, through at most `steps` parents. -/
def lineageWithin (catalog : Catalog) : Nat → TypeId → List TypeId
  | 0, id => [id]
  | steps + 1, id =>
    match catalog.parent? id with
    | none => [id]
    | some parent => id :: catalog.lineageWithin steps parent

/-- The type and all types above it. A parent is declared before its child, so that no lineage has
more parents than the catalog has types. -/
def lineage (catalog : Catalog) (id : TypeId) : List TypeId :=
  catalog.lineageWithin catalog.size id

/-- Whether `candidate` is `required` or refines it through any number of steps. -/
def isSubtype (catalog : Catalog) (candidate required : TypeId) : Bool :=
  (catalog.lineage candidate).contains required

/-! ## Requests

The three ways to change a catalog as values, so that a history of changes is a list. -/

/-- A change asked of a catalog. -/
inductive Request where
  | declare (name : String)
  | refine (name : String) (parent : TypeId)
  | addAlias (text : String) (target : TypeId)
deriving DecidableEq

/-- What a catalog answers to a request, with the catalog afterwards: the new type, or nothing for
an alias. -/
def apply (catalog : Catalog) : Request → Except CatalogError (Option TypeId) × Catalog
  | .declare name =>
    match catalog.declare name with
    | .ok (id, next) => (.ok (some id), next)
    | .error e => (.error e, catalog)
  | .refine name parent =>
    match catalog.refine name parent with
    | .ok (id, next) => (.ok (some id), next)
    | .error e => (.error e, catalog)
  | .addAlias text target =>
    match catalog.addAlias text target with
    | .ok next => (.ok none, next)
    | .error e => (.error e, catalog)

/-- The catalog after a history of requests, refused ones included. -/
def applyAll (catalog : Catalog) (requests : List Request) : Catalog :=
  requests.foldl (fun catalog request => (catalog.apply request).2) catalog

end Catalog

end Callsite
