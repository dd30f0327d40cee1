import Callsite.Typing.Catalog

/-!
# The type service

A registry does not interpret the text of a type. It asks a type service: what type a text names,
whether one type refines another, and how to write types in a message. The answers on texts may
change over time, so `resolve` is also given the number of texts resolved before; a service whose
answers do not depend on that number is `Stable`. A catalog is a stable service.
-/

namespace Callsite

/-- What a registry may ask about types. -/
structure TypeService where
  /-- The type that a text names when it is asked for after `earlier` other texts. -/
  resolve : (earlier : Nat) → String → Option TypeId
  /-- Whether `candidate` is a refinement of `required`. -/
  isSubtype : (candidate required : TypeId) → Bool
  /-- The name of a type. -/
  name? : TypeId → Option String
  /-- A list of types as messages show it. -/
  describe : List TypeId → String

namespace TypeService

/-- A type by its name, or by its identifier if it has none. -/
def label (name? : TypeId → Option String) (id : TypeId) : String :=
  (name? id).getD id.display

/-- Types in brackets, each by its label. -/
def listing (name? : TypeId → Option String) (ids : List TypeId) : String :=
  Text.bracketed (ids.map (label name?))

/-- Whether the answers on texts never change. -/
def Stable (types : TypeService) : Prop :=
  ∀ earlier later text, types.resolve earlier text = types.resolve later text

end TypeService

namespace Catalog

/-- Types of the catalog in brackets, undeclared ones by their identifiers. -/
def describe (catalog : Catalog) (ids : List TypeId) : String :=
  TypeService.listing catalog.name? ids

/-- The catalog as a type service. -/
def service (catalog : Catalog) : TypeService where
  resolve _ text := catalog.find? text
  isSubtype := catalog.isSubtype
  name? := catalog.name?
  describe := catalog.describe

/-- A catalog that does not grow gives the same answers for ever. -/
theorem service_stable (catalog : Catalog) : catalog.service.Stable :=
  fun _ _ _ => rfl

end Catalog

end Callsite
