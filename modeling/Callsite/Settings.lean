import Callsite.Settings.Document

/-!
# Settings of a registry

The settings are chosen when a registry is built. They can be read from a settings document, which
may name each of them once, by its key and with a value of its type, and nothing else; what it does
not name keeps its default.
-/

namespace Callsite

/-- The choices that a registry is built with. -/
structure Settings where
  /-- The text of the context type that functions need unless their owner says otherwise. -/
  defaultContext : String := "ExecuteContext"
  /-- Whether all argument types are resolved when the registry is opened. -/
  eagerTypes : Bool := true
  /-- Whether an overload accepts refinements of the types it declares. -/
  subtypeOverloads : Bool := true
  /-- Whether a name that is not found is answered with the closest registered name. -/
  suggestNames : Bool := true
deriving DecidableEq

namespace Settings

/-- The settings with one of them set as an entry of a document says; `none` for an unknown key or a
value of the wrong type. -/
def set? (settings : Settings) : String × Value → Option Settings
  | ("default_execute_context", .text content) => some { settings with defaultContext := content }
  | ("eager_type_resolution", .flag on) => some { settings with eagerTypes := on }
  | ("subtype_overloads", .flag on) => some { settings with subtypeOverloads := on }
  | ("suggest_names", .flag on) => some { settings with suggestNames := on }
  | _ => none

/-- The settings that a document asks for. -/
def ofDocument? (document : Document) : Option Settings :=
  document.foldlM set? {}

/-- The settings that a text asks for, if it is a settings document. -/
def read? (text : String) : Option Settings :=
  (Document.read? text).bind ofDocument?

end Settings

end Callsite
