import Callsite.Registry.Tables
import Callsite.Text.Record

/-!
# Inspecting a registry

The one-line texts in which a registry and its entries are shown to a developer. Where an entry
keeps something back, its text says so by two dots at the end.
-/

namespace Callsite

open Text

variable {β : Type}

/-- The owner of a function, in one line. -/
def Owner.inspect : Owner → String
  | .nobody => "None"
  | .struct id => tagged "Struct" id.display
  | .factory id => tagged "Factory" id.display

/-- An argument, in one line. -/
def Argument.inspect (argument : Argument) : String :=
  record "Argument" [
    field "name" (quoted argument.name),
    field "type_text" (quoted argument.typeText),
    field "direction" argument.direction.inspect]

/-- A registered function, in one line. -/
def Callee.inspect (callee : Callee β) : String :=
  openRecord "FunctionDescriptor" [
    field "name" (quoted callee.name),
    field "index" callee.index.display,
    field "owner" callee.owner.inspect,
    field "template" (optional (callee.template.map (·.display))),
    field "arguments" (bracketed (callee.arguments.map Argument.inspect))]

/-- A reference to a registered function, in one line. -/
def Callee.inspectReference (callee : Callee β) : String :=
  record "FunctionRef" [
    field "index" callee.index.display,
    field "name" (quoted callee.name)]

/-- A template, in one line. -/
def Template.inspect (template : Template) : String :=
  openRecord "TemplateGroup" [
    field "id" template.id.display,
    field "name" (quoted template.name),
    field "members" (bracketed (template.members.map (·.display)))]

/-- A dispatch factory, in one line. -/
def FactoryEntry.inspect (entry : FactoryEntry β) : String :=
  openRecord "FactoryEntry" [
    field "id" entry.id.display,
    field "name" (quoted entry.factory.name),
    field "context_type" (optional (entry.context.map (·.inspect)))]

/-- What was declared of a struct, in one line. -/
def StructDeclaration.inspect (declaration : StructDeclaration) : String :=
  record "StructInfo" [
    field "name" (quoted declaration.name),
    field "module" (quoted declaration.moduleName),
    field "execute_context" (optional (declaration.contextText.map quoted)),
    field "header_path" (optional (declaration.header.map quoted))]

/-- A struct, in one line. -/
def StructEntry.inspect (entry : StructEntry) : String :=
  record "StructEntry" [
    field "id" entry.id.display,
    field "info" entry.declaration.inspect,
    field "context_type" (optional (entry.context.map (·.inspect)))]

/-- A registry, in one line: the sizes of its tables. -/
def Registry.inspect (registry : Registry β) : String :=
  openRecord "FunctionRegistry" [
    field "functions" (toString registry.functions.length),
    field "templates" (toString registry.templates.length),
    field "factories" (toString registry.factories.length),
    field "structs" (toString registry.structs.length)]

end Callsite
