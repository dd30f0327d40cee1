import Callsite.Registry.Resolution

/-!
# Drafting a registry

A registry is drafted by registering functions, structs, dispatch factories and overloads of
templates, and is then frozen. A registration is checked before anything is entered, so that a
refused one leaves the tables as they were; only what was learnt about argument types on the way is
kept. The checks come in a fixed order, and the first that fails names the error.
-/

namespace Callsite

variable {β : Type}

/-! ## Checking and entering -/

namespace Registry

/-- Why an owner cannot be named: it is not registered. -/
def ownerError? (registry : Registry β) : Owner → Option RegistrationError
  | .nobody => none
  | .struct id => if (registry.struct? id).isNone then some (.unknownStruct id) else none
  | .factory id => if (registry.factory? id).isNone then some (.unknownFactory id) else none

/-- The entry that a declaration makes, if it has a name and code, its name is free, and only its
last argument is variadic. -/
def accept (registry : Registry β) (declaration : Declaration β) (owner : Owner)
    (template : Option TemplateId) : Except RegistrationError (Callee β) :=
  match declaration.invocable with
  | none => .error (.invalidDeclaration declaration.name false)
  | some invocable =>
    if declaration.name = "" then .error (.invalidDeclaration declaration.name true)
    else
      match registry.named? declaration.name with
      | some existing => .error (.duplicateName declaration.name existing)
      | none =>
        match misplacedVariadic? declaration.arguments with
        | some argument => .error (.misplacedVariadic declaration.name argument.name)
        | none =>
          .ok ⟨⟨registry.size⟩, declaration.name, invocable, owner, template, declaration.arguments⟩

/-- Whether arguments do not have the shape of the first overload of a template, if there is one. -/
def rejectsShape (registry : Registry β) (template : Template) (arguments : List Argument) : Bool :=
  (template.members.head?.bind registry.function?).any fun first =>
    !sameShape first.arguments arguments

/-- The tables with one more function, which also joins the overloads of its template. -/
def enter (registry : Registry β) (callee : Callee β) : Registry β :=
  { registry with
    functions := registry.functions ++ [callee]
    names := registry.names ++ [(callee.name, callee.index)]
    templates :=
      match callee.template with
      | none => registry.templates
      | some id => registry.templates.modify id.number (·.add callee.index callee.arguments) }

end Registry

/-! ## Drafts -/

/-- A registry that is still open to registrations, with what it has learnt. -/
structure Draft (β : Type) where
  registry : Registry β
  memory : Memory β

namespace Draft

/-- Starts a draft. The default context type is the first text that is resolved. -/
def start (types : TypeService) (settings : Settings) : Except RegistrationError (Draft β) :=
  match types.resolve 0 settings.defaultContext with
  | some context => .ok ⟨.empty settings context, .fresh 1⟩
  | none => .error (.unknownContextType "registry config" settings.defaultContext)

/-- An answer about memory as one about a draft, whose tables stay as they are. -/
def learning {ε ε' α : Type} (draft : Draft β) (f : ε → ε') (answer : Answer (Memory β) ε α) :
    Answer (Draft β) ε' α :=
  ⟨answer.result.mapError f, { draft with memory := answer.state }⟩

/-- Resolves the context type that an owner declares, if it declares one. -/
def resolveContext (types : TypeService) (owner : String) (text : Option String)
    (draft : Draft β) : Answer (Draft β) RegistrationError (Option TypeId) :=
  match text with
  | none => .ok none draft
  | some text =>
    let earlier := draft.memory.resolutions
    let draft := { draft with memory := draft.memory.countTo (earlier + 1) }
    match types.resolve earlier text with
    | some context => .ok (some context) draft
    | none => .fail (.unknownContextType owner text) draft

/-! ### Functions -/

/-- Enters a function whose owner and template are known. -/
def enter (declaration : Declaration β) (owner : Owner) (template : Option TemplateId)
    (draft : Draft β) : Answer (Draft β) RegistrationError FunctionIndex :=
  match draft.registry.accept declaration owner template with
  | .error error => .fail error draft
  | .ok callee => .ok callee.index { draft with registry := draft.registry.enter callee }

/-- Registers a function of an owner. -/
def register (owner : Owner) (declaration : Declaration β) (draft : Draft β) :
    Answer (Draft β) RegistrationError FunctionIndex :=
  match draft.registry.ownerError? owner with
  | some error => .fail error draft
  | none => draft.enter declaration owner none

/-! ### Structs and factories -/

/-- Registers a struct. -/
def registerStruct (types : TypeService) (declaration : StructDeclaration) (draft : Draft β) :
    Answer (Draft β) RegistrationError StructId :=
  (draft.resolveContext types declaration.name declaration.contextText).andThen fun context draft =>
    let id : StructId := ⟨draft.registry.structs.length⟩
    .ok id { draft with
      registry := { draft.registry with
        structs := draft.registry.structs ++ [⟨id, declaration, context⟩] } }

/-- Registers a dispatch factory. -/
def registerFactory (types : TypeService) (factory : Factory β) (draft : Draft β) :
    Answer (Draft β) RegistrationError FactoryId :=
  (draft.resolveContext types factory.name factory.contextText).andThen fun context draft =>
    let id : FactoryId := ⟨draft.registry.factories.length⟩
    .ok id { draft with
      registry := { draft.registry with
        factories := draft.registry.factories ++ [⟨id, factory, context⟩] } }

/-! ### Templates -/

/-- The key of the template with a name, which is made if there is none. -/
def template (name : String) (draft : Draft β) : TemplateId × Draft β :=
  match draft.registry.templateNames.lookup name with
  | some id => (id, draft)
  | none =>
    let id : TemplateId := ⟨draft.registry.templates.length⟩
    (id, { draft with
      registry := { draft.registry with
        templates := draft.registry.templates ++ [.empty id name]
        templateNames := draft.registry.templateNames ++ [(name, id)] } })

/-- The first of some functions whose argument types are `signature`. -/
def twin (types : TypeService) (signature : List TypeId) :
    List (Callee β) → Memory β → Answer (Memory β) UnknownType (Option (Callee β))
  | [], memory => .ok none memory
  | callee :: rest, memory =>
    (callee.argumentTypes types memory).andThen fun declared memory =>
      if declared = signature then .ok (some callee) memory
      else twin types signature rest memory

/-- Registers an overload of a template. It must have the shape of the first overload, and argument
types that no other overload has. -/
def registerMember (types : TypeService) (id : TemplateId) (owner : Owner)
    (declaration : Declaration β) (draft : Draft β) :
    Answer (Draft β) RegistrationError FunctionIndex :=
  match draft.registry.ownerError? owner with
  | some error => .fail error draft
  | none =>
    match draft.registry.template? id with
    | none => .fail (.unknownTemplate id) draft
    | some template =>
      if draft.registry.rejectsShape template declaration.arguments then
        .fail (.shapeMismatch template.name declaration.name (template.shapeText?.getD "")) draft
      else
        (draft.learning .unknownType
          (draft.memory.resolveArguments types declaration.name declaration.arguments)).andThen
          fun signature draft =>
            (draft.learning .unknownType
              (twin types signature (draft.registry.membersOf template) draft.memory)).andThen
              fun
              | some existing, draft =>
                .fail (.duplicateSignature template.name (types.describe signature) existing.name)
                  draft
              | none, draft => draft.enter declaration owner (some id)

/-! ### Freezing -/

/-- Resolves the argument types of functions, in order up to the first failure. -/
def resolveAll (types : TypeService) :
    List (Callee β) → Memory β → Answer (Memory β) UnknownType Unit
  | [], memory => .ok () memory
  | callee :: rest, memory =>
    (callee.argumentTypes types memory).andThen fun _ memory => resolveAll types rest memory

/-- Closes the draft. If the settings ask for it, all argument types are resolved first, and one
that is unknown is an error. -/
def freeze (types : TypeService) (draft : Draft β) :
    Answer (Memory β) RegistrationError (Registry β) :=
  if draft.registry.settings.eagerTypes then
    ((resolveAll types draft.registry.functions draft.memory).mapError .unknownType).map
      fun () => draft.registry
  else .ok draft.registry draft.memory

end Draft

end Callsite
