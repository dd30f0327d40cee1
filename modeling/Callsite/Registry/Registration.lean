import Callsite.Registry.Draft

/-!
# Registrations as values

What can be asked of a draft, and what it answers, as values, so that the history of a draft is a
list. A refused registration is part of the history too.
-/

namespace Callsite

variable {β : Type}

/-- A registration asked of a draft. -/
inductive Registration (β : Type) where
  | function (owner : Owner) (declaration : Declaration β)
  | struct (declaration : StructDeclaration)
  | factory (factory : Factory β)
  | template (name : String)
  | member (template : TemplateId) (owner : Owner) (declaration : Declaration β)

/-- The key of what was registered. -/
inductive Registered where
  | function (index : FunctionIndex)
  | struct (id : StructId)
  | factory (id : FactoryId)
  | template (id : TemplateId)
deriving DecidableEq

namespace Draft

/-- What a draft answers to a registration. -/
def apply (types : TypeService) (draft : Draft β) :
    Registration β → Answer (Draft β) RegistrationError Registered
  | .function owner declaration => (draft.register owner declaration).map .function
  | .struct declaration => (draft.registerStruct types declaration).map .struct
  | .factory factory => (draft.registerFactory types factory).map .factory
  | .template name => let (id, draft) := draft.template name; .ok (.template id) draft
  | .member id owner declaration =>
    (draft.registerMember types id owner declaration).map .function

/-- The draft after a history of registrations, refused ones included. -/
def applyAll (types : TypeService) (draft : Draft β) (registrations : List (Registration β)) :
    Draft β :=
  registrations.foldl (fun draft registration => (draft.apply types registration).state) draft

end Draft

end Callsite
