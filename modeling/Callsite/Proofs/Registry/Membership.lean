import Callsite.Proofs.Overload.Unambiguous
import Callsite.Proofs.Registry.Acceptance

/-!
# Which overloads a template accepts

An overload is checked in stages. It must name an owner and a template that exist and have the
template's shape (`Registry.Joins`), its types must be known and differ from those of each member
(`Registry.Differs`), and it must have a name of its own, code, and no variadic argument before the
last (`Registry.CanEnter`). It is accepted exactly if it passes all of this; otherwise the error
tells the first check that failed (`Registry.RefusesMember`), and within a check that goes through
arguments or members the first of them to blame (`IsFirst`).

With a stable service what the draft has learnt makes no difference to this
(`Draft.result_registerMember`).
-/

namespace Callsite

variable {β : Type}

/-! ## The first of several -/

/-- Whether an element is the first of a list that has a property. -/
def IsFirst {α : Type} (p : α → Prop) (list : List α) (a : α) : Prop :=
  p a ∧ ∃ before after, list = before ++ a :: after ∧ ∀ other ∈ before, ¬ p other

/-- What a search finds is the first element with the property that is searched for. -/
theorem find?_eq_some_iff_isFirst {α : Type} {test : α → Bool} {p : α → Prop} {list : List α}
    {a : α} (htest : ∀ a, test a = true ↔ p a) : list.find? test = some a ↔ IsFirst p list a := by
  simp only [List.find?_eq_some_iff_append, IsFirst, ← htest, Bool.not_eq_true',
    Bool.not_eq_true]

/-! ## The checks -/

/-- Whether the texts of arguments name given types, one for each argument. -/
def TypeService.NamesEach (types : TypeService) (arguments : List Argument) (ids : List TypeId) :
    Prop :=
  List.Forall₂ (fun argument id => types.Names argument.elementType id) arguments ids

/-- Whether the text of an argument names no type. -/
def TypeService.NamesNone (types : TypeService) (argument : Argument) : Prop :=
  ∀ id, ¬ types.Names argument.elementType id

namespace Registry

/-- Whether an overload has an owner that exists and is for a template that exists, with all members
of its shape. -/
structure Joins (registry : Registry β) (id : TemplateId) (owner : Owner)
    (arguments : List Argument) (template : Template) : Prop where
  owner_known : registry.HasOwner owner
  template_known : registry.template? id = some template
  shape_eq : ∀ member ∈ registry.membersOf template, shapeOf member.arguments = shapeOf arguments

/-- Whether arguments have types that are those of no member. -/
structure Differs (registry : Registry β) (types : TypeService) (template : Template)
    (arguments : List Argument) (signature : List TypeId) : Prop where
  typed : types.NamesEach arguments signature
  distinct : ∀ member ∈ registry.membersOf template, ¬ types.NamesEach member.arguments signature

/-- Whether a declaration has a name that is free and code, and only its last argument is
variadic. -/
structure CanEnter (registry : Registry β) (declaration : Declaration β) : Prop where
  name_ne : declaration.name ≠ ""
  name_free : ¬ registry.HasName declaration.name
  invocable_given : declaration.invocable.isSome = true
  variadic_last : ∀ argument ∈ declaration.arguments.dropLast, argument.isVariadic = false

/-- The errors for a declaration that cannot be entered. -/
inductive RefusesEntry (registry : Registry β) (declaration : Declaration β) :
    RegistrationError → Prop
  | invalid (hinvalid : declaration.name = "" ∨ declaration.invocable = none) :
    RefusesEntry registry declaration
      (.invalidDeclaration declaration.name declaration.invocable.isSome)
  | duplicateName {index : FunctionIndex} {callee : Callee β}
    (hvalid : declaration.isValid = true) (hcallee : registry.function? index = some callee)
    (hname : callee.name = declaration.name) :
    RefusesEntry registry declaration (.duplicateName declaration.name index)
  | misplacedVariadic {argument : Argument} (hvalid : declaration.isValid = true)
    (hfree : ¬ registry.HasName declaration.name)
    (hfirst : IsFirst (·.isVariadic = true) declaration.arguments.dropLast argument) :
    RefusesEntry registry declaration (.misplacedVariadic declaration.name argument.name)

/-- The errors for an overload that a template does not accept. Each stage is about overloads that
passed the stages before. -/
inductive RefusesMember (registry : Registry β) (types : TypeService) (id : TemplateId)
    (owner : Owner) (declaration : Declaration β) : RegistrationError → Prop
  | unknownStruct {key : StructId} (howner : owner = .struct key)
    (hunknown : ¬ registry.HasOwner owner) :
    RefusesMember registry types id owner declaration (.unknownStruct key)
  | unknownFactory {key : FactoryId} (howner : owner = .factory key)
    (hunknown : ¬ registry.HasOwner owner) :
    RefusesMember registry types id owner declaration (.unknownFactory key)
  | unknownTemplate (howner : registry.HasOwner owner) (hunknown : registry.template? id = none) :
    RefusesMember registry types id owner declaration (.unknownTemplate id)
  | shapeMismatch {template : Template} {member : Callee β} (howner : registry.HasOwner owner)
    (htemplate : registry.template? id = some template)
    (hmember : member ∈ registry.membersOf template)
    (hshape : shapeOf member.arguments ≠ shapeOf declaration.arguments) :
    RefusesMember registry types id owner declaration
      (.shapeMismatch template.name declaration.name
        (shapeText template.name (shapeOf member.arguments)))
  | unknownType {template : Template} {argument : Argument}
    (hjoins : registry.Joins id owner declaration.arguments template)
    (hfirst : IsFirst types.NamesNone declaration.arguments argument) :
    RefusesMember registry types id owner declaration
      (.unknownType ⟨declaration.name, argument.name, argument.typeText⟩)
  | duplicateSignature {template : Template} {signature : List TypeId} {member : Callee β}
    (hjoins : registry.Joins id owner declaration.arguments template)
    (htyped : types.NamesEach declaration.arguments signature)
    (hfirst : IsFirst (fun member => types.NamesEach member.arguments signature)
      (registry.membersOf template) member) :
    RefusesMember registry types id owner declaration
      (.duplicateSignature template.name (types.describe signature) member.name)
  | entry {template : Template} {signature : List TypeId} {error : RegistrationError}
    (hjoins : registry.Joins id owner declaration.arguments template)
    (hdiffers : registry.Differs types template declaration.arguments signature)
    (herror : registry.RefusesEntry declaration error) :
    RefusesMember registry types id owner declaration error

/-- Whether an overload passes all checks. -/
def AcceptsMember (registry : Registry β) (types : TypeService) (id : TemplateId) (owner : Owner)
    (declaration : Declaration β) : Prop :=
  ∃ template signature, registry.Joins id owner declaration.arguments template ∧
    registry.Differs types template declaration.arguments signature ∧
      registry.CanEnter declaration

end Registry

/-! ## The last stage: entering -/

namespace Registry

variable {registry : Registry β} {declaration : Declaration β} {owner : Owner}
  {template : Option TemplateId}

/-- A declaration that can be entered makes an entry under the next key. -/
theorem accept_of_canEnter (hregistry : registry.WellFormed) (h : registry.CanEnter declaration)
    (owner : Owner) (template : Option TemplateId) :
    ∃ invocable, declaration.invocable = some invocable ∧
      registry.accept declaration owner template =
        .ok ⟨⟨registry.size⟩, declaration.name, invocable, owner, template,
          declaration.arguments⟩ := by
  obtain ⟨invocable, hinvocable⟩ := Option.isSome_iff_exists.1 h.invocable_given
  have hvariadic : misplacedVariadic? declaration.arguments = none := by
    rw [misplacedVariadic?_eq, List.find?_eq_none]
    simpa using h.variadic_last
  refine ⟨invocable, hinvocable, ?_⟩
  simp only [accept, hinvocable, if_neg h.name_ne, hregistry.named?_eq_none_iff.2 h.name_free,
    hvariadic]

/-- A declaration that cannot be entered is refused with the error of the first check it fails. -/
theorem accept_of_refusesEntry (hregistry : registry.WellFormed) {error : RegistrationError}
    (h : registry.RefusesEntry declaration error) :
    registry.accept declaration owner template = .error error := by
  have hparts : declaration.isValid = true →
      declaration.name ≠ "" ∧ ∃ invocable, declaration.invocable = some invocable := by
    simp [Declaration.isValid, Option.isSome_iff_exists]
  cases h with
  | invalid hinvalid =>
    cases hinvocable : declaration.invocable with
    | none => simp only [accept, hinvocable, Option.isSome_none]
    | some invocable =>
      have hname := hinvalid.resolve_right (by simp [hinvocable])
      simp only [accept, hinvocable, if_pos hname, Option.isSome_some]
  | duplicateName hvalid hcallee hname =>
    obtain ⟨hne, invocable, hinvocable⟩ := hparts hvalid
    have hnamed := (hregistry.named_iff declaration.name _).2 ⟨_, hcallee, hname⟩
    simp only [accept, hinvocable, if_neg hne, hnamed]
  | misplacedVariadic hvalid hfree hfirst =>
    obtain ⟨hne, invocable, hinvocable⟩ := hparts hvalid
    have hvariadic := (find?_eq_some_iff_isFirst fun _ => Iff.rfl).2 hfirst
    rw [← misplacedVariadic?_eq] at hvariadic
    simp only [accept, hinvocable, if_neg hne, hregistry.named?_eq_none_iff.2 hfree, hvariadic]

/-- A declaration can be entered or is refused. -/
theorem canEnter_or_refusesEntry (registry : Registry β) (declaration : Declaration β) :
    registry.CanEnter declaration ∨ ∃ error, registry.RefusesEntry declaration error := by
  by_cases hinvalid : declaration.name = "" ∨ declaration.invocable = none
  · exact .inr ⟨_, .invalid hinvalid⟩
  obtain ⟨hname, hinvocable⟩ := not_or.1 hinvalid
  have hgiven : declaration.invocable.isSome = true := Option.isSome_iff_ne_none.2 hinvocable
  have hvalid : declaration.isValid = true := by
    simp [Declaration.isValid, hname, hgiven]
  by_cases hfree : registry.HasName declaration.name
  · obtain ⟨index, callee, hcallee, hsame⟩ := hfree
    exact .inr ⟨_, .duplicateName hvalid hcallee hsame⟩
  cases hvariadic : declaration.arguments.dropLast.find? (·.isVariadic) with
  | some argument =>
    have hfirst := (find?_eq_some_iff_isFirst fun _ => Iff.rfl).1 hvariadic
    exact .inr ⟨_, .misplacedVariadic hvalid hfree hfirst⟩
  | none =>
    rw [List.find?_eq_none] at hvariadic
    exact .inl ⟨hname, hfree, hgiven, by simpa using hvariadic⟩

/-- What is accepted is what was declared, under the next key. -/
theorem exists_invocable_of_accept (hregistry : registry.WellFormed) {callee : Callee β}
    (h : registry.accept declaration owner template = .ok callee) :
    ∃ invocable, declaration.invocable = some invocable ∧
      callee = ⟨⟨registry.size⟩, declaration.name, invocable, owner, template,
        declaration.arguments⟩ := by
  rcases registry.canEnter_or_refusesEntry declaration with hentry | ⟨error, herror⟩
  · obtain ⟨invocable, hinvocable, haccept⟩ :=
      accept_of_canEnter hregistry hentry owner template
    exact ⟨invocable, hinvocable, Except.ok.inj (h.symm.trans haccept)⟩
  · exact absurd (h.symm.trans (accept_of_refusesEntry hregistry herror)) (by simp)

end Registry

/-! ## The stage before: types -/

section Types

variable {types : TypeService}

/-- Arguments that cannot be resolved are told by the first one whose text names no type. -/
theorem result_resolveArguments_eq_error_iff (hstable : types.Stable) {function : String}
    {arguments : List Argument} {earlier : Nat} {failure : UnknownType} :
    (resolveArguments types function arguments earlier).result = .error failure ↔
      ∃ argument, IsFirst types.NamesNone arguments argument ∧
        failure = ⟨function, argument.name, argument.typeText⟩ := by
  have htest : ∀ argument : Argument,
      (types.resolve 0 argument.elementType).isNone = true ↔ types.NamesNone argument := by
    intro argument
    rw [Option.isNone_iff_eq_none, Option.eq_none_iff_forall_ne_some]
    rfl
  simp only [← find?_eq_some_iff_isFirst htest]
  induction arguments generalizing earlier with
  | nil => simp [resolveArguments, Answer.ok]
  | cons first rest ih =>
    rw [resolveArguments, hstable earlier 0, List.find?_cons]
    cases types.resolve 0 first.elementType with
    | none => simp [Answer.fail, eq_comm]
    | some id =>
      dsimp only
      rw [Answer.result_map_eq_error]
      exact ih

section Search

variable {signature : List TypeId} {members : List (Callee β)}

/-- A search by signature finds the first member whose texts name the types in it. -/
theorem find?_signature_eq_some_iff (hstable : types.Stable) {member : Callee β} :
    members.find? (fun member => member.signature types = .ok signature) = some member ↔
      IsFirst (fun member => types.NamesEach member.arguments signature) members member :=
  find?_eq_some_iff_isFirst fun _ =>
    decide_eq_true_iff.trans (Callee.signature_eq_ok_iff hstable)

/-- A search by signature finds nothing exactly if there is no such member. -/
theorem find?_signature_eq_none_iff (hstable : types.Stable) :
    members.find? (fun member => member.signature types = .ok signature) = none ↔
      ∀ member ∈ members, ¬ types.NamesEach member.arguments signature := by
  simp only [List.find?_eq_none, decide_eq_true_eq, Callee.signature_eq_ok_iff hstable]
  rfl

end Search

/-- Searching for a member with given types finds the first one that has them, whether its types are
known already or not. -/
theorem result_twin (hstable : types.Stable) {registry : Registry β} {memory : Memory β}
    (signature : List TypeId) {callees : List (Callee β)}
    (hregistered : ∀ callee ∈ callees, registry.Registered callee)
    (hsigned : ∀ callee ∈ callees, ∃ ids, callee.signature types = .ok ids)
    (hmemory : memory.TypesFrom registry types.Names) :
    (Draft.twin types signature callees memory).result =
      .ok (callees.find? fun callee => callee.signature types = .ok signature) := by
  induction callees generalizing memory with
  | nil => rfl
  | cons callee rest ih =>
    obtain ⟨hcallee, hrest⟩ := List.forall_mem_cons.1 hregistered
    obtain ⟨⟨declared, hdeclared⟩, hothers⟩ := List.forall_mem_cons.1 hsigned
    have hresult : (callee.argumentTypes types memory).result = .ok declared := by
      rw [Callee.result_argumentTypes hstable hcallee hmemory, hdeclared]
    have hlearnt := Registry.typesFrom_learnsTypes hstable.answersWithin
      (Callee.argumentTypes_learns hcallee) hmemory
    rw [Draft.twin, Answer.andThen_of_ok hresult, List.find?_cons, hdeclared]
    by_cases hsame : declared = signature
    · simp [hsame, Answer.ok]
    · simp only [Except.ok.injEq, hsame, decide_false]
      exact ih hrest hothers hlearnt

end Types

/-! ## All stages -/

namespace Registry

variable {registry : Registry β} {owner : Owner}

/-- A struct that does not exist is told. -/
theorem ownerError?_struct {key : StructId} (howner : owner = .struct key)
    (h : ¬ registry.HasOwner owner) : registry.ownerError? owner = some (.unknownStruct key) := by
  subst howner
  have hnone : registry.struct? key = none := by simpa [HasOwner, struct?] using h
  rw [ownerError?, hnone]
  rfl

/-- A factory that does not exist is told. -/
theorem ownerError?_factory {key : FactoryId} (howner : owner = .factory key)
    (h : ¬ registry.HasOwner owner) : registry.ownerError? owner = some (.unknownFactory key) := by
  subst howner
  have hnone : registry.factory? key = none := by simpa [HasOwner, factory?] using h
  rw [ownerError?, hnone]
  rfl

end Registry

namespace Draft

variable {types : TypeService} {draft : Draft β} {id : TemplateId} {owner : Owner}
  {declaration : Declaration β} {template : Template}

/-- Whether the tables of a draft agree with each other, its members have signatures, and it knows
no argument types but these. -/
structure Settled (types : TypeService) (draft : Draft β) : Prop where
  wellFormed : draft.registry.WellFormed
  distinct : draft.registry.DistinctSignatures types
  typesFrom : draft.memory.TypesFrom draft.registry types.Names

/-- A draft is settled after every history of registrations. -/
theorem settled_applyAll (hstable : types.Stable) {settings : Settings}
    (hstart : start types settings = .ok draft) (registrations : List (Registration β)) :
    (draft.applyAll types registrations).Settled types :=
  ⟨wellFormed_applyAll hstart registrations, distinctSignatures_applyAll hstable hstart _,
    typesFrom_applyAll hstable.answersWithin hstart _⟩

/-- An overload is rejected for its shape exactly if some member has another shape. -/
theorem rejectsShape_eq_true_iff (hregistry : draft.registry.WellFormed)
    (htemplate : draft.registry.template? id = some template) {arguments : List Argument} :
    draft.registry.rejectsShape template arguments = true ↔
      ∃ member ∈ draft.registry.membersOf template,
        shapeOf member.arguments ≠ shapeOf arguments := by
  constructor
  · -- only the first member is compared
    rw [Registry.rejectsShape, Option.any_eq_true]
    rintro ⟨first, hfirst, hother⟩
    obtain ⟨index, hindex, hfound⟩ := Option.bind_eq_some_iff.1 hfirst
    refine ⟨first, List.mem_filterMap.2 ⟨index, List.mem_of_head? hindex, hfound⟩, ?_⟩
    rw [ne_eq, ← sameShape_iff]
    simpa using hother
  · rintro ⟨member, hmember, hshape⟩
    by_contra hfits
    obtain ⟨hlisted, hregistered⟩ := hregistry.mem_membersOf.1 hmember
    exact hshape (hregistry.shapeOf_eq htemplate (by simpa using hfits) _ hlisted _ hregistered)

/-- After something was learnt, a draft goes on with its tables as they were. -/
theorem learning_andThen_of_ok {ε ε' α γ : Type} {f : ε → ε'} {answer : Answer (Memory β) ε α}
    {value : α} (h : answer.result = .ok value) (next : α → Draft β → Answer (Draft β) ε' γ) :
    (draft.learning f answer).andThen next = next value { draft with memory := answer.state } :=
  Answer.andThen_of_ok (congrArg (·.mapError f) h) next

/-- A failure to learn something is the result of all that was to follow. -/
theorem result_learning_andThen_of_error {ε ε' α γ : Type} {f : ε → ε'}
    {answer : Answer (Memory β) ε α} {error : ε} (h : answer.result = .error error)
    (next : α → Draft β → Answer (Draft β) ε' γ) :
    ((draft.learning f answer).andThen next).result = .error (f error) :=
  congrArg Answer.result (Answer.andThen_of_error (congrArg (·.mapError f) h) next)

/-- A function is entered with the key that it is accepted under. -/
theorem result_enter (draft : Draft β) (declaration : Declaration β) (owner : Owner)
    (template : Option TemplateId) :
    (draft.enter declaration owner template).result =
      (draft.registry.accept declaration owner template).map (·.index) := by
  rw [enter]
  cases draft.registry.accept declaration owner template <;> rfl

/-- An overload that joins a template is accepted or refused by its types and by what it declares,
whatever the draft has learnt. -/
theorem result_registerMember (hstable : types.Stable) (h : draft.Settled types)
    (hjoins : draft.registry.Joins id owner declaration.arguments template) :
    (draft.registerMember types id owner declaration).result =
      match (resolveArguments types declaration.name declaration.arguments 0).result with
      | .error failure => .error (.unknownType failure)
      | .ok signature =>
        match (draft.registry.membersOf template).find? fun member =>
          member.signature types = .ok signature with
        | some existing =>
          .error (.duplicateSignature template.name (types.describe signature) existing.name)
        | none => (draft.registry.accept declaration owner (some id)).map (·.index) := by
  have hfits : ¬ draft.registry.rejectsShape template declaration.arguments = true := by
    rw [rejectsShape_eq_true_iff h.wellFormed hjoins.template_known]
    rintro ⟨member, hmember, hshape⟩
    exact hshape (hjoins.shape_eq member hmember)
  let resolved := draft.memory.resolveArguments types declaration.name declaration.arguments
  have hresolved : resolved.result =
      (resolveArguments types declaration.name declaration.arguments 0).result :=
    result_resolveArguments hstable _ _ _ _
  have hcounted : resolved.state.TypesFrom draft.registry types.Names := h.typesFrom
  rw [registerMember, Registry.ownerError?_eq_none_iff.2 hjoins.owner_known, hjoins.template_known]
  dsimp only
  rw [if_neg hfits, ← hresolved]
  cases hsignature : resolved.result with
  | error failure => exact result_learning_andThen_of_error hsignature _
  | ok signature =>
    have htwin := result_twin hstable signature
      (h.wellFormed.registered_of_mem_membersOf template)
      (h.distinct.exists_signature id template hjoins.template_known) hcounted
    rw [learning_andThen_of_ok hsignature, learning_andThen_of_ok htwin]
    dsimp only
    split
    · rename_i existing hfound
      rw [hfound]
      rfl
    · rename_i hfound
      rw [hfound]
      exact result_enter _ _ _ _

/-- An overload with types that no member has is accepted or refused by what it declares. -/
theorem result_registerMember_of_differs (hstable : types.Stable) (h : draft.Settled types)
    (hjoins : draft.registry.Joins id owner declaration.arguments template)
    {signature : List TypeId}
    (hdiffers : draft.registry.Differs types template declaration.arguments signature) :
    (draft.registerMember types id owner declaration).result =
      (draft.registry.accept declaration owner (some id)).map (·.index) := by
  have hsignature : (resolveArguments types declaration.name declaration.arguments 0).result =
      .ok signature := (result_resolveArguments_eq_ok_iff hstable).2 hdiffers.typed
  rw [result_registerMember hstable h hjoins, hsignature]
  dsimp only
  rw [(find?_signature_eq_none_iff hstable).2 hdiffers.distinct]

/-- An overload that passes all checks is registered under the next key. -/
theorem registerMember_of_accepts (hstable : types.Stable) (h : draft.Settled types)
    (haccepts : draft.registry.AcceptsMember types id owner declaration) :
    (draft.registerMember types id owner declaration).result = .ok ⟨draft.registry.size⟩ := by
  obtain ⟨template, signature, hjoins, hdiffers, hentry⟩ := haccepts
  obtain ⟨invocable, _, haccept⟩ := Registry.accept_of_canEnter h.wellFormed hentry owner (some id)
  rw [result_registerMember_of_differs hstable h hjoins hdiffers, haccept]
  rfl

/-- An overload that fails a check is refused with the error of the first one. -/
theorem registerMember_of_refuses (hstable : types.Stable) (h : draft.Settled types)
    {error : RegistrationError}
    (hrefuses : draft.registry.RefusesMember types id owner declaration error) :
    (draft.registerMember types id owner declaration).result = .error error := by
  cases hrefuses with
  | unknownStruct howner hunknown =>
    rw [registerMember, Registry.ownerError?_struct howner hunknown]
    rfl
  | unknownFactory howner hunknown =>
    rw [registerMember, Registry.ownerError?_factory howner hunknown]
    rfl
  | unknownTemplate howner hunknown =>
    rw [registerMember, Registry.ownerError?_eq_none_iff.2 howner, hunknown]
    rfl
  | shapeMismatch howner htemplate hmember hshape =>
    have hrejects := (rejectsShape_eq_true_iff h.wellFormed htemplate).2 ⟨_, hmember, hshape⟩
    rw [registerMember, Registry.ownerError?_eq_none_iff.2 howner, htemplate]
    dsimp only
    rw [if_pos hrejects, h.wellFormed.shapeText?_eq htemplate hmember]
    rfl
  | unknownType hjoins hfirst =>
    have hfailed : (resolveArguments types declaration.name declaration.arguments 0).result =
        .error _ := (result_resolveArguments_eq_error_iff hstable).2 ⟨_, hfirst, rfl⟩
    rw [result_registerMember hstable h hjoins, hfailed]
  | duplicateSignature hjoins htyped hfirst =>
    have hsignature : (resolveArguments types declaration.name declaration.arguments 0).result =
        .ok _ := (result_resolveArguments_eq_ok_iff hstable).2 htyped
    rw [result_registerMember hstable h hjoins, hsignature]
    dsimp only
    rw [(find?_signature_eq_some_iff hstable).2 hfirst]
  | entry hjoins hdiffers herror =>
    rw [result_registerMember_of_differs hstable h hjoins hdiffers,
      Registry.accept_of_refusesEntry h.wellFormed herror]
    rfl

end Draft

/-- An overload passes all checks or there is one that it fails first. -/
theorem Registry.accepts_or_refuses {types : TypeService} (registry : Registry β)
    (hstable : types.Stable) (id : TemplateId) (owner : Owner)
    (declaration : Declaration β) :
    registry.AcceptsMember types id owner declaration ∨
      ∃ error, registry.RefusesMember types id owner declaration error := by
  by_cases howner : registry.HasOwner owner
  case neg =>
    cases owner with
    | nobody => exact absurd trivial howner
    | struct key => exact .inr ⟨_, .unknownStruct rfl howner⟩
    | factory key => exact .inr ⟨_, .unknownFactory rfl howner⟩
  cases htemplate : registry.template? id with
  | none => exact .inr ⟨_, .unknownTemplate howner htemplate⟩
  | some template =>
    by_cases hshape : ∃ member ∈ registry.membersOf template,
        shapeOf member.arguments ≠ shapeOf declaration.arguments
    case pos =>
      obtain ⟨member, hmember, hother⟩ := hshape
      exact .inr ⟨_, .shapeMismatch howner htemplate hmember hother⟩
    have hjoins : registry.Joins id owner declaration.arguments template :=
      ⟨howner, htemplate, by simpa using hshape⟩
    cases hresolve : (resolveArguments types declaration.name declaration.arguments 0).result with
    | error failure =>
      obtain ⟨argument, hfirst, rfl⟩ := (result_resolveArguments_eq_error_iff hstable).1 hresolve
      exact .inr ⟨_, .unknownType hjoins hfirst⟩
    | ok signature =>
      have htyped := (result_resolveArguments_eq_ok_iff hstable).1 hresolve
      cases hfind : (registry.membersOf template).find? fun member =>
          member.signature types = .ok signature with
      | some member =>
        have hfirst := (find?_signature_eq_some_iff hstable).1 hfind
        exact .inr ⟨_, .duplicateSignature hjoins htyped hfirst⟩
      | none =>
        have hdiffers : registry.Differs types template declaration.arguments signature :=
          ⟨htyped, (find?_signature_eq_none_iff hstable).1 hfind⟩
        rcases registry.canEnter_or_refusesEntry declaration with hentry | ⟨error, herror⟩
        · exact .inl ⟨template, signature, hjoins, hdiffers, hentry⟩
        · exact .inr ⟨error, .entry hjoins hdiffers herror⟩

/-- What an overload that is registered leaves behind: the last function, which is the last member
of its template. -/
theorem Draft.exists_of_registerMember_ok {types : TypeService} {draft : Draft β} {id : TemplateId}
    {owner : Owner} {declaration : Declaration β} {index : FunctionIndex}
    (hregistry : draft.registry.WellFormed)
    (h : (draft.registerMember types id owner declaration).result = .ok index) :
    ∃ template invocable, draft.registry.template? id = some template ∧
      declaration.invocable = some invocable ∧
      (draft.registerMember types id owner declaration).state.registry.size =
        draft.registry.size + 1 ∧
      (draft.registerMember types id owner declaration).state.registry.function? index =
        some ⟨index, declaration.name, invocable, owner, some id, declaration.arguments⟩ ∧
      (draft.registerMember types id owner declaration).state.registry.template? id =
        some (template.add index declaration.arguments) := by
  have henters := registerMember_enters h
  generalize (draft.registerMember types id owner declaration).state.registry = later at henters ⊢
  cases henters with
  | member howner htemplate hshape haccept =>
    rename_i template callee
    obtain ⟨invocable, hinvocable, hcallee⟩ := Registry.exists_invocable_of_accept hregistry haccept
    refine ⟨template, invocable, htemplate, hinvocable, ?_, ?_, ?_⟩
    · exact List.length_append
    · rw [(Registry.function?_enter_eq_some_iff (by rw [hcallee])).2 (.inr ⟨rfl, rfl⟩), hcallee]
    · rw [Registry.template?_enter, htemplate, hcallee]
      simp

/-! ## Acceptance and blame -/

/-- An overload is accepted exactly if it passes all checks, and is then the last function and the
last member of its template; it is refused exactly with the error of the first check that it fails.
This holds after every history of registrations, whatever was learnt in it. -/
theorem members_accepted_or_blamed {types : TypeService} (hstable : types.Stable)
    {settings : Settings} {start : Draft β} (hstart : Draft.start types settings = .ok start)
    (registrations : List (Registration β)) (id : TemplateId) (owner : Owner)
    (declaration : Declaration β) :
    let draft := start.applyAll types registrations
    let answer := draft.registerMember types id owner declaration
    (∀ index, answer.result = .ok index ↔
      index = ⟨draft.registry.size⟩ ∧
        draft.registry.AcceptsMember types id owner declaration) ∧
    (∀ error, answer.result = .error error ↔
      draft.registry.RefusesMember types id owner declaration error) ∧
    ∀ index, answer.result = .ok index →
      ∃ template invocable, draft.registry.template? id = some template ∧
        declaration.invocable = some invocable ∧
        answer.state.registry.size = draft.registry.size + 1 ∧
        answer.state.registry.function? index =
          some ⟨index, declaration.name, invocable, owner, some id, declaration.arguments⟩ ∧
        ∃ later, answer.state.registry.template? id = some later ∧
          later.members = template.members ++ [index] := by
  intro draft answer
  have h : draft.Settled types := Draft.settled_applyAll hstable hstart registrations
  have haccepts : draft.registry.AcceptsMember types id owner declaration →
      answer.result = .ok ⟨draft.registry.size⟩ := Draft.registerMember_of_accepts hstable h
  have hrefuses : ∀ error, draft.registry.RefusesMember types id owner declaration error →
      answer.result = .error error := fun _ => Draft.registerMember_of_refuses hstable h
  have hcases := draft.registry.accepts_or_refuses hstable id owner declaration
  refine ⟨fun index => ⟨fun hok => ?accepted, fun h => h.1 ▸ haccepts h.2⟩,
    fun error => ⟨fun herror => ?refused, hrefuses error⟩, fun index hok => ?entered⟩
  case accepted =>
    rcases hcases with hmember | ⟨error, herror⟩
    · exact ⟨Except.ok.inj (hok.symm.trans (haccepts hmember)), hmember⟩
    · exact absurd (hok.symm.trans (hrefuses error herror)) (by simp)
  case refused =>
    rcases hcases with hmember | ⟨other, hother⟩
    · exact absurd (herror.symm.trans (haccepts hmember)) (by simp)
    · rw [Except.error.inj (herror.symm.trans (hrefuses other hother))]
      exact hother
  case entered =>
    obtain ⟨template, invocable, htemplate, hinvocable, hsize, hfunction, hlater⟩ :=
      Draft.exists_of_registerMember_ok h.wellFormed hok
    exact ⟨template, invocable, htemplate, hinvocable, hsize, hfunction, _, hlater, rfl⟩

namespace Sample

/-- An overload of the sample template for floats. -/
def addFloats : Declaration String :=
  ⟨"AddFloats", some (.function "add"), [⟨"a", "Float", .input⟩, ⟨"rest", "Float *", .input⟩]⟩

/-- An overload with three faults: the types and the name of another one, and no code. -/
def addAgain : Declaration String :=
  ⟨"AddInt", none, [⟨"a", "Integer", .input⟩, ⟨"rest", "Int*", .input⟩]⟩

end Sample

/-- After the first registrations of the sample history an overload for floats is accepted. The one
with three faults is refused for its types, which are checked first. -/
theorem members_accepted_or_blamed_for_floats :
    Sample.types.Stable ∧ Draft.start Sample.types {} = .ok Sample.start ∧
      Sample.compared.registry.AcceptsMember Sample.types ⟨0⟩ .nobody Sample.addFloats ∧
      Sample.compared.registry.RefusesMember Sample.types ⟨0⟩ .nobody Sample.addAgain
        (.duplicateSignature "Add" "[Int, Int]" "AddInt") := by
  have hstable : Sample.types.Stable := Catalog.service_stable _
  have hfloats := members_accepted_or_blamed hstable Sample.start_eq (Sample.history.take 4) ⟨0⟩
    .nobody Sample.addFloats
  have hagain := members_accepted_or_blamed hstable Sample.start_eq (Sample.history.take 4) ⟨0⟩
    .nobody Sample.addAgain
  refine ⟨hstable, Sample.start_eq, ((hfloats.1 ⟨1⟩).1 ?_).2, (hagain.2.1 _).1 ?_⟩
  · decide +kernel
  · decide +kernel

end Callsite
