import Callsite.Proofs.Registry.Growth

/-!
# Well-formed tables

`Registry.WellFormed` says that the tables of a registry agree with each other: keys are places,
names and keys determine each other, every owner and every template that a function names exists,
and a template lists exactly the functions that name it, in the order of registration and all of its
shape. The steps of `Registry.Grows` keep this.

A new member is compared with the first one only, and the text of the shape is that of the first
one. That any two members have one shape, and that the text is that of each of them, is therefore
part of the invariant.
-/

namespace Callsite

variable {β : Type}

/-- Whether an owner is nobody or stands in its table. -/
def Registry.HasOwner (registry : Registry β) : Owner → Prop
  | .nobody => True
  | .struct id => id.number < registry.structs.length
  | .factory id => id.number < registry.factories.length

/-- Whether some function has a name. -/
def Registry.HasName (registry : Registry β) (name : String) : Prop :=
  ∃ index callee, registry.function? index = some callee ∧ callee.name = name

/-- Whether the tables of functions and of their names agree: a key is a place, every function has
a name of its own, and only the last argument of a function is variadic. -/
structure Registry.FunctionsWellFormed (registry : Registry β) : Prop where
  function_index : ∀ {index callee}, registry.function? index = some callee → callee.index = index
  name_ne : ∀ {index callee}, registry.function? index = some callee → callee.name ≠ ""
  named_iff : ∀ name index, registry.named? name = some index ↔
    ∃ callee, registry.function? index = some callee ∧ callee.name = name
  variadic_last : ∀ {index callee}, registry.function? index = some callee →
    ∀ {i : Nat} {argument}, callee.arguments[i]? = some argument → argument.isVariadic = true →
      i + 1 = callee.arguments.length

/-- Whether every function has an owner that exists, and owners are kept at their keys. -/
structure Registry.OwnersWellFormed (registry : Registry β) : Prop where
  owner_known : ∀ {index callee}, registry.function? index = some callee →
    registry.HasOwner callee.owner
  struct_id : ∀ {id entry}, registry.struct? id = some entry → entry.id = id
  factory_id : ∀ {id entry}, registry.factory? id = some entry → entry.id = id

/-- Whether the table of templates agrees with those of their names and of functions: a template has
one key and one name, it lists the functions that name it in the order of registration, any two of
them have one shape, and its text shows the shape of each, once there is one. -/
structure Registry.TemplatesWellFormed (registry : Registry β) : Prop where
  template_id : ∀ {id template}, registry.template? id = some template → template.id = id
  template_named_iff : ∀ name id, registry.templateNames.lookup name = some id ↔
    ∃ template, registry.template? id = some template ∧ template.name = name
  template_known : ∀ {index callee id}, registry.function? index = some callee →
    callee.template = some id → ∃ template, registry.template? id = some template
  mem_members_iff : ∀ {id template}, registry.template? id = some template → ∀ index,
    index ∈ template.members ↔
      ∃ callee, registry.function? index = some callee ∧ callee.template = some id
  members_increasing : ∀ {id template}, registry.template? id = some template →
    template.members.Pairwise fun first second => first.number < second.number
  same_shape : ∀ {id template}, registry.template? id = some template →
    ∀ i ∈ template.members, ∀ j ∈ template.members, ∀ f g,
      registry.function? i = some f → registry.function? j = some g →
        shapeOf f.arguments = shapeOf g.arguments
  shapeText?_eq_none_iff : ∀ {id template}, registry.template? id = some template →
    (template.shapeText? = none ↔ template.members = [])
  shapeText?_of_member : ∀ {id template}, registry.template? id = some template →
    ∀ index ∈ template.members, ∀ callee, registry.function? index = some callee →
      template.shapeText? = some (shapeText template.name (shapeOf callee.arguments))

/-- Whether the tables of a registry agree with each other. -/
structure Registry.WellFormed (registry : Registry β) : Prop extends
  registry.FunctionsWellFormed, registry.OwnersWellFormed, registry.TemplatesWellFormed

/-! ## Checks that pass -/

/-- An owner passes the check exactly if it is nobody or stands in its table. -/
theorem Registry.ownerError?_eq_none_iff {registry : Registry β} {owner : Owner} :
    registry.ownerError? owner = none ↔ registry.HasOwner owner := by
  cases owner with
  | nobody => simp [Registry.ownerError?, Registry.HasOwner]
  | struct id => simp [Registry.ownerError?, Registry.HasOwner, Registry.struct?]
  | factory id => simp [Registry.ownerError?, Registry.HasOwner, Registry.factory?]

/-- The variadic argument to blame is the first one before the last argument. -/
theorem misplacedVariadic?_eq (arguments : List Argument) :
    misplacedVariadic? arguments = arguments.dropLast.find? (·.isVariadic) := by
  induction arguments with
  | nil => rfl
  | cons first rest ih =>
    cases rest with
    | nil => rfl
    | cons second rest =>
      rw [List.dropLast_cons_cons, List.find?_cons, misplacedVariadic?]
      · cases first.isVariadic with
        | true => rfl
        | false => exact ih
      · exact List.cons_ne_nil second rest

/-- If no variadic argument is misplaced, a variadic argument is the last one. -/
theorem succ_eq_length_of_misplacedVariadic? {arguments : List Argument}
    (h : misplacedVariadic? arguments = none) {i : Nat} {argument : Argument}
    (hi : arguments[i]? = some argument) (hvariadic : argument.isVariadic = true) :
    i + 1 = arguments.length := by
  rw [misplacedVariadic?_eq, List.find?_eq_none] at h
  have hlt := (List.getElem?_eq_some_iff.1 hi).1
  by_contra hne
  have hmem : argument ∈ arguments.dropLast := by
    refine List.mem_of_getElem? (i := i) ?_
    rw [List.getElem?_dropLast, if_pos (by omega), hi]
  exact h argument hmem hvariadic

/-- Arguments that have the shape of the first overload of a template have that of each. -/
theorem Registry.TemplatesWellFormed.shapeOf_eq {registry : Registry β}
    (h : registry.TemplatesWellFormed) {id : TemplateId} {template : Template}
    (htemplate : registry.template? id = some template) {arguments : List Argument}
    (hshape : registry.rejectsShape template arguments = false) :
    ∀ index ∈ template.members, ∀ other, registry.function? index = some other →
      shapeOf other.arguments = shapeOf arguments := by
  intro index hindex other hother
  cases hmembers : template.members with
  | nil =>
    rw [hmembers] at hindex
    exact absurd hindex List.not_mem_nil
  | cons head rest =>
    have hhead : head ∈ template.members := by
      rw [hmembers]
      exact List.mem_cons_self
    obtain ⟨first, hfirst, _⟩ := (h.mem_members_iff htemplate head).1 hhead
    have hsame : sameShape first.arguments arguments = true := by
      rw [rejectsShape, hmembers, List.head?_cons, Option.bind_some, hfirst] at hshape
      simpa using hshape
    rw [h.same_shape htemplate index hindex head hhead other first hother hfirst,
      sameShape_iff.1 hsame]

/-- A member that a template does not reject leaves it with the text of its own shape. -/
theorem Registry.TemplatesWellFormed.shapeText?_add {registry : Registry β}
    (h : registry.TemplatesWellFormed) {id : TemplateId} {template : Template}
    (htemplate : registry.template? id = some template) {arguments : List Argument}
    (hshape : registry.rejectsShape template arguments = false) (index : FunctionIndex) :
    (template.add index arguments).shapeText? =
      some (shapeText template.name (shapeOf arguments)) := by
  cases hmembers : template.members with
  | nil =>
    have hnone := (h.shapeText?_eq_none_iff htemplate).2 hmembers
    rw [Template.add, hnone, Option.getD_none]
  | cons head rest =>
    have hhead : head ∈ template.members := by
      rw [hmembers]
      exact List.mem_cons_self
    obtain ⟨first, hfirst, _⟩ := (h.mem_members_iff htemplate head).1 hhead
    have htext := h.shapeText?_of_member htemplate head hhead first hfirst
    have hsame := h.shapeOf_eq htemplate hshape head hhead first hfirst
    rw [Template.add, htext, Option.getD_some, hsame]

namespace Registry.WellFormed

variable {registry : Registry β}

/-! ## What well-formed tables give -/

/-- A function that is found is kept under its own key. -/
theorem registered (h : registry.WellFormed) {index : FunctionIndex} {callee : Callee β}
    (hcallee : registry.function? index = some callee) : registry.Registered callee := by
  rw [Registered, h.function_index hcallee, hcallee]

/-- The functions in the table are registered. -/
theorem registered_of_mem_functions (h : registry.WellFormed) :
    ∀ callee ∈ registry.functions, registry.Registered callee := by
  intro callee hcallee
  obtain ⟨n, hn⟩ := List.mem_iff_getElem?.1 hcallee
  have hfound : registry.function? ⟨n⟩ = some callee := hn
  exact h.registered hfound

/-- The names in the table are those that functions have. -/
theorem mem_names_iff (h : registry.WellFormed) {name : String} :
    name ∈ registry.names.map (·.1) ↔ registry.HasName name := by
  have hnamed : name ∈ registry.names.map (·.1) ↔ (registry.named? name).isSome = true := by
    simp [named?, List.lookup_isSome_iff]
  rw [hnamed, Option.isSome_iff_exists]
  exact exists_congr fun index => h.named_iff name index

/-- A name is free exactly if no function has it. -/
theorem named?_eq_none_iff (h : registry.WellFormed) {name : String} :
    registry.named? name = none ↔ ¬ registry.HasName name := by
  rw [Option.eq_none_iff_forall_ne_some, HasName, not_exists]
  exact forall_congr' fun index => not_congr (h.named_iff name index)

/-- Overloads of a template are functions whose keys the template lists. -/
theorem mem_membersOf {template : Template} {callee : Callee β} (h : registry.WellFormed) :
    callee ∈ registry.membersOf template ↔
      callee.index ∈ template.members ∧ registry.Registered callee := by
  rw [membersOf, List.mem_filterMap]
  constructor
  · rintro ⟨index, hindex, hcallee⟩
    rw [← h.function_index hcallee] at hindex hcallee
    exact ⟨hindex, hcallee⟩
  · rintro ⟨hindex, hcallee⟩
    exact ⟨callee.index, hindex, hcallee⟩

/-- The members of a template are functions. -/
theorem exists_function?_of_mem_members (h : registry.WellFormed) {id : TemplateId}
    {template : Template} (htemplate : registry.template? id = some template) :
    ∀ member ∈ template.members, ∃ callee, registry.function? member = some callee := by
  intro member hmember
  obtain ⟨callee, hcallee, _⟩ := (h.mem_members_iff htemplate member).1 hmember
  exact ⟨callee, hcallee⟩

/-- Overloads of a template are registered. -/
theorem registered_of_mem_membersOf (h : registry.WellFormed) (template : Template) :
    ∀ callee ∈ registry.membersOf template, registry.Registered callee :=
  fun _ hcallee => (h.mem_membersOf.1 hcallee).2

/-! ## Entering a function -/

section Enter

variable {callee : Callee β}

/-- An acceptable function keeps the table of functions well-formed. -/
theorem enter_functions (h : registry.FunctionsWellFormed) (hacc : registry.Acceptable callee) :
    (registry.enter callee).FunctionsWellFormed := by
  refine ⟨?index, ?name, ?named, ?variadic⟩
  case index =>
    intro index found hfound
    rcases (function?_enter_eq_some_iff hacc.index_eq).1 hfound with hold | ⟨rfl, rfl⟩
    · exact h.function_index hold
    · rfl
  case name =>
    intro index found hfound
    rcases (function?_enter_eq_some_iff hacc.index_eq).1 hfound with hold | ⟨rfl, rfl⟩
    · exact h.name_ne hold
    · exact hacc.name_ne
  case named =>
    intro name index
    rw [named?_enter hacc.name_free]
    constructor
    · intro hnamed
      split at hnamed
      · rename_i hname
        obtain rfl := Option.some.inj hnamed
        have hself := (function?_enter_eq_some_iff hacc.index_eq).2 (.inr ⟨rfl, rfl⟩)
        exact ⟨callee, hself, hname.symm⟩
      · obtain ⟨other, hother, hsame⟩ := (h.named_iff name index).1 hnamed
        exact ⟨other, function?_enter_of_some hother, hsame⟩
    · rintro ⟨other, hother, rfl⟩
      rcases (function?_enter_eq_some_iff hacc.index_eq).1 hother with hold | ⟨rfl, rfl⟩
      · have hnamed := (h.named_iff other.name index).2 ⟨other, hold, rfl⟩
        -- an old function has another name, for the new one was free
        have hne : other.name ≠ callee.name := by
          intro hsame
          rw [hsame, hacc.name_free] at hnamed
          exact absurd hnamed (by simp)
        rw [if_neg hne, hnamed]
      · rw [if_pos rfl]
  case variadic =>
    intro index found hfound i argument hi hvariadic
    rcases (function?_enter_eq_some_iff hacc.index_eq).1 hfound with hold | ⟨rfl, rfl⟩
    · exact h.variadic_last hold hi hvariadic
    · exact succ_eq_length_of_misplacedVariadic? hacc.variadic_last hi hvariadic

/-- An acceptable function has an owner that exists. -/
theorem enter_owners (h : registry.OwnersWellFormed) (hacc : registry.Acceptable callee) :
    (registry.enter callee).OwnersWellFormed := by
  refine ⟨?_, h.struct_id, h.factory_id⟩
  intro index found hfound
  rcases (function?_enter_eq_some_iff hacc.index_eq).1 hfound with hold | ⟨rfl, rfl⟩
  · exact h.owner_known hold
  · exact ownerError?_eq_none_iff.1 hacc.owner_known

/-- A template after a function was entered is one of before, with one more member if the function
names it. -/
theorem exists_template_of_enter {id : TemplateId} {found : Template}
    (h : (registry.enter callee).template? id = some found) :
    ∃ template, registry.template? id = some template ∧
      ((callee.template = some id ∧ found = template.add callee.index callee.arguments) ∨
        (callee.template ≠ some id ∧ found = template)) := by
  rw [template?_enter] at h
  obtain ⟨template, htemplate, rfl⟩ := Option.map_eq_some_iff.1 h
  refine ⟨template, htemplate, ?_⟩
  by_cases hlink : callee.template = some id
  · exact .inl ⟨hlink, if_pos hlink⟩
  · exact .inr ⟨hlink, if_neg hlink⟩

/-- A template after a function was entered has its members of before, and the new function if that
names it. -/
theorem mem_members_of_enter {id : TemplateId} {template found : Template} {index : FunctionIndex}
    (htemplate : registry.template? id = some template)
    (hfound : (registry.enter callee).template? id = some found) :
    index ∈ found.members ↔
      index ∈ template.members ∨ (index = callee.index ∧ callee.template = some id) := by
  obtain ⟨old, hold, hcases⟩ := exists_template_of_enter hfound
  obtain rfl : old = template := Option.some.inj (hold.symm.trans htemplate)
  rcases hcases with ⟨hlink, rfl⟩ | ⟨hlink, rfl⟩
  · simp [Template.add, hlink]
  · simp [hlink]

/-- A member of a template after a function was entered is a member of before, or the new function
if that names the template. -/
theorem member_cases_of_enter (h : registry.TemplatesWellFormed)
    (hindex : callee.index = ⟨registry.size⟩) {id : TemplateId} {template found : Template}
    (htemplate : registry.template? id = some template)
    (hfound : (registry.enter callee).template? id = some found) {index : FunctionIndex}
    (hmember : index ∈ found.members) {other : Callee β}
    (hother : (registry.enter callee).function? index = some other) :
    (index ∈ template.members ∧ registry.function? index = some other) ∨
      (other = callee ∧ callee.template = some id) := by
  have hcases := (mem_members_of_enter htemplate hfound).1 hmember
  rcases (function?_enter_eq_some_iff hindex).1 hother with hold | ⟨rfl, rfl⟩
  · rcases hcases with hmember_old | ⟨hnew, _⟩
    · exact .inl ⟨hmember_old, hold⟩
    · exact absurd hnew (index_ne_of_function? hindex hold)
  · rcases hcases with hmember_old | ⟨_, hid⟩
    · obtain ⟨old, hold, _⟩ := (h.mem_members_iff htemplate _).1 hmember_old
      exact absurd rfl (index_ne_of_function? hindex hold)
    · exact .inr ⟨rfl, hid⟩

/-- A function with the shape of the template that it names keeps the table of templates
well-formed. -/
theorem enter_templates (h : registry.TemplatesWellFormed)
    (hindex : callee.index = ⟨registry.size⟩)
    (hlink : ∀ id, callee.template = some id → ∃ template,
      registry.template? id = some template ∧
        registry.rejectsShape template callee.arguments = false) :
    (registry.enter callee).TemplatesWellFormed := by
  refine ⟨?id, ?named, ?known, ?members, ?increasing, ?shape, ?none, ?text⟩
  case id =>
    intro id found hfound
    obtain ⟨template, htemplate, ⟨_, rfl⟩ | ⟨_, rfl⟩⟩ := exists_template_of_enter hfound
    · have hid := h.template_id htemplate
      exact hid
    · exact h.template_id htemplate
  case named =>
    intro name id
    refine (h.template_named_iff name id).trans ⟨?_, ?_⟩
    · rintro ⟨template, htemplate, hname⟩
      refine ⟨_, by rw [template?_enter, htemplate]; rfl, ?_⟩
      split
      · exact hname
      · exact hname
    · rintro ⟨found, hfound, hname⟩
      obtain ⟨template, htemplate, ⟨_, rfl⟩ | ⟨_, rfl⟩⟩ := exists_template_of_enter hfound
      · exact ⟨template, htemplate, hname⟩
      · exact ⟨_, htemplate, hname⟩
  case known =>
    intro index found id hfound hid
    have hold : ∃ template, registry.template? id = some template := by
      rcases (function?_enter_eq_some_iff hindex).1 hfound with hold | ⟨rfl, rfl⟩
      · exact h.template_known hold hid
      · obtain ⟨template, htemplate, _⟩ := hlink id hid
        exact ⟨template, htemplate⟩
    obtain ⟨template, htemplate⟩ := hold
    exact ⟨_, by rw [template?_enter, htemplate]; rfl⟩
  case members =>
    intro id found hfound index
    obtain ⟨template, htemplate, _⟩ := exists_template_of_enter hfound
    rw [mem_members_of_enter htemplate hfound, h.mem_members_iff htemplate index]
    constructor
    · rintro (⟨other, hother, hother_id⟩ | ⟨rfl, hid⟩)
      · exact ⟨other, function?_enter_of_some hother, hother_id⟩
      · exact ⟨callee, (function?_enter_eq_some_iff hindex).2 (.inr ⟨rfl, rfl⟩), hid⟩
    · rintro ⟨other, hother, hother_id⟩
      rcases (function?_enter_eq_some_iff hindex).1 hother with hold | ⟨rfl, rfl⟩
      · exact .inl ⟨other, hold, hother_id⟩
      · exact .inr ⟨rfl, hother_id⟩
  case increasing =>
    intro id found hfound
    obtain ⟨template, htemplate, ⟨_, rfl⟩ | ⟨_, rfl⟩⟩ := exists_template_of_enter hfound
    · have hold := h.members_increasing htemplate
      refine List.pairwise_append.2 ⟨hold, List.pairwise_singleton _ _, ?_⟩
      intro first hfirst second hsecond
      obtain rfl := List.mem_singleton.1 hsecond
      obtain ⟨other, hother, _⟩ := (h.mem_members_iff htemplate first).1 hfirst
      rw [hindex]
      exact number_lt_size hother
    · exact h.members_increasing htemplate
  case shape =>
    intro id found hfound i hi j hj f g hf hg
    obtain ⟨template, htemplate, _⟩ := exists_template_of_enter hfound
    -- an old member has the shape that the new one was compared with
    have hnew : callee.template = some id → ∀ index ∈ template.members, ∀ other,
        registry.function? index = some other →
          shapeOf other.arguments = shapeOf callee.arguments := by
      intro hid
      obtain ⟨linked, hlinked, hshape⟩ := hlink id hid
      obtain rfl : template = linked := Option.some.inj (htemplate.symm.trans hlinked)
      exact h.shapeOf_eq htemplate hshape
    rcases member_cases_of_enter h hindex htemplate hfound hi hf with
      ⟨hi_old, hf_old⟩ | ⟨rfl, hid⟩
    · rcases member_cases_of_enter h hindex htemplate hfound hj hg with
        ⟨hj_old, hg_old⟩ | ⟨rfl, hid⟩
      · exact h.same_shape htemplate i hi_old j hj_old f g hf_old hg_old
      · exact hnew hid i hi_old f hf_old
    · rcases member_cases_of_enter h hindex htemplate hfound hj hg with
        ⟨hj_old, hg_old⟩ | ⟨rfl, _⟩
      · exact (hnew hid j hj_old g hg_old).symm
      · rfl
  case none =>
    intro id found hfound
    obtain ⟨template, htemplate, ⟨_, rfl⟩ | ⟨_, rfl⟩⟩ := exists_template_of_enter hfound
    · simp [Template.add]
    · exact h.shapeText?_eq_none_iff htemplate
  case text =>
    intro id found hfound index hmember other hother
    obtain ⟨template, htemplate, hcases⟩ := exists_template_of_enter hfound
    have hmember_cases := member_cases_of_enter h hindex htemplate hfound hmember hother
    rcases hcases with ⟨hid, rfl⟩ | ⟨hid, rfl⟩
    · obtain ⟨linked, hlinked, hshape⟩ := hlink id hid
      obtain rfl : template = linked := Option.some.inj (htemplate.symm.trans hlinked)
      rw [h.shapeText?_add htemplate hshape]
      rcases hmember_cases with ⟨hold, hother_old⟩ | ⟨rfl, _⟩
      · rw [h.shapeOf_eq htemplate hshape index hold other hother_old]
        rfl
      · rfl
    · rcases hmember_cases with ⟨hold, hother_old⟩ | ⟨_, hid_new⟩
      · exact h.shapeText?_of_member htemplate index hold other hother_old
      · exact absurd hid_new hid

/-- Entering an acceptable function keeps the tables well-formed, if the template that it names
exists and does not reject its shape. -/
theorem enter (h : registry.WellFormed) (hacc : registry.Acceptable callee)
    (hlink : ∀ id, callee.template = some id → ∃ template,
      registry.template? id = some template ∧
        registry.rejectsShape template callee.arguments = false) :
    (registry.enter callee).WellFormed where
  toFunctionsWellFormed := enter_functions h.toFunctionsWellFormed hacc
  toOwnersWellFormed := enter_owners h.toOwnersWellFormed hacc
  toTemplatesWellFormed := enter_templates h.toTemplatesWellFormed hacc.index_eq hlink

end Enter

/-! ## Entering anything else -/

/-- An owner stays in its table when tables of owners grow. -/
theorem hasOwner_mono {later : Registry β} {owner : Owner} (h : registry.HasOwner owner)
    (hstructs : registry.structs.length ≤ later.structs.length)
    (hfactories : registry.factories.length ≤ later.factories.length) :
    later.HasOwner owner := by
  cases owner with
  | nobody => trivial
  | struct id => exact Nat.lt_of_lt_of_le h hstructs
  | factory id => exact Nat.lt_of_lt_of_le h hfactories

/-- Entering a struct at the end of its table keeps the tables well-formed. -/
theorem enterStruct (h : registry.WellFormed) (declaration : StructDeclaration)
    (context : Option TypeId) :
    (registry.enterStruct declaration context).WellFormed where
  toFunctionsWellFormed := { h.toFunctionsWellFormed with }
  toTemplatesWellFormed := { h.toTemplatesWellFormed with }
  owner_known hfound :=
    hasOwner_mono (h.owner_known hfound) (by simp [Registry.enterStruct]) (Nat.le_refl _)
  struct_id := by
    rintro ⟨n⟩ entry hentry
    rcases getElem?_concat_eq_some_iff.1 hentry with hold | ⟨hlast, rfl⟩
    · exact h.struct_id hold
    · rw [show n = registry.structs.length from hlast]
  factory_id := h.factory_id

/-- Entering a factory at the end of its table keeps the tables well-formed. -/
theorem enterFactory (h : registry.WellFormed) (factory : Factory β) (context : Option TypeId) :
    (registry.enterFactory factory context).WellFormed where
  toFunctionsWellFormed := { h.toFunctionsWellFormed with }
  toTemplatesWellFormed := { h.toTemplatesWellFormed with }
  owner_known hfound :=
    hasOwner_mono (h.owner_known hfound) (Nat.le_refl _) (by simp [Registry.enterFactory])
  struct_id := h.struct_id
  factory_id := by
    rintro ⟨n⟩ entry hentry
    rcases getElem?_concat_eq_some_iff.1 hentry with hold | ⟨hlast, rfl⟩
    · exact h.factory_id hold
    · rw [show n = registry.factories.length from hlast]

/-- A template without members, entered under a new name, keeps the table of templates
well-formed. -/
theorem enterTemplate_templates (h : registry.TemplatesWellFormed) {name : String}
    (hnew : registry.templateNames.lookup name = none) :
    (registry.enterTemplate name).TemplatesWellFormed := by
  have hcases : ∀ {id : TemplateId} {found : Template},
      (registry.enterTemplate name).template? id = some found →
        registry.template? id = some found ∨ (id = ⟨registry.templates.length⟩ ∧
          found = .empty ⟨registry.templates.length⟩ name) := by
    rintro ⟨n⟩ found hfound
    rw [TemplateId.mk.injEq]
    exact getElem?_concat_eq_some_iff.1 hfound
  -- no function can name the new template, for a function names one that it found
  have hunused : ∀ {index : FunctionIndex} {callee : Callee β},
      registry.function? index = some callee →
        callee.template ≠ some ⟨registry.templates.length⟩ := by
    intro index callee hcallee hid
    obtain ⟨template, htemplate⟩ := h.template_known hcallee hid
    exact Nat.lt_irrefl _ (List.getElem?_eq_some_iff.1 htemplate).1
  refine ⟨?id, ?named, ?known, ?members, ?increasing, ?shape, ?none, ?text⟩
  case id =>
    intro id found hfound
    rcases hcases hfound with hold | ⟨rfl, rfl⟩
    · exact h.template_id hold
    · rfl
  case named =>
    intro key id
    rw [enterTemplate, List.lookup_append, Option.or_eq_some_iff, h.template_named_iff]
    constructor
    · rintro (⟨template, htemplate, hname⟩ | ⟨_, hlast⟩)
      · exact ⟨template, getElem?_concat_eq_some_iff.2 (.inl htemplate), hname⟩
      · by_cases hkey : key = name
        · rw [hkey, List.lookup_cons_self] at hlast
          obtain rfl := Option.some.inj hlast
          exact ⟨_, getElem?_concat_eq_some_iff.2 (.inr ⟨rfl, rfl⟩), hkey.symm⟩
        · rw [List.lookup_cons, beq_false_of_ne hkey] at hlast
          exact absurd hlast (by simp)
    · rintro ⟨found, hfound, rfl⟩
      rcases hcases hfound with hold | ⟨rfl, rfl⟩
      · exact .inl ⟨found, hold, rfl⟩
      · exact .inr ⟨hnew, List.lookup_cons_self⟩
  case known =>
    intro index callee id hcallee hid
    obtain ⟨template, htemplate⟩ := h.template_known hcallee hid
    exact ⟨template, getElem?_concat_eq_some_iff.2 (.inl htemplate)⟩
  case members =>
    intro id found hfound index
    rcases hcases hfound with hold | ⟨rfl, rfl⟩
    · exact h.mem_members_iff hold index
    · constructor
      · intro hmember
        exact absurd hmember List.not_mem_nil
      · rintro ⟨callee, hcallee, hid⟩
        exact absurd hid (hunused hcallee)
  case increasing =>
    intro id found hfound
    rcases hcases hfound with hold | ⟨rfl, rfl⟩
    · exact h.members_increasing hold
    · exact .nil
  case shape =>
    intro id found hfound i hi j hj f g hf hg
    rcases hcases hfound with hold | ⟨rfl, rfl⟩
    · exact h.same_shape hold i hi j hj f g hf hg
    · exact absurd hi List.not_mem_nil
  case none =>
    intro id found hfound
    rcases hcases hfound with hold | ⟨rfl, rfl⟩
    · exact h.shapeText?_eq_none_iff hold
    · simp [Template.empty]
  case text =>
    intro id found hfound index hmember callee hcallee
    rcases hcases hfound with hold | ⟨rfl, rfl⟩
    · exact h.shapeText?_of_member hold index hmember callee hcallee
    · exact absurd hmember List.not_mem_nil

/-- Every step of a registration keeps the tables well-formed. -/
theorem grows {types : TypeService} {memory : Memory β} {later : Registry β}
    (h : registry.WellFormed) (hgrows : registry.Grows types memory later) : later.WellFormed := by
  cases hgrows with
  | same => exact h
  | function hacc hfree =>
    refine h.enter hacc fun id hid => ?_
    rw [hfree] at hid
    exact absurd hid (by simp)
  | member hacc hlink htemplate hshape _ _ =>
    refine h.enter hacc fun id hid => ?_
    obtain rfl := Option.some.inj (hlink.symm.trans hid)
    exact ⟨_, htemplate, hshape⟩
  | struct declaration context => exact h.enterStruct declaration context
  | factory factory context => exact h.enterFactory factory context
  | template hnew =>
    exact {
      toFunctionsWellFormed := { h.toFunctionsWellFormed with }
      toOwnersWellFormed := { h.toOwnersWellFormed with }
      toTemplatesWellFormed := enterTemplate_templates h.toTemplatesWellFormed hnew }

/-- The registry without entries is well-formed. -/
theorem empty (settings : Settings) (context : TypeId) :
    (Registry.empty settings context : Registry β).WellFormed := by
  refine { toFunctionsWellFormed := ⟨?_, ?_, ?_, ?_⟩, toOwnersWellFormed := ⟨?_, ?_, ?_⟩,
           toTemplatesWellFormed := ⟨?_, ?_, ?_, ?_, ?_, ?_, ?_, ?_⟩ } <;>
    simp [Registry.empty, Registry.function?, Registry.named?, Registry.struct?,
      Registry.factory?, Registry.template?]

end Registry.WellFormed

end Callsite
