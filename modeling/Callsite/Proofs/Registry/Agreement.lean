import Callsite.Proofs.Registry.Drafting
import Mathlib.Data.List.Nodup

/-!
# The tables agree throughout

What well-formed tables say about names and about the members of a template, and the main statement:
after every history of registrations, and once the draft is frozen, keys are places, names and keys
determine each other, owners exist, and a template lists exactly the functions that name it, once
each and in order, all of one shape, whose text is that of the template.
-/

namespace Callsite

variable {β : Type}

namespace Registry.WellFormed

variable {registry : Registry β}

/-! ## Names and members -/

/-- No two functions have one name. -/
theorem index_eq_of_name_eq (h : registry.WellFormed) {first second : FunctionIndex}
    {f g : Callee β} (hf : registry.function? first = some f)
    (hg : registry.function? second = some g) (hname : f.name = g.name) : first = second := by
  have hfirst := (h.named_iff f.name first).2 ⟨f, hf, rfl⟩
  have hsecond := (h.named_iff f.name second).2 ⟨g, hg, hname.symm⟩
  exact Option.some.inj (hfirst.symm.trans hsecond)

/-- No two templates have one name. -/
theorem templateId_eq_of_name_eq (h : registry.WellFormed) {first second : TemplateId}
    {t u : Template} (ht : registry.template? first = some t)
    (hu : registry.template? second = some u) (hname : t.name = u.name) : first = second := by
  have hfirst := (h.template_named_iff t.name first).2 ⟨t, ht, rfl⟩
  have hsecond := (h.template_named_iff t.name second).2 ⟨u, hu, hname.symm⟩
  exact Option.some.inj (hfirst.symm.trans hsecond)

section Members

variable {id : TemplateId} {template : Template}

/-- A template lists no function twice. -/
theorem members_nodup (h : registry.WellFormed)
    (htemplate : registry.template? id = some template) : template.members.Nodup := by
  refine (h.members_increasing htemplate).imp ?_
  rintro first _ hlt rfl
  exact Nat.lt_irrefl _ hlt

/-- Every member of a template is listed once. -/
theorem count_members (h : registry.WellFormed) (htemplate : registry.template? id = some template)
    {index : FunctionIndex} (hindex : index ∈ template.members) :
    template.members.count index = 1 :=
  List.count_eq_one_of_mem (h.members_nodup htemplate) hindex

/-- Any two overloads of a template have the same shape. -/
theorem shapeOf_eq_of_members (h : registry.WellFormed)
    (htemplate : registry.template? id = some template) {f g : Callee β}
    (hf : f ∈ registry.membersOf template) (hg : g ∈ registry.membersOf template) :
    shapeOf f.arguments = shapeOf g.arguments := by
  obtain ⟨hf_member, hf_registered⟩ := h.mem_membersOf.1 hf
  obtain ⟨hg_member, hg_registered⟩ := h.mem_membersOf.1 hg
  exact h.same_shape htemplate _ hf_member _ hg_member f g hf_registered hg_registered

/-- A template has a shape text as soon as it has a member. -/
theorem isSome_shapeText?_iff (h : registry.WellFormed)
    (htemplate : registry.template? id = some template) :
    template.shapeText?.isSome = true ↔ template.members ≠ [] := by
  rw [Option.isSome_iff_ne_none, ne_eq, ne_eq, h.shapeText?_eq_none_iff htemplate]

/-- The shape text of a template is that of each of its overloads. -/
theorem shapeText?_eq (h : registry.WellFormed)
    (htemplate : registry.template? id = some template) {callee : Callee β}
    (hcallee : callee ∈ registry.membersOf template) :
    template.shapeText? = some (shapeText template.name (shapeOf callee.arguments)) := by
  obtain ⟨hmember, hregistered⟩ := h.mem_membersOf.1 hcallee
  exact h.shapeText?_of_member htemplate callee.index hmember callee hregistered

end Members

end Registry.WellFormed

/-! ## Every history -/

/-- The tables of a draft after any history of registrations, and those of the registry that it is
frozen into, agree with each other. -/
theorem tables_agree_throughout {types : TypeService} {settings : Settings} {start : Draft β}
    (hstart : Draft.start types settings = .ok start) (registrations : List (Registration β))
    {registry : Registry β}
    (hregistry : registry = (start.applyAll types registrations).registry ∨
      ((start.applyAll types registrations).freeze types).result = .ok registry) :
    registry.WellFormed ∧
      (∀ {i j f g}, registry.function? i = some f → registry.function? j = some g →
        f.name = g.name → i = j) ∧
      (∀ {i j t u}, registry.template? i = some t → registry.template? j = some u →
        t.name = u.name → i = j) ∧
      ∀ {id template}, registry.template? id = some template →
        (∀ index ∈ template.members, template.members.count index = 1) ∧
        (∀ f ∈ registry.membersOf template, ∀ g ∈ registry.membersOf template,
          shapeOf f.arguments = shapeOf g.arguments) ∧
        (template.shapeText?.isSome = true ↔ template.members ≠ []) ∧
        ∀ callee ∈ registry.membersOf template,
          template.shapeText? = some (shapeText template.name (shapeOf callee.arguments)) := by
  have hdraft := Draft.wellFormed_applyAll hstart registrations
  have h : registry.WellFormed := by
    rcases hregistry with rfl | hfrozen
    · exact hdraft
    · rw [Draft.freeze_eq_ok hfrozen]
      exact hdraft
  refine ⟨h, h.index_eq_of_name_eq, h.templateId_eq_of_name_eq, fun htemplate => ?_⟩
  exact ⟨fun _ => h.count_members htemplate, fun _ hf _ => h.shapeOf_eq_of_members htemplate hf,
    h.isSome_shapeText?_iff htemplate, fun _ => h.shapeText?_eq htemplate⟩

/-! ## A sample history -/

namespace Sample

/-- Integers and floats are numbers, a rig context is a context, and integers have a second name. -/
def types : TypeService :=
  (Catalog.empty.applyAll [.declare "Number", .refine "Int" ⟨0⟩, .refine "Float" ⟨0⟩,
    .declare "ExecuteContext", .refine "RigContext" ⟨3⟩, .addAlias "Integer" ⟨1⟩]).service

/-- A factory that needs a rig context and supports calls of two operands, used as they are. -/
def pairing : Factory String where
  name := "Pairing"
  contextText := some "RigContext"
  variant? _ _ runtime :=
    if runtime.length = 2 then
      some ⟨.closure "pair", runtime.map (⟨"operand", .input, ·⟩)⟩
    else none
  argumentName? _ _ := none

/-- A template with two overloads, the second of them a method, after a third one was refused for
its argument types; then a function of a factory and a variadic one. -/
def history : List (Registration String) :=
  [.struct ⟨"Tool", "tools", none, none⟩, .factory pairing, .template "Add",
    .member ⟨0⟩ .nobody ⟨"AddInt", some (.function "add"),
      [⟨"a", " Int ", .input⟩, ⟨"rest", "Integer *", .input⟩]⟩,
    .member ⟨0⟩ .nobody ⟨"AddIntegers", some (.function "add"),
      [⟨"a", "Integer", .input⟩, ⟨"rest", "Int*", .input⟩]⟩,
    .member ⟨0⟩ (.struct ⟨0⟩) ⟨"Tool::Add", some (.function "add"),
      [⟨"a", "Number", .input⟩, ⟨"rest", "Number*", .input⟩]⟩,
    .function (.factory ⟨0⟩) ⟨"Pair", some (.function "unused"), [⟨"left", "Int", .input⟩]⟩,
    .function .nobody ⟨"Sum", some (.closure "sum"),
      [⟨"total", "Float", .output⟩, ⟨"items", "Number*", .input⟩]⟩]

/-- The draft before the sample history. -/
def start : Draft String := ⟨.empty {} ⟨3⟩, .fresh 1⟩

/-- The sample service knows the default context type. -/
theorem start_eq : Draft.start types {} = .ok start := by rfl

/-- The draft after the sample history. -/
def draft : Draft String := start.applyAll types history

end Sample

/-- After the sample history four functions are registered, two of them overloads of one template,
and the tables agree. -/
theorem tables_agree_after_refusal :
    Draft.start Sample.types {} = .ok Sample.start ∧
      Sample.draft.registry.size = 4 ∧
      Sample.draft.registry.templates.map (·.members) = [[⟨0⟩, ⟨1⟩]] ∧
      Sample.draft.registry.WellFormed :=
  ⟨Sample.start_eq, by decide +kernel, by decide +kernel,
    (tables_agree_throughout Sample.start_eq Sample.history (.inl rfl)).1⟩

end Callsite
