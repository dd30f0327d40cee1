import Callsite.Proofs.Memory.Learning
import Callsite.Registry.Registration

/-!
# How the tables of a registry grow

A registration enters at most one function, struct, factory or template, always at the end of its
table. `Registry.Grows` lists these steps with all that was checked before the step was taken, so
that a property of the tables is proved once for each step and then holds of every draft. No step
changes what the tables hold (`Registry.Extends`).
-/

namespace Callsite

variable {β : Type}

/-- A list with one more element has its elements of before, and the new one at the end. -/
theorem getElem?_concat_eq_some_iff {α : Type} {entries : List α} {last entry : α} {i : Nat} :
    (entries ++ [last])[i]? = some entry ↔
      entries[i]? = some entry ∨ (i = entries.length ∧ entry = last) := by
  rw [List.getElem?_append]
  split
  · rename_i hlt
    constructor
    · exact .inl
    · rintro (h | ⟨rfl, _⟩)
      · exact h
      · exact absurd hlt (Nat.lt_irrefl _)
  · rename_i hge
    rw [List.getElem?_eq_none (Nat.le_of_not_lt hge), List.getElem?_singleton]
    constructor
    · intro h
      split at h
      · exact .inr ⟨by omega, (Option.some.inj h).symm⟩
      · exact absurd h (by simp)
    · rintro (h | ⟨rfl, rfl⟩)
      · exact absurd h (by simp)
      · rw [Nat.sub_self, if_pos rfl]

namespace Registry

variable {registry : Registry β} {callee : Callee β}

/-! ## Looking things up after a function was entered -/

/-- The functions are those of before, and the new one at its key. -/
theorem function?_enter_eq_some_iff (hindex : callee.index = ⟨registry.size⟩)
    {index : FunctionIndex} {found : Callee β} :
    (registry.enter callee).function? index = some found ↔
      registry.function? index = some found ∨ (index = callee.index ∧ found = callee) := by
  obtain ⟨n⟩ := index
  rw [hindex, FunctionIndex.mk.injEq]
  exact getElem?_concat_eq_some_iff

/-- A function that was found is still found after another one was entered. -/
theorem function?_enter_of_some {index : FunctionIndex} {other : Callee β}
    (h : registry.function? index = some other) :
    (registry.enter callee).function? index = some other :=
  getElem?_concat_eq_some_iff.2 (.inl h)

/-- The key of a function that is found is smaller than that of the next one. -/
theorem number_lt_size {index : FunctionIndex} {other : Callee β}
    (h : registry.function? index = some other) : index.number < registry.size :=
  (List.getElem?_eq_some_iff.1 h).1

/-- The next function has a key that no function has. -/
theorem index_ne_of_function? (hindex : callee.index = ⟨registry.size⟩) {index : FunctionIndex}
    {other : Callee β} (hother : registry.function? index = some other) :
    index ≠ callee.index := by
  rintro rfl
  have hlt := number_lt_size hother
  rw [hindex] at hlt
  exact Nat.lt_irrefl _ hlt

/-- A free name is found at the new function, and every other name where it was. -/
theorem named?_enter (hfree : registry.named? callee.name = none) (name : String) :
    (registry.enter callee).named? name =
      if name = callee.name then some callee.index else registry.named? name := by
  have happend : (registry.enter callee).named? name =
      (registry.named? name).or ([(callee.name, callee.index)].lookup name) := List.lookup_append
  rw [happend]
  by_cases hname : name = callee.name
  · rw [if_pos hname, hname, hfree]
    simp
  · rw [if_neg hname, List.lookup_cons, beq_false_of_ne hname]
    simp

/-- The template of the new function has one more member, and every other is as it was. -/
theorem template?_enter (id : TemplateId) :
    (registry.enter callee).template? id =
      (registry.template? id).map fun template =>
        if callee.template = some id then template.add callee.index callee.arguments
        else template := by
  simp only [template?, enter]
  cases hlink : callee.template with
  | none => simp
  | some linked =>
    rw [List.getElem?_modify, Option.map_eq_map]
    obtain ⟨n⟩ := linked
    obtain ⟨m⟩ := id
    simp only [Option.some.injEq, TemplateId.mk.injEq]

/-! ## What is checked before -/

/-- Whether a function may be entered: its key is the next one, it has a name that is free, only its
last argument is variadic, and its owner is registered. -/
structure Acceptable (registry : Registry β) (callee : Callee β) : Prop where
  index_eq : callee.index = ⟨registry.size⟩
  name_ne : callee.name ≠ ""
  name_free : registry.named? callee.name = none
  variadic_last : misplacedVariadic? callee.arguments = none
  owner_known : registry.ownerError? callee.owner = none

/-- A declaration that passes the checks makes an entry with its own name and arguments. -/
theorem acceptable_of_accept {declaration : Declaration β} {owner : Owner}
    {template : Option TemplateId} (howner : registry.ownerError? owner = none)
    (h : registry.accept declaration owner template = .ok callee) :
    registry.Acceptable callee ∧ callee.name = declaration.name ∧
      callee.arguments = declaration.arguments ∧ callee.template = template := by
  unfold accept at h
  split at h
  · exact absurd h (by simp)
  · split at h
    · exact absurd h (by simp)
    · rename_i hname
      split at h
      · exact absurd h (by simp)
      · rename_i hfree
        split at h
        · exact absurd h (by simp)
        · rename_i hvariadic
          obtain rfl := Except.ok.inj h
          exact ⟨⟨rfl, hname, hfree, hvariadic, howner⟩, rfl, rfl, rfl⟩

/-! ## The steps -/

/-- The tables with one more struct. -/
def enterStruct (registry : Registry β) (declaration : StructDeclaration)
    (context : Option TypeId) : Registry β :=
  { registry with
    structs := registry.structs ++ [⟨⟨registry.structs.length⟩, declaration, context⟩] }

/-- The tables with one more factory. -/
def enterFactory (registry : Registry β) (factory : Factory β) (context : Option TypeId) :
    Registry β :=
  { registry with
    factories := registry.factories ++ [⟨⟨registry.factories.length⟩, factory, context⟩] }

/-- The tables with one more template, which has no members. -/
def enterTemplate (registry : Registry β) (name : String) : Registry β :=
  { registry with
    templates := registry.templates ++ [.empty ⟨registry.templates.length⟩ name]
    templateNames := registry.templateNames ++ [(name, ⟨registry.templates.length⟩)] }

/-- What a registration does to the tables: nothing, or one of the five ways to enter something. A
member of a template has its shape, and its argument types differ from those that are known of each
other member once the registration is over. -/
inductive Grows (types : TypeService) (memory : Memory β) (registry : Registry β) :
    Registry β → Prop
  | same : Grows types memory registry registry
  | function {callee : Callee β} (h : registry.Acceptable callee) (hlink : callee.template = none) :
    Grows types memory registry (registry.enter callee)
  | member {callee : Callee β} {id : TemplateId} {template : Template} {earlier : Nat}
    {signature : List TypeId} (h : registry.Acceptable callee) (hlink : callee.template = some id)
    (htemplate : registry.template? id = some template)
    (hshape : registry.rejectsShape template callee.arguments = false)
    (hsignature :
      (resolveArguments types callee.name callee.arguments earlier).result = .ok signature)
    (hdistinct : ∀ other ∈ registry.membersOf template, ∃ declared,
      memory.types? other.index = some declared ∧ declared ≠ signature) :
    Grows types memory registry (registry.enter callee)
  | struct (declaration : StructDeclaration) (context : Option TypeId) :
    Grows types memory registry (registry.enterStruct declaration context)
  | factory (factory : Factory β) (context : Option TypeId) :
    Grows types memory registry (registry.enterFactory factory context)
  | template {name : String} (hnew : registry.templateNames.lookup name = none) :
    Grows types memory registry (registry.enterTemplate name)

/-! ## What stays -/

/-- Whether other tables have the settings and the default context of these, and all functions of
these at their keys. -/
structure Extends (registry later : Registry β) : Prop where
  settings_eq : later.settings = registry.settings
  defaultContext_eq : later.defaultContext = registry.defaultContext
  function?_of_some : ∀ {index callee}, registry.function? index = some callee →
    later.function? index = some callee

/-- Tables extend themselves. -/
theorem Extends.refl (registry : Registry β) : registry.Extends registry :=
  ⟨rfl, rfl, id⟩

/-- Tables that extend some extend what these extend. -/
theorem Extends.trans {later last : Registry β} (h : registry.Extends later)
    (hlater : later.Extends last) : registry.Extends last where
  settings_eq := hlater.settings_eq.trans h.settings_eq
  defaultContext_eq := hlater.defaultContext_eq.trans h.defaultContext_eq
  function?_of_some hcallee := hlater.function?_of_some (h.function?_of_some hcallee)

/-- Every step of a registration extends the tables. -/
theorem Grows.extends {types : TypeService} {memory : Memory β} {later : Registry β}
    (h : registry.Grows types memory later) : registry.Extends later := by
  cases h with
  | same => exact .refl registry
  | function => exact ⟨rfl, rfl, function?_enter_of_some⟩
  | member => exact ⟨rfl, rfl, function?_enter_of_some⟩
  | struct => exact ⟨rfl, rfl, id⟩
  | factory => exact ⟨rfl, rfl, id⟩
  | template => exact ⟨rfl, rfl, id⟩

end Registry

end Callsite
