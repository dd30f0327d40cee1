import Callsite.Proofs.Text.Trimming
import Callsite.Proofs.Typing.Retention

/-!
# The names of a catalog

A catalog finds its types by place and by name, and aliases share the table of names. The types are
the accepted declarations of the history in order (`Catalog.types_applyAll`), and a key stands for
the type of that name or for the target of that alias (`Catalog.Named`); both are followed through a
history request by request. A declared name is trimmed, not blank, and no other type has it, so that
a text that is no alias is the name of the type that it resolves to.
-/

namespace Callsite

namespace Catalog

/-! ## What a history declares -/

/-- The name and the parent of the type that a request is for. -/
def Request.declaration? : Request → Option (String × Option TypeId)
  | .declare name => some (Text.trim name, none)
  | .refine name parent => some (Text.trim name, some parent)
  | .addAlias _ _ => none

/-- The key of the alias that a request is for, and its target. -/
def Request.alias? : Request → Option (String × TypeId)
  | .declare _ | .refine _ _ => none
  | .addAlias text target => some (Text.trim text, target)

/-- The declarations of a history that are accepted, in order. -/
def declarations (catalog : Catalog) (requests : List Request) : List (String × Option TypeId) :=
  (catalog.accepted requests).filterMap Request.declaration?

/-- The aliases of a history that are accepted, in order. -/
def aliases (catalog : Catalog) (requests : List Request) : List (String × TypeId) :=
  (catalog.accepted requests).filterMap Request.alias?

/-- Declarations as types, with their places for identifiers. The first one is at place `first`. -/
def typesFrom (first : Nat) (declarations : List (String × Option TypeId)) : List DeclaredType :=
  declarations.mapIdx fun place declaration => ⟨⟨first + place⟩, declaration.1, declaration.2⟩

variable {catalog next : Catalog} {request : Request} {answer : Option TypeId}
  {known : List (String × TypeId)}

/-- What is picked from the accepted requests is picked from the first one if that is accepted, and
from those that the next catalog accepts. -/
theorem filterMap_accepted_of_ok {α : Type} (pick : Request → Option α)
    (h : (catalog.apply request).1 = .ok answer) (rest : List Request) :
    (catalog.accepted (request :: rest)).filterMap pick =
      (pick request).toList ++ ((catalog.apply request).2.accepted rest).filterMap pick := by
  rw [accepted_of_ok h, List.filterMap_cons]
  cases pick request <;> rfl

/-- Later declarations have the places after the earlier ones. -/
theorem typesFrom_append (first : Nat) (earlier later : List (String × Option TypeId)) :
    typesFrom first (earlier ++ later) =
      typesFrom first earlier ++ typesFrom (first + earlier.length) later := by
  rw [typesFrom, List.mapIdx_append]
  refine congrArg (typesFrom first earlier ++ ·) (List.mapIdx_eq_mapIdx_iff.2 fun place _ => ?_)
  rw [Nat.add_comm place, ← Nat.add_assoc]

/-! ## Types -/

/-- The types after a step are those of before, and the one that is declared. -/
theorem Grows.types_eq (h : catalog.Grows request answer next) :
    next.types = catalog.types ++ typesFrom catalog.size request.declaration?.toList := by
  cases h with
  | declared => rfl
  | refined => rfl
  | aliased => exact (List.append_nil _).symm

/-- The types after a history are those of before, and those that are declared. -/
theorem types_applyAll (catalog : Catalog) (requests : List Request) :
    (catalog.applyAll requests).types =
      catalog.types ++ typesFrom catalog.size (catalog.declarations requests) := by
  induction requests generalizing catalog with
  | nil => exact (List.append_nil _).symm
  | cons request rest ih =>
    show ((catalog.apply request).2.applyAll rest).types = _
    rw [ih]
    cases hresult : (catalog.apply request).1 with
    | error error =>
      rw [declarations, declarations, accepted_of_error hresult, apply_refused hresult]
    | ok answer =>
      have htypes := (apply_grows hresult).types_eq
      have hsize : (catalog.apply request).2.size =
          catalog.size + request.declaration?.toList.length := by
        rw [size, htypes, List.length_append, typesFrom, List.length_mapIdx, size]
      rw [declarations, declarations, filterMap_accepted_of_ok Request.declaration? hresult, htypes,
        hsize, List.append_assoc, ← typesFrom_append]

/-! ## Names and aliases -/

/-- How the keys of a catalog come about, given its aliases: a key is the name of the type that it
stands for or one of the aliases, names are trimmed and not blank, and aliases are for declared
types. -/
structure Named (catalog : Catalog) (aliases : List (String × TypeId)) : Prop where
  named?_iff : ∀ {key id}, catalog.named? key = some id ↔
    catalog.name? id = some key ∨ (key, id) ∈ aliases
  name_trimmed : ∀ {id name}, catalog.name? id = some name → name ≠ "" ∧ Text.trim name = name
  get?_of_alias : ∀ {key id}, (key, id) ∈ aliases → (catalog.get? id).isSome = true

/-- A key stands for a type after a step if it did before or if it is the key of the request. -/
theorem Grows.named?_iff (h : catalog.Grows request answer next) {key : String} {id : TypeId} :
    next.named? key = some id ↔
      catalog.named? key = some id ∨ key = request.key ∧ id = request.meaning catalog := by
  rw [h.named?_eq]
  by_cases hkey : key = request.key
  · rw [if_pos hkey, hkey, h.key_free]
    simp [eq_comm]
  · rw [if_neg hkey]
    simp [hkey]

/-- A new type has its name, and the types of before have theirs. -/
theorem name?_withType_iff {name key : String} {parent : Option TypeId} {id : TypeId} :
    (catalog.withType name parent).name? id = some key ↔
      catalog.name? id = some key ∨ key = name ∧ id = ⟨catalog.size⟩ := by
  rw [name?, get?_withType]
  by_cases hlast : id = ⟨catalog.size⟩
  · have hnone : catalog.name? ⟨catalog.size⟩ = none := by
      rw [name?, get?, size, List.getElem?_length, Option.map_none]
    rw [if_pos hlast, hlast, hnone]
    simp [eq_comm]
  · rw [if_neg hlast, ← name?]
    simp [hlast]

/-- A type has a name after a step if it had it before or if it is declared under it. -/
theorem Grows.name?_iff (h : catalog.Grows request answer next) {key : String} {id : TypeId} :
    next.name? id = some key ↔ catalog.name? id = some key ∨
      request.isDeclaration = true ∧ key = request.key ∧ id = request.meaning catalog := by
  cases h with
  | declared => simp [name?_withType_iff, Request.isDeclaration, Request.key, Request.meaning]
  | refined => simp [name?_withType_iff, Request.isDeclaration, Request.key, Request.meaning]
  | aliased => simp [withAlias, name?, get?, Request.isDeclaration]

/-- The alias that a request is for is its key, with the type that it stands for. -/
theorem Request.mem_alias?_iff (catalog : Catalog) {key : String} {id : TypeId} :
    (key, id) ∈ request.alias?.toList ↔
      request.isDeclaration = false ∧ key = request.key ∧ id = request.meaning catalog := by
  cases request <;> simp [alias?, isDeclaration, Request.key, meaning]

/-- A type is not declared under a blank name. -/
theorem Grows.key_ne (h : catalog.Grows request answer next)
    (hdeclaration : request.isDeclaration = true) : request.key ≠ "" := by
  cases h with
  | declared hblank => exact hblank
  | refined hblank => exact hblank
  | aliased => exact absurd hdeclaration (by simp [Request.isDeclaration])

/-- The key of a request is trimmed. -/
theorem Request.trim_key (request : Request) : Text.trim request.key = request.key := by
  cases request <;> exact Text.trim_trim _

/-- The type that an alias is for is declared. -/
theorem Grows.get?_meaning (h : catalog.Grows request answer next)
    (hdeclaration : request.isDeclaration = false) :
    (next.get? (request.meaning catalog)).isSome = true := by
  cases h with
  | declared => exact absurd hdeclaration (by simp [Request.isDeclaration])
  | refined => exact absurd hdeclaration (by simp [Request.isDeclaration])
  | aliased _ htarget => exact htarget

namespace Named

/-- A catalog without types has no keys. -/
theorem empty : Catalog.empty.Named [] where
  named?_iff := by simp [named?, name?, get?, Catalog.empty]
  name_trimmed h := absurd h (by simp [name?, get?, Catalog.empty])
  get?_of_alias h := absurd h List.not_mem_nil

/-- Every step adds one key, which is the name of a type or an alias. -/
theorem grows (h : catalog.Named known) (hgrows : catalog.Grows request answer next) :
    next.Named (known ++ request.alias?.toList) where
  named?_iff := by
    intro key id
    rw [hgrows.named?_iff, h.named?_iff, hgrows.name?_iff, List.mem_append,
      Request.mem_alias?_iff catalog, or_or_or_comm, ← or_and_right]
    cases request.isDeclaration <;> simp
  name_trimmed {id key} hname := by
    rcases hgrows.name?_iff.1 hname with hbefore | ⟨hdeclaration, rfl, _⟩
    · exact h.name_trimmed hbefore
    · exact ⟨hgrows.key_ne hdeclaration, request.trim_key⟩
  get?_of_alias {key id} halias := by
    rcases List.mem_append.1 halias with hbefore | hnew
    · obtain ⟨declared, hdeclared⟩ := Option.isSome_iff_exists.1 (h.get?_of_alias hbefore)
      exact Option.isSome_of_eq_some (hgrows.get?_of_some hdeclared)
    · obtain ⟨hdeclaration, _, rfl⟩ := (Request.mem_alias?_iff catalog).1 hnew
      exact hgrows.get?_meaning hdeclaration

/-- The keys after a history are the names of the types and the aliases that were accepted. -/
theorem applyAll (h : catalog.Named known) (requests : List Request) :
    (catalog.applyAll requests).Named (known ++ catalog.aliases requests) := by
  induction requests generalizing catalog known with
  | nil => exact (List.append_nil known).symm ▸ h
  | cons request rest ih =>
    show ((catalog.apply request).2.applyAll rest).Named _
    cases hresult : (catalog.apply request).1 with
    | error error =>
      rw [apply_refused hresult, aliases, accepted_of_error hresult]
      exact ih h
    | ok answer =>
      rw [aliases, filterMap_accepted_of_ok Request.alias? hresult, ← List.append_assoc]
      exact ih (h.grows (apply_grows hresult))

/-- A text resolves to the type that its trimmed form is the name or an alias of. -/
theorem resolve_eq_ok_iff (h : catalog.Named known) {text : String} {id : TypeId} :
    catalog.resolve text = .ok id ↔
      catalog.name? id = some (Text.trim text) ∨ (Text.trim text, id) ∈ known := by
  rw [← h.named?_iff, resolve, find?]
  cases catalog.named? (Text.trim text) <;> simp

/-- No two types have the same name. -/
theorem eq_of_name? (h : catalog.Named known) {id other : TypeId} {name : String}
    (hid : catalog.name? id = some name) (hother : catalog.name? other = some name) :
    id = other := by
  have hkey := h.named?_iff.2 (.inl hid)
  rw [h.named?_iff.2 (.inl hother)] at hkey
  exact (Option.some.inj hkey).symm

/-- The names of all types are distinct. -/
theorem nodup_names (h : catalog.Named known) : (catalog.types.map (·.name)).Nodup := by
  rw [List.Nodup, List.pairwise_iff_getElem]
  intro first second hfirst hsecond hlt hsame
  rw [List.getElem_map, List.getElem_map] at hsame
  rw [List.length_map] at hfirst hsecond
  have hname {place : Nat} (hplace : place < catalog.types.length) :
      catalog.name? ⟨place⟩ = some catalog.types[place].name :=
    congrArg (Option.map _) (List.getElem?_eq_getElem hplace)
  have hplaces := h.eq_of_name? (hname hfirst) (hsame ▸ hname hsecond)
  exact Nat.ne_of_lt hlt (congrArg TypeId.number hplaces)

end Named

/-! ## Every history -/

/-- The types after a history are its accepted declarations, with their places for identifiers. -/
theorem types_applyAll_empty (requests : List Request) :
    (empty.applyAll requests).types = typesFrom 0 (empty.declarations requests) :=
  types_applyAll empty requests

/-- The keys after a history are the names of the types and its accepted aliases. -/
theorem named_applyAll_empty (requests : List Request) :
    (empty.applyAll requests).Named (empty.aliases requests) :=
  Named.empty.applyAll requests

/-- The name of a type is the one under which it was declared. -/
theorem name?_applyAll (requests : List Request) (id : TypeId) :
    (empty.applyAll requests).name? id = ((empty.declarations requests)[id.number]?).map (·.1) := by
  rw [name?, get?, types_applyAll_empty, typesFrom, List.getElem?_mapIdx, Option.map_map]
  rfl

/-- The types and the names of a catalog agree. After every history of requests, refused ones
included: the type at a place has that place for its identifier, its name is not blank and is its
own trimmed form, and the name with blanks around it resolves to the type. No two types have the
same name. A text resolves to a type exactly if its trimmed form is the name of the type or was
accepted as an alias of it; all types that texts resolve to are declared, and a text that is no
alias is trimmed to the name of the type that it resolves to. The list of the types, their number,
and what is found under an identifier all come from the declarations that were accepted, in
order. -/
theorem names_and_types_agree (requests : List Request) :
    let catalog := empty.applyAll requests
    let declarations := empty.declarations requests
    let aliases := empty.aliases requests
    (∀ place declared, catalog.types[place]? = some declared →
        declared.id = ⟨place⟩ ∧ declared.name ≠ "" ∧ Text.trim declared.name = declared.name ∧
          ∀ before after, Text.IsBlank before → Text.IsBlank after →
            catalog.resolve (before ++ declared.name ++ after) = .ok ⟨place⟩) ∧
      (catalog.types.map (·.name)).Nodup ∧
      (∀ text id, catalog.resolve text = .ok id ↔
        catalog.name? id = some (Text.trim text) ∨ (Text.trim text, id) ∈ aliases) ∧
      (∀ text id, catalog.resolve text = .ok id →
        (∃ declared, catalog.get? id = some declared ∧ declared.id = id) ∧
          (Text.trim text ∉ aliases.map (·.1) → catalog.name? id = some (Text.trim text))) ∧
      catalog.types = typesFrom 0 declarations ∧
      catalog.size = declarations.length ∧
      (∀ id, catalog.get? id = (typesFrom 0 declarations)[id.number]?) ∧
      ∀ id, catalog.name? id = (declarations[id.number]?).map (·.1) := by
  intro catalog declarations aliases
  have hdense : catalog.Dense := dense_applyAll requests
  have hnamed : catalog.Named aliases := named_applyAll_empty requests
  have htypes : catalog.types = typesFrom 0 declarations := types_applyAll_empty requests
  have hname {place : Nat} {declared : DeclaredType}
      (hplace : catalog.types[place]? = some declared) :
      catalog.name? ⟨place⟩ = some declared.name := congrArg (Option.map _) hplace
  refine ⟨?types, hnamed.nodup_names, fun text id => hnamed.resolve_eq_ok_iff, ?texts, htypes,
    ?size, fun id => ?get, name?_applyAll requests⟩
  case types =>
    intro place declared hplace
    obtain ⟨hne, htrim⟩ := hnamed.name_trimmed (hname hplace)
    refine ⟨hdense ⟨place⟩ declared hplace, hne, htrim, fun before after hbefore hafter => ?_⟩
    rw [hnamed.resolve_eq_ok_iff, Text.trim_padded hbefore hafter, htrim]
    exact .inl (hname hplace)
  case texts =>
    intro text id htext
    rcases hnamed.resolve_eq_ok_iff.1 htext with hid | halias
    · obtain ⟨declared, hdeclared, _⟩ := Option.map_eq_some_iff.1 hid
      exact ⟨⟨declared, hdeclared, hdense id declared hdeclared⟩, fun _ => hid⟩
    · obtain ⟨declared, hdeclared⟩ := Option.isSome_iff_exists.1 (hnamed.get?_of_alias halias)
      exact ⟨⟨declared, hdeclared, hdense id declared hdeclared⟩,
        fun hno => absurd (List.mem_map_of_mem halias) hno⟩
  case size => rw [size, htypes, typesFrom, List.length_mapIdx]
  case get => rw [get?, htypes]

end Catalog

/-- In the sample catalog a text with blanks around it names bytes, and so does an alias of bytes,
which is not their name. The types are those that were declared once each. -/
theorem names_and_types_agree_on_bytes :
    Sample.catalog.resolve "\t Byte\n" = .ok ⟨2⟩ ∧
      Sample.catalog.resolve " Octet" = .ok ⟨2⟩ ∧
      Sample.catalog.name? ⟨2⟩ = some "Byte" ∧
      Catalog.empty.aliases Sample.requests = [("Octet", ⟨2⟩)] ∧
      Sample.catalog.types =
        Catalog.typesFrom 0 [("Number", none), ("Int", some ⟨0⟩), ("Byte", some ⟨1⟩)] ∧
      (Sample.catalog.types.map (·.name)).Nodup := by
  have haliases : Catalog.empty.aliases Sample.requests = [("Octet", ⟨2⟩)] := by decide +kernel
  have hdeclarations : Catalog.empty.declarations Sample.requests =
      [("Number", none), ("Int", some ⟨0⟩), ("Byte", some ⟨1⟩)] := by decide +kernel
  have hbyte : Sample.catalog.types[2]? = some ⟨⟨2⟩, "Byte", some ⟨1⟩⟩ := by decide +kernel
  have hblanks : Text.IsBlank "\t " ∧ Text.IsBlank "\n" := by
    constructor <;> (rw [← Text.trim_eq_empty_iff]; decide +kernel)
  obtain ⟨hplaces, hdistinct, hresolve, htexts, htypes, _⟩ :=
    Catalog.names_and_types_agree Sample.requests
  rw [← Sample.catalog] at hplaces hdistinct hresolve htexts htypes
  rw [haliases] at hresolve htexts
  obtain ⟨_, _, _, hpadded⟩ := hplaces 2 _ hbyte
  have hname := hpadded "\t " "\n" hblanks.1 hblanks.2
  have hoctet : Sample.catalog.resolve " Octet" = .ok ⟨2⟩ :=
    (hresolve " Octet" ⟨2⟩).2 (.inr (by decide +kernel))
  have hown : Text.trim "\t Byte\n" ∉ [("Octet", (⟨2⟩ : TypeId))].map (·.1) := by decide +kernel
  refine ⟨hname, hoctet, ?_, haliases, hdeclarations ▸ htypes, hdistinct⟩
  exact (htexts _ _ hname).2 hown

end Callsite
