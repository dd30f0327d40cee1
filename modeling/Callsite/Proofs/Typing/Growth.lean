import Callsite.Typing.Catalog

/-!
# How a catalog grows

A request is refused and leaves the catalog as it is, or it enters one name, which was free: that of
a new type, at the end of the types, or an alias of a declared type. `Catalog.Grows` lists these
steps with what was checked before the step was taken, so that a property of catalogs is proved once
for each step and holds then after every history of requests (`Catalog.applyAll_induction`).
-/

namespace Callsite

namespace Catalog

/-! ## The steps -/

/-- The catalog with one more type, which has the next identifier and its name as a key. -/
def withType (catalog : Catalog) (name : String) (parent : Option TypeId) : Catalog :=
  ⟨catalog.types ++ [⟨⟨catalog.size⟩, name, parent⟩], catalog.names ++ [(name, ⟨catalog.size⟩)]⟩

/-- The catalog with one more key for a type. -/
def withAlias (catalog : Catalog) (key : String) (target : TypeId) : Catalog :=
  { catalog with names := catalog.names ++ [(key, target)] }

/-- The key under which a request enters a name. -/
def Request.key : Request → String
  | .declare name | .refine name _ => Text.trim name
  | .addAlias text _ => Text.trim text

/-- Whether a request is for a new type. -/
def Request.isDeclaration : Request → Bool
  | .declare _ | .refine _ _ => true
  | .addAlias _ _ => false

/-- The type that the key of a request stands for once the request is accepted. -/
def Request.meaning (catalog : Catalog) : Request → TypeId
  | .declare _ | .refine _ _ => ⟨catalog.size⟩
  | .addAlias _ target => target

/-- What a request does to a catalog that accepts it. The key was free, the name of a new type is
not blank, and the parent of a new type and the target of an alias are declared. -/
inductive Grows (catalog : Catalog) : Request → Option TypeId → Catalog → Prop
  | declared {name : String} (hblank : Text.trim name ≠ "")
    (hfree : catalog.named? (Text.trim name) = none) :
    Grows catalog (.declare name) (some ⟨catalog.size⟩) (catalog.withType (Text.trim name) none)
  | refined {name : String} {parent : TypeId} (hblank : Text.trim name ≠ "")
    (hfree : catalog.named? (Text.trim name) = none) (hparent : (catalog.get? parent).isSome) :
    Grows catalog (.refine name parent) (some ⟨catalog.size⟩)
      (catalog.withType (Text.trim name) (some parent))
  | aliased {text : String} {target : TypeId} (hfree : catalog.named? (Text.trim text) = none)
    (htarget : (catalog.get? target).isSome) :
    Grows catalog (.addAlias text target) none (catalog.withAlias (Text.trim text) target)

variable {catalog next : Catalog} {request : Request} {answer : Option TypeId}

/-- A type that is inserted has a name that is not blank, and its key was free. -/
theorem insert_eq_ok {name : String} {parent : Option TypeId} {id : TypeId}
    (h : catalog.insert name parent = .ok (id, next)) :
    Text.trim name ≠ "" ∧ catalog.named? (Text.trim name) = none ∧ id = ⟨catalog.size⟩ ∧
      next = catalog.withType (Text.trim name) parent := by
  simp only [insert] at h
  split at h
  · exact absurd h (by simp)
  · rename_i hblank
    split at h
    · exact absurd h (by simp)
    · rename_i hfree
      obtain ⟨hid, hnext⟩ := Prod.mk.inj (Except.ok.inj h)
      exact ⟨hblank, by simpa using hfree, hid.symm, hnext.symm⟩

/-- A request that is refused leaves the catalog as it was. -/
theorem apply_refused {error : CatalogError} (h : (catalog.apply request).1 = .error error) :
    (catalog.apply request).2 = catalog := by
  cases request with
  | declare name =>
    rw [apply] at h ⊢
    split at h
    · exact absurd h (by simp)
    · rfl
  | refine name parent =>
    rw [apply] at h ⊢
    split at h
    · exact absurd h (by simp)
    · rfl
  | addAlias text target =>
    rw [apply] at h ⊢
    split at h
    · exact absurd h (by simp)
    · rfl

/-- A request that is accepted takes one of the steps. -/
theorem apply_grows (h : (catalog.apply request).1 = .ok answer) :
    catalog.Grows request answer (catalog.apply request).2 := by
  cases request with
  | declare name =>
    rw [apply] at h ⊢
    split at h
    · rename_i id next hdeclare
      obtain ⟨hblank, hfree, rfl, rfl⟩ := insert_eq_ok hdeclare
      obtain rfl := Except.ok.inj h
      exact .declared hblank hfree
    · exact absurd h (by simp)
  | refine name parent =>
    rw [apply] at h ⊢
    split at h
    · rename_i id next hrefine
      rw [Catalog.refine] at hrefine
      split at hrefine
      · exact absurd hrefine (by simp)
      · rename_i hparent
        obtain ⟨hblank, hfree, rfl, rfl⟩ := insert_eq_ok hrefine
        obtain rfl := Except.ok.inj h
        exact .refined hblank hfree (by simpa [Option.isSome_iff_ne_none] using hparent)
    · exact absurd h (by simp)
  | addAlias text target =>
    rw [apply] at h ⊢
    split at h
    · rename_i next halias
      simp only [addAlias] at halias
      split at halias
      · exact absurd halias (by simp)
      · rename_i htarget
        split at halias
        · exact absurd halias (by simp)
        · rename_i hfree
          obtain rfl := Except.ok.inj halias
          obtain rfl := Except.ok.inj h
          exact .aliased (by simpa using hfree)
            (by simpa [Option.isSome_iff_ne_none] using htarget)
    · exact absurd h (by simp)

/-! ## Types and keys after a step -/

/-- The declarations are those of before, and that of the new type at the next identifier. -/
theorem get?_withType (name : String) (parent : Option TypeId) (id : TypeId) :
    (catalog.withType name parent).get? id =
      if id = ⟨catalog.size⟩ then some ⟨⟨catalog.size⟩, name, parent⟩ else catalog.get? id := by
  by_cases hlast : id = ⟨catalog.size⟩
  · rw [if_pos hlast, hlast]
    exact List.getElem?_concat_length
  · rw [if_neg hlast]
    have hne : id.number ≠ catalog.types.length := fun h => hlast (congrArg TypeId.mk h)
    show (catalog.types ++ [_])[id.number]? = catalog.types[id.number]?
    rw [List.getElem?_append]
    split
    · rfl
    · rw [List.getElem?_eq_none (by rw [List.length_singleton]; omega),
        List.getElem?_eq_none (by omega)]

namespace Grows

/-- The key of a request that is accepted was free. -/
theorem key_free (h : catalog.Grows request answer next) :
    catalog.named? request.key = none := by
  cases h with
  | declared _ hfree => exact hfree
  | refined _ hfree _ => exact hfree
  | aliased hfree _ => exact hfree

/-- Declarations stay as they are. -/
theorem get?_of_some (h : catalog.Grows request answer next) {id : TypeId}
    {declared : DeclaredType} (hid : catalog.get? id = some declared) :
    next.get? id = some declared := by
  -- the new type has an identifier that no type of before has
  have hne : id ≠ ⟨catalog.size⟩ := by
    rintro rfl
    exact Nat.lt_irrefl _ (List.getElem?_eq_some_iff.1 hid).1
  cases h with
  | declared => rw [get?_withType, if_neg hne, hid]
  | refined => rw [get?_withType, if_neg hne, hid]
  | aliased => exact hid

/-- A declaration makes one more type, and an alias none. -/
theorem size_eq (h : catalog.Grows request answer next) :
    next.size = catalog.size + if request.isDeclaration then 1 else 0 := by
  cases h with
  | declared => exact List.length_append
  | refined => exact List.length_append
  | aliased => rfl

/-- The key of the request stands for the type that is meant, and every other key for what it stood
for before. -/
theorem named?_eq (h : catalog.Grows request answer next) (key : String) :
    next.named? key =
      if key = request.key then some (request.meaning catalog) else catalog.named? key := by
  have hnames : next.names = catalog.names ++ [(request.key, request.meaning catalog)] := by
    cases h <;> rfl
  have hfree : catalog.names.lookup request.key = none := h.key_free
  rw [named?, named?, hnames, List.lookup_append]
  by_cases hkey : key = request.key
  · rw [if_pos hkey, hkey, hfree, Option.none_or, List.lookup_cons_self]
  · rw [if_neg hkey, List.lookup_cons, beq_false_of_ne hkey, List.lookup_nil, Option.or_none]

end Grows

/-! ## Histories of requests -/

/-- A request leaves the catalog as it was or takes one of the steps. -/
theorem apply_cases (catalog : Catalog) (request : Request) :
    (catalog.apply request).2 = catalog ∨
      ∃ answer, catalog.Grows request answer (catalog.apply request).2 := by
  cases hresult : (catalog.apply request).1 with
  | error error => exact .inl (apply_refused hresult)
  | ok answer => exact .inr ⟨answer, apply_grows hresult⟩

/-- What a catalog has at first and every step keeps, it has after every history of requests. -/
theorem applyAll_induction {motive : Catalog → Prop} (hstart : motive catalog)
    (hstep : ∀ {catalog request answer next}, catalog.Grows request answer next →
      motive catalog → motive next)
    (requests : List Request) : motive (catalog.applyAll requests) := by
  induction requests generalizing catalog with
  | nil => exact hstart
  | cons request rest ih =>
    show motive ((catalog.apply request).2.applyAll rest)
    refine ih ?_
    rcases catalog.apply_cases request with hsame | ⟨answer, hgrows⟩
    · rw [hsame]
      exact hstart
    · exact hstep hgrows hstart

end Catalog

end Callsite
