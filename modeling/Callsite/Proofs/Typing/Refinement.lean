import Callsite.Proofs.Typing.Growth

/-!
# Refinement in a catalog

A type refines a type that was declared before it, so that every step from a type to the one above
it goes to a smaller number. Two types that refine each other are therefore one type
(`Catalog.isSubtype_antisymm`). This holds of every catalog that a history of requests makes.
-/

namespace Callsite

namespace Catalog

/-- Whether every type refines only a type that was declared before it. -/
def ParentsFirst (catalog : Catalog) : Prop :=
  ∀ id parent, catalog.parent? id = some parent → parent.number < id.number

variable {catalog : Catalog}

/-! ## Histories of requests -/

/-- A type appended to a catalog keeps parents first if its own parent is in the catalog. -/
theorem parentsFirst_append (h : catalog.ParentsFirst) {last : DeclaredType}
    (hlast : ∀ parent, last.parent = some parent → parent.number < catalog.size)
    (names : List (String × TypeId)) : ParentsFirst ⟨catalog.types ++ [last], names⟩ := by
  intro id parent hparent
  obtain ⟨found, hfound, hfound_parent⟩ := Option.bind_eq_some_iff.1 hparent
  by_cases hold : id.number < catalog.size
  · refine h id parent (Option.bind_eq_some_iff.2 ⟨found, ?_, hfound_parent⟩)
    exact (List.getElem?_append_left hold).symm.trans hfound
  · obtain ⟨hlt, hget⟩ := List.getElem?_eq_some_iff.1 hfound
    have hid : id.number = catalog.size := by
      rw [List.length_append, List.length_singleton] at hlt
      exact Nat.le_antisymm (Nat.le_of_lt_succ hlt) (Nat.le_of_not_lt hold)
    have hlast_eq : found = last := by
      simpa [hid, size] using hget.symm
    rw [hid]
    exact hlast parent (hlast_eq ▸ hfound_parent)

/-- Every step keeps parents first: the parent of a new type is in the catalog. -/
theorem ParentsFirst.grows (h : catalog.ParentsFirst) {request : Request} {answer : Option TypeId}
    {next : Catalog} (hgrows : catalog.Grows request answer next) : next.ParentsFirst := by
  cases hgrows with
  | declared => exact parentsFirst_append h (by simp) _
  | refined _ _ hparent =>
    refine parentsFirst_append h (fun above habove => ?_) _
    obtain rfl := Option.some.inj habove
    obtain ⟨declared, hdeclared⟩ := Option.isSome_iff_exists.1 hparent
    exact (List.getElem?_eq_some_iff.1 hdeclared).1
  | aliased => exact h

/-- A catalog that a history of requests makes has parents first. -/
theorem parentsFirst_applyAll (requests : List Request) :
    (Catalog.empty.applyAll requests).ParentsFirst := by
  refine applyAll_induction ?_ (fun hgrows h => ParentsFirst.grows h hgrows) requests
  exact fun id parent hparent => absurd hparent (by simp [parent?, get?, Catalog.empty])

/-! ## Refinement -/

/-- The types above a type have smaller numbers. -/
theorem number_le_of_mem_lineageWithin (h : catalog.ParentsFirst) {steps : Nat} {id above : TypeId}
    (habove : above ∈ catalog.lineageWithin steps id) : above.number ≤ id.number := by
  induction steps generalizing id with
  | zero =>
    obtain rfl := List.mem_singleton.1 habove
    exact Nat.le_refl _
  | succ steps ih =>
    rw [lineageWithin] at habove
    split at habove
    · obtain rfl := List.mem_singleton.1 habove
      exact Nat.le_refl _
    · rename_i parent hparent
      rcases List.mem_cons.1 habove with rfl | habove
      · exact Nat.le_refl _
      · exact Nat.le_trans (ih habove) (Nat.le_of_lt (h id parent hparent))

/-- A type that another one refines has no greater number. -/
theorem number_le_of_isSubtype (h : catalog.ParentsFirst) {candidate required : TypeId}
    (hsubtype : catalog.isSubtype candidate required = true) :
    required.number ≤ candidate.number :=
  number_le_of_mem_lineageWithin h (List.contains_iff_mem.1 hsubtype)

/-- Two types that refine each other are one type. -/
theorem isSubtype_antisymm (h : catalog.ParentsFirst) {first second : TypeId}
    (hle : catalog.isSubtype first second = true) (hge : catalog.isSubtype second first = true) :
    first = second :=
  congrArg TypeId.mk
    (Nat.le_antisymm (number_le_of_isSubtype h hge) (number_le_of_isSubtype h hle))

end Catalog

end Callsite
