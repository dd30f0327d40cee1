import Callsite.Proofs.Typing.Refinement
import Mathlib.Logic.Function.Iterate
import Mathlib.Logic.Relation

/-!
# Refinement is an order

A parent is declared before its child, so that a lineage is the type itself followed by the lineage
of its parent (`Catalog.lineage_of_parent`), and the bound on its length does not show. Induction
from a type to its parent (`Catalog.ParentsFirst.induction`) then gives the rest. The search that
goes from parent to parent stops, with the answer of `isSubtype`; a type refines exactly the types
that are reached from it by going up; and this is an order in which any two types above a third one
can be compared. Identifiers that no type was declared under are no exception: they stand alone.
-/

namespace Callsite

open Relation (ReflTransGen)

namespace Catalog

variable {catalog : Catalog} {id parent required : TypeId}

/-! ## Identifiers -/

/-- Whether the identifier of every type is its place among the types. -/
def Dense (catalog : Catalog) : Prop :=
  ∀ id declared, catalog.get? id = some declared → declared.id = id

/-- A new type is entered at its own identifier. -/
theorem Dense.withType (h : catalog.Dense) (name : String) (parent : Option TypeId) :
    (catalog.withType name parent).Dense := by
  intro id declared hid
  rw [get?_withType] at hid
  split at hid
  · rename_i hlast
    obtain rfl := Option.some.inj hid
    exact hlast.symm
  · exact h id declared hid

/-- Every step keeps identifiers in their places. -/
theorem Dense.grows (h : catalog.Dense) {request : Request} {answer : Option TypeId}
    {next : Catalog} (hgrows : catalog.Grows request answer next) : next.Dense := by
  cases hgrows with
  | declared => exact h.withType _ none
  | refined => exact h.withType _ (some _)
  | aliased => exact h

/-- Identifiers are in their places after every history of requests. -/
theorem dense_applyAll (requests : List Request) : (empty.applyAll requests).Dense := by
  refine applyAll_induction ?_ (fun hgrows h => Dense.grows h hgrows) requests
  exact fun id declared hid => absurd hid (by simp [get?, empty])

/-! ## Lineages without a bound -/

/-- The second type is the one that the first is declared to refine. -/
def IsParent (catalog : Catalog) (child parent : TypeId) : Prop :=
  catalog.parent? child = some parent

/-- A type with a parent has been declared. -/
theorem number_lt_size_of_parent? (h : catalog.parent? id = some parent) :
    id.number < catalog.size := by
  obtain ⟨declared, hdeclared, _⟩ := Option.bind_eq_some_iff.1 h
  exact (List.getElem?_eq_some_iff.1 hdeclared).1

/-- Above a type without a parent there is nothing, however far one looks. -/
theorem lineageWithin_of_parent?_none (h : catalog.parent? id = none) (steps : Nat) :
    catalog.lineageWithin steps id = [id] := by
  cases steps with
  | zero => rfl
  | succ steps => rw [lineageWithin, h]

/-- Two bounds that are no smaller than the number of a type give it the same lineage. -/
theorem lineageWithin_eq (h : catalog.ParentsFirst) (steps more : Nat)
    (hsteps : id.number ≤ steps) (hmore : id.number ≤ more) :
    catalog.lineageWithin steps id = catalog.lineageWithin more id := by
  induction steps generalizing more id with
  | zero =>
    have hnone : catalog.parent? id = none := by
      refine Option.eq_none_iff_forall_ne_some.2 fun parent hparent => ?_
      have hlt := h id parent hparent
      omega
    rw [lineageWithin_of_parent?_none hnone, lineageWithin_of_parent?_none hnone]
  | succ steps ih =>
    cases hparent : catalog.parent? id with
    | none => rw [lineageWithin_of_parent?_none hparent, lineageWithin_of_parent?_none hparent]
    | some parent =>
      have hlt := h id parent hparent
      cases more with
      | zero => omega
      | succ more =>
        rw [lineageWithin, lineageWithin, hparent]
        dsimp only
        rw [ih more (by omega) (by omega)]

/-- The lineage of a type without a parent is the type alone. -/
theorem lineage_of_parent?_none (h : catalog.parent? id = none) : catalog.lineage id = [id] :=
  lineageWithin_of_parent?_none h catalog.size

/-- The lineage of a type goes on with that of its parent. -/
theorem lineage_of_parent (h : catalog.ParentsFirst) (hparent : catalog.IsParent id parent) :
    catalog.lineage id = id :: catalog.lineage parent := by
  have hparent : catalog.parent? id = some parent := hparent
  have hid := number_lt_size_of_parent? hparent
  have hlt := h id parent hparent
  obtain ⟨steps, hsteps⟩ : ∃ steps, catalog.size = steps + 1 := ⟨catalog.size - 1, by omega⟩
  rw [lineage, lineage, hsteps, lineageWithin, hparent]
  dsimp only
  rw [lineageWithin_eq h steps (steps + 1) (by omega) (by omega)]

/-- No lineage has more types above the first than the bound allows. -/
theorem length_lineageWithin_le (catalog : Catalog) (steps : Nat) (id : TypeId) :
    (catalog.lineageWithin steps id).length ≤ steps + 1 := by
  induction steps generalizing id with
  | zero => exact Nat.le_refl _
  | succ steps ih =>
    rw [lineageWithin]
    split
    · simp
    · exact Nat.succ_le_succ (ih _)

/-- What holds of a type whenever it holds of its parent holds of every type. -/
theorem ParentsFirst.induction (h : catalog.ParentsFirst) {motive : TypeId → Prop}
    (hstep : ∀ id, (∀ parent, catalog.IsParent id parent → motive parent) → motive id)
    (id : TypeId) : motive id := by
  refine hstep id fun parent hparent => ?_
  have hlt := h id parent hparent
  exact ParentsFirst.induction h hstep parent
termination_by id.number

/-- A type refines itself and what its parent refines. -/
theorem isSubtype_iff (h : catalog.ParentsFirst) :
    catalog.isSubtype id required = true ↔
      id = required ∨ ∃ parent, catalog.IsParent id parent ∧
        catalog.isSubtype parent required = true := by
  rw [isSubtype, List.contains_iff_mem]
  cases hparent : catalog.parent? id with
  | none =>
    rw [lineage_of_parent?_none hparent, List.mem_singleton, eq_comm]
    simp [IsParent, hparent]
  | some parent =>
    rw [lineage_of_parent h hparent, List.mem_cons, eq_comm, ← List.contains_iff_mem, ← isSubtype]
    simp [IsParent, hparent]

/-! ## The search -/

/-- How far the search for a type above another one has come: it looks at a type, or is done. -/
inductive Search where
  | visiting (id : TypeId)
  | done (answer : Bool)

/-- One pass of the search for `required`: it is done when it has come there, or to a type without a
parent, and else goes on with the parent. -/
def searchStep (catalog : Catalog) (required : TypeId) : Search → Search
  | .visiting id =>
    if id = required then .done true
    else
      match catalog.parent? id with
      | none => .done false
      | some parent => .visiting parent
  | .done answer => .done answer

/-- The search stops with the right answer, after at most one pass for each type of the lineage. -/
theorem exists_searchStep_iterate (h : catalog.ParentsFirst) (id required : TypeId) :
    ∃ passes ≤ (catalog.lineage id).length,
      (catalog.searchStep required)^[passes] (.visiting id) =
        .done (catalog.isSubtype id required) := by
  induction id using h.induction with
  | hstep id ih =>
    cases hparent : catalog.parent? id with
    | none =>
      rw [lineage_of_parent?_none hparent]
      refine ⟨1, Nat.le_refl 1, ?_⟩
      rw [Function.iterate_one, searchStep, hparent, isSubtype, lineage_of_parent?_none hparent]
      by_cases hfound : id = required
      · rw [if_pos hfound, hfound]
        simp
      · rw [if_neg hfound]
        simp [Ne.symm hfound]
    | some parent =>
      rw [lineage_of_parent h hparent, List.length_cons]
      by_cases hfound : id = required
      · refine ⟨1, Nat.succ_le_succ (Nat.zero_le _), ?_⟩
        rw [Function.iterate_one, searchStep, if_pos hfound, (isSubtype_iff h).2 (.inl hfound)]
      -- the first pass goes to the parent, from where the search is the one for the parent
      · obtain ⟨passes, hpasses, hdone⟩ := ih parent hparent
        refine ⟨passes + 1, Nat.succ_le_succ hpasses, ?_⟩
        rw [Function.iterate_succ_apply, searchStep, if_neg hfound, hparent]
        dsimp only
        rw [hdone, isSubtype, isSubtype, lineage_of_parent h hparent, List.contains_cons,
          beq_false_of_ne (Ne.symm hfound), Bool.false_or]

/-! ## The order -/

/-- A type refines exactly the types that are reached from it by going up. -/
theorem isSubtype_iff_reflTransGen (h : catalog.ParentsFirst) :
    catalog.isSubtype id required = true ↔ ReflTransGen catalog.IsParent id required := by
  induction id using h.induction with
  | hstep id ih =>
    rw [isSubtype_iff h, ReflTransGen.cases_head_iff]
    exact or_congr .rfl (exists_congr fun parent => and_congr_right (ih parent))

/-- Every type refines itself. -/
theorem isSubtype_self (h : catalog.ParentsFirst) (id : TypeId) :
    catalog.isSubtype id id = true :=
  (isSubtype_iff h).2 (.inl rfl)

/-- A type refines what the types refine that it refines. -/
theorem isSubtype_trans (h : catalog.ParentsFirst) {first second third : TypeId}
    (hfirst : catalog.isSubtype first second = true)
    (hsecond : catalog.isSubtype second third = true) :
    catalog.isSubtype first third = true := by
  rw [isSubtype_iff_reflTransGen h] at hfirst hsecond ⊢
  exact hfirst.trans hsecond

/-- Of two types that one type refines, one refines the other: a type has one parent at most. -/
theorem isSubtype_total (h : catalog.ParentsFirst) {first second : TypeId}
    (hfirst : catalog.isSubtype id first = true) (hsecond : catalog.isSubtype id second = true) :
    catalog.isSubtype first second = true ∨ catalog.isSubtype second first = true := by
  have hunique : Relator.RightUnique catalog.IsParent := fun _ _ _ hparent hother =>
    Option.some.inj (hparent.symm.trans hother)
  rw [isSubtype_iff_reflTransGen h] at hfirst hsecond
  rw [isSubtype_iff_reflTransGen h, isSubtype_iff_reflTransGen h]
  exact ReflTransGen.total_of_right_unique hunique hfirst hsecond

/-! ## Every history -/

/-- Refinement is an order. After every history of requests, refused ones included, every type has a
greater number than the type that it refines. For all identifiers, declared or not, the search from
parent to parent stops with the answer of `isSubtype`, and this is whether the required type is
reached by going up. A type refines itself, what the types refine that it refines, and no type that
refines it but itself; and of two types that it refines, one refines the other. -/
theorem refinement_is_order (requests : List Request) :
    let catalog := empty.applyAll requests
    (∀ id declared, catalog.get? id = some declared → declared.id = id ∧
        ∀ parent, declared.parent = some parent → parent.number < declared.id.number) ∧
      (∀ id required, ∃ passes ≤ catalog.size + 1,
        (catalog.searchStep required)^[passes] (.visiting id) =
          .done (catalog.isSubtype id required)) ∧
      (∀ id required, catalog.isSubtype id required = true ↔
        ReflTransGen catalog.IsParent id required) ∧
      (∀ id, catalog.isSubtype id id = true) ∧
      (∀ first second third, catalog.isSubtype first second = true →
        catalog.isSubtype second third = true → catalog.isSubtype first third = true) ∧
      (∀ first second, catalog.isSubtype first second = true →
        catalog.isSubtype second first = true → first = second) ∧
      ∀ id first second, catalog.isSubtype id first = true → catalog.isSubtype id second = true →
        catalog.isSubtype first second = true ∨ catalog.isSubtype second first = true := by
  intro catalog
  have h : catalog.ParentsFirst := parentsFirst_applyAll requests
  refine ⟨?parents, ?search, fun _ _ => isSubtype_iff_reflTransGen h, isSubtype_self h,
    fun _ _ _ => isSubtype_trans h, fun _ _ => isSubtype_antisymm h,
    fun _ _ _ => isSubtype_total h⟩
  case parents =>
    intro id declared hid
    obtain rfl := dense_applyAll requests id declared hid
    refine ⟨rfl, fun parent hparent => h declared.id parent ?_⟩
    exact Option.bind_eq_some_iff.2 ⟨declared, hid, hparent⟩
  case search =>
    intro id required
    obtain ⟨passes, hpasses, hdone⟩ := exists_searchStep_iterate h id required
    exact ⟨passes, Nat.le_trans hpasses (length_lineageWithin_le catalog _ id), hdone⟩

end Catalog

namespace Sample

/-- Requests for bytes that are integers that are numbers, with a second name for bytes; a type is
declared twice and another one is declared to refine an unknown one. -/
def requests : List Catalog.Request :=
  [.declare "Number", .refine "Int" ⟨0⟩, .refine "Byte" ⟨1⟩, .refine " Byte " ⟨0⟩,
    .addAlias "Octet" ⟨2⟩, .refine "Lost" .invalid]

/-- The catalog of the sample requests. -/
def catalog : Catalog := Catalog.empty.applyAll requests

end Sample

/-- In the sample catalog bytes are integers and numbers, so that integers can be compared with
numbers. The search for numbers from bytes stops, and so does the one from an identifier under which
nothing is declared. -/
theorem refinement_is_order_of_bytes :
    Sample.catalog.get? ⟨2⟩ = some ⟨⟨2⟩, "Byte", some ⟨1⟩⟩ ∧
      Sample.catalog.isSubtype ⟨2⟩ ⟨1⟩ = true ∧ Sample.catalog.isSubtype ⟨2⟩ ⟨0⟩ = true ∧
      (Sample.catalog.isSubtype ⟨1⟩ ⟨0⟩ = true ∨ Sample.catalog.isSubtype ⟨0⟩ ⟨1⟩ = true) ∧
      (∃ passes ≤ 4, (Sample.catalog.searchStep ⟨0⟩)^[passes] (.visiting ⟨2⟩) = .done true) ∧
      ∃ passes ≤ 4,
        (Sample.catalog.searchStep ⟨0⟩)^[passes] (.visiting .invalid) = .done false := by
  have hint : Sample.catalog.isSubtype ⟨2⟩ ⟨1⟩ = true := by decide +kernel
  have hnumber : Sample.catalog.isSubtype ⟨2⟩ ⟨0⟩ = true := by decide +kernel
  have hlost : Sample.catalog.isSubtype .invalid ⟨0⟩ = false := by decide +kernel
  have hsize : Sample.catalog.size = 3 := by decide +kernel
  obtain ⟨_, hsearch, _, _, _, _, htotal⟩ := Catalog.refinement_is_order Sample.requests
  have hfound := hsearch ⟨2⟩ ⟨0⟩
  have hstopped := hsearch .invalid ⟨0⟩
  rw [← Sample.catalog, hsize] at hfound hstopped
  rw [hnumber] at hfound
  rw [hlost] at hstopped
  exact ⟨by decide +kernel, hint, hnumber, htotal ⟨2⟩ ⟨1⟩ ⟨0⟩ hint hnumber, hfound, hstopped⟩

end Callsite
