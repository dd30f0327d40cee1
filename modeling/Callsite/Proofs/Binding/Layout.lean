import Callsite.Registry.Binding
import Callsite.Registry.Lookup
import Mathlib.Data.List.Forall2

/-!
# Layouts, operand by operand

A layout is made in one pass over the operands. `Callee.layout_eq_ok_iff` says what is made: as
many slots as there are operands, each the slot of its operand. `Callee.exists_layout_iff` says
when one is made: the number of operands is admitted and each of them fits the type declared at the
argument that it stands for.
-/

namespace Callsite

variable {β : Type}

/-! ## Maps over a list that may fail -/

section Partial

variable {α γ ε : Type} {f : α → Except ε γ}

/-- A map that may fail succeeds with the values of the elements, in order. -/
theorem mapM_eq_ok_iff {xs : List α} {ys : List γ} :
    xs.mapM f = .ok ys ↔ List.Forall₂ (fun x y => f x = .ok y) xs ys := by
  induction xs generalizing ys with
  | nil =>
    rw [List.mapM_nil, List.forall₂_nil_left_iff]
    exact ⟨fun h => (Except.ok.inj h).symm, fun h => congrArg Except.ok h.symm⟩
  | cons x xs ih =>
    rw [List.mapM_cons, List.forall₂_cons_left_iff]
    constructor
    · intro h
      cases hx : f x with
      | error error =>
        rw [hx] at h
        exact absurd h (by simp [bind, Except.bind])
      | ok y =>
        cases hxs : xs.mapM f with
        | error error =>
          rw [hx, hxs] at h
          exact absurd h (by simp [bind, Except.bind])
        | ok rest =>
          rw [hx, hxs] at h
          exact ⟨y, rest, rfl, ih.1 hxs, (Except.ok.inj h).symm⟩
    · rintro ⟨y, rest, hy, hrest, rfl⟩
      rw [hy, ih.2 hrest]
      rfl

/-- A map that may fail succeeds exactly if it does at each element. -/
theorem exists_mapM_eq_ok_iff {xs : List α} :
    (∃ ys, xs.mapM f = .ok ys) ↔ ∀ x ∈ xs, ∃ y, f x = .ok y := by
  simp only [mapM_eq_ok_iff]
  induction xs with
  | nil => exact ⟨fun _ _ hx => absurd hx List.not_mem_nil, fun _ => ⟨[], .nil⟩⟩
  | cons x xs ih =>
    rw [List.forall_mem_cons, ← ih]
    constructor
    · rintro ⟨_, hy | ⟨hy, hrest⟩⟩
      exact ⟨⟨_, hy⟩, _, hrest⟩
    · rintro ⟨⟨y, hy⟩, ys, hrest⟩
      exact ⟨y :: ys, .cons hy hrest⟩

/-- A map that may fail only fails as it does at some element. -/
theorem exists_eq_error_of_mapM {xs : List α} {error : ε} (h : xs.mapM f = .error error) :
    ∃ x ∈ xs, f x = .error error := by
  induction xs with
  | nil => exact absurd h (by simp [pure, Except.pure])
  | cons x xs ih =>
    rw [List.mapM_cons] at h
    cases hx : f x with
    | error other =>
      rw [hx] at h
      obtain rfl : other = error := Except.error.inj h
      exact ⟨x, List.mem_cons_self, hx⟩
    | ok y =>
      cases hxs : xs.mapM f with
      | error other =>
        rw [hx, hxs] at h
        obtain rfl : other = error := Except.error.inj h
        obtain ⟨x', hx', herror⟩ := ih hxs
        exact ⟨x', List.mem_cons_of_mem _ hx', herror⟩
      | ok ys =>
        rw [hx, hxs] at h
        exact absurd h (by simp [bind, Except.bind, pure, Except.pure])

/-- Two lists are related position by position if they have one length and are at each place. -/
theorem forall₂_zipIdx_iff {R : α × Nat → γ → Prop} {xs : List α} {ys : List γ} :
    List.Forall₂ R xs.zipIdx ys ↔ ys.length = xs.length ∧
      ∀ (i : Nat) x y, xs[i]? = some x → ys[i]? = some y → R (x, i) y := by
  have hlength : xs.zipIdx.length = ys.length ↔ ys.length = xs.length := by
    rw [List.length_zipIdx, eq_comm]
  rw [List.forall₂_iff_get]
  refine and_congr hlength ⟨?_, ?_⟩
  · intro h i x y hx hy
    obtain ⟨hi, rfl⟩ := List.getElem?_eq_some_iff.1 hx
    obtain ⟨hi', rfl⟩ := List.getElem?_eq_some_iff.1 hy
    have hrelated := h i (by rwa [List.length_zipIdx]) hi'
    simpa using hrelated
  · intro h i hi hi'
    rw [List.length_zipIdx] at hi
    have hrelated := h i _ _ (List.getElem?_eq_getElem hi) (List.getElem?_eq_getElem hi')
    simpa using hrelated

end Partial

/-! ## The argument of an operand -/

/-- An operand has an argument exactly if its position has one. -/
theorem argumentForOperand_eq_ok_iff {function : String} {arguments : List Argument}
    {operand total : Nat} {argument : Argument} :
    argumentForOperand function arguments operand total = .ok argument ↔
      ∃ position, argumentPosition? arguments operand total = some position ∧
        arguments[position]? = some argument := by
  rw [argumentForOperand, argumentFor?, ← Option.bind_eq_some_iff]
  split
  · rename_i found hfound
    rw [hfound, Option.some_inj]
    exact ⟨Except.ok.inj, congrArg _⟩
  · rename_i hnone
    rw [hnone]
    simp

/-- There is an argument if the last one is variadic. -/
theorem length_pos_of_isVariadic {arguments : List Argument} (h : isVariadic arguments = true) :
    0 < arguments.length := by
  refine List.length_pos_iff.2 ?_
  rintro rfl
  exact absurd h (by simp [isVariadic])

/-- An operand of a call stands for an argument if there is one at its place or the last one is
variadic. The argument is at the place of the operand, or at the last place for an operand beyond
it. -/
theorem argumentPosition?_eq_some_iff {arguments : List Argument} {operand total position : Nat} :
    argumentPosition? arguments operand total = some position ↔
      operand < total ∧ (operand < arguments.length ∨ isVariadic arguments = true) ∧
        position = min operand (arguments.length - 1) := by
  unfold argumentPosition? fixedCount
  cases hvariadic : isVariadic arguments with
  | true =>
    have hpos := length_pos_of_isVariadic hvariadic
    simp only [↓reduceIte, or_true, true_and]
    split_ifs with htotal hfixed
    · exact ⟨nofun, by omega⟩
    · rw [Option.some.injEq]
      omega
    · rw [Option.some.injEq]
      omega
  | false =>
    simp only [Bool.false_eq_true, ↓reduceIte, or_false]
    split_ifs with htotal hfixed
    · exact ⟨nofun, by omega⟩
    · rw [Option.some.injEq]
      omega
    · exact ⟨nofun, by omega⟩

/-- The argument of an operand is at the place of the operand, or at the last place for an operand
beyond it. -/
theorem argumentPosition?_eq_min {arguments : List Argument} {operand total position : Nat}
    (h : argumentPosition? arguments operand total = some position) :
    position = min operand (arguments.length - 1) :=
  (argumentPosition?_eq_some_iff.1 h).2.2

/-- In a call with an admitted number of operands each operand stands for an argument. -/
theorem exists_argumentPosition?_of_admitsCount {arguments : List Argument} {operand total : Nat}
    (hadmits : admitsCount arguments total = true) (hlt : operand < total) :
    ∃ position, argumentPosition? arguments operand total = some position := by
  rw [argumentPosition?, if_neg (Nat.not_le.2 hlt)]
  by_cases hfixed : operand < fixedCount arguments
  · exact ⟨operand, if_pos hfixed⟩
  · rw [if_neg hfixed]
    by_cases hvariadic : isVariadic arguments = true
    · exact ⟨fixedCount arguments, if_pos hvariadic⟩
    · rw [admitsCount, if_neg hvariadic, beq_iff_eq] at hadmits
      exact absurd (hadmits ▸ hlt) hfixed

/-- Whether a call has as many operands as there are arguments, or only at least as many as there
are before a variadic last one. -/
theorem admitsCount_iff {arguments : List Argument} {total : Nat} :
    admitsCount arguments total = true ↔
      if isVariadic arguments then arguments.length - 1 ≤ total else total = arguments.length := by
  unfold admitsCount fixedCount
  split
  · exact decide_eq_true_iff
  · exact beq_iff_eq

/-- A type fits where it is wanted or where it refines what is wanted. -/
theorem TypeService.fits_eq_true_iff {types : TypeService} {given wanted : TypeId} :
    types.fits given wanted = true ↔ given = wanted ∨ types.isSubtype given wanted = true := by
  rw [TypeService.fits, Bool.or_eq_true, beq_iff_eq]

/-- Whether a layout is that of a call by the function's own arguments of the declared types: there
is one slot for each operand, it has the name, the direction and the type of the argument that the
operand stands for, and the operand is of that type or refines it. -/
structure Callee.LaidOut (types : TypeService) (callee : Callee β) (declared runtime : List TypeId)
    (layout : Layout) : Prop where
  length_eq : layout.length = runtime.length
  slot : ∀ operand given, runtime[operand]? = some given →
    ∃ slot position argument, layout[operand]? = some slot ∧
      argumentPosition? callee.arguments operand runtime.length = some position ∧
        callee.arguments[position]? = some argument ∧
          argumentForOperand callee.name callee.arguments operand runtime.length = .ok argument ∧
            slot.name = argument.name ∧ slot.direction = argument.direction ∧
              declared[position]? = some slot.typeId ∧
                (given = slot.typeId ∨ types.isSubtype given slot.typeId = true)

/-! ## Slots -/

namespace Callee

variable {types : TypeService} {callee : Callee β} {declared runtime : List TypeId}

/-- The slot of an operand has the name and the direction of the argument that the operand stands
for, and the type declared for that very argument, which the operand fits. -/
theorem slot_eq_ok_iff {operand : Nat} {given : TypeId} {slot : Slot} :
    callee.slot types declared runtime given operand = .ok slot ↔
      ∃ position argument,
        argumentPosition? callee.arguments operand runtime.length = some position ∧
          callee.arguments[position]? = some argument ∧ declared[position]? = some slot.typeId ∧
            types.fits given slot.typeId = true ∧ slot.name = argument.name ∧
              slot.direction = argument.direction := by
  constructor
  · intro h
    unfold Callee.slot at h
    split at h
    · exact absurd h (by simp)
    · rename_i argument hargument
      obtain ⟨position, hposition, hfound⟩ := argumentForOperand_eq_ok_iff.1 hargument
      -- the type is looked up at a place of its own, which is that of the argument
      rw [← argumentPosition?_eq_min hposition] at h
      split at h
      · exact absurd h (by simp)
      · rename_i wanted hwanted
        split at h
        · rename_i hfits
          obtain rfl := Except.ok.inj h
          exact ⟨position, argument, hposition, hfound, hwanted, hfits, rfl, rfl⟩
        · exact absurd h (by simp)
  · rintro ⟨position, argument, hposition, hfound, hwanted, hfits, hname, hdirection⟩
    have hargument : argumentForOperand callee.name callee.arguments operand runtime.length =
        .ok argument := argumentForOperand_eq_ok_iff.2 ⟨position, hposition, hfound⟩
    rw [Callee.slot, hargument, ← argumentPosition?_eq_min hposition, hwanted]
    dsimp only
    rw [if_pos hfits, ← hname, ← hdirection]

/-- An operand has a slot exactly if it fits the type declared at its position. -/
theorem exists_slot_iff {operand : Nat} {given : TypeId} :
    (∃ slot, callee.slot types declared runtime given operand = .ok slot) ↔
      ∃ position wanted,
        argumentPosition? callee.arguments operand runtime.length = some position ∧
          declared[position]? = some wanted ∧ types.fits given wanted = true := by
  constructor
  · rintro ⟨slot, hslot⟩
    obtain ⟨position, _, hposition, _, hwanted, hfits, _⟩ := slot_eq_ok_iff.1 hslot
    exact ⟨position, slot.typeId, hposition, hwanted, hfits⟩
  · rintro ⟨position, wanted, hposition, hwanted, hfits⟩
    have hargument := List.getElem?_eq_getElem (argumentPosition?_lt hposition)
    exact ⟨⟨_, _, wanted⟩, slot_eq_ok_iff.2
      ⟨position, _, hposition, hargument, hwanted, hfits, rfl, rfl⟩⟩

/-! ## Layouts -/

/-- A layout has one slot for each operand of a call with an admitted number of operands. -/
theorem layout_eq_ok_iff {layout : Layout} :
    callee.layout types declared runtime = .ok layout ↔
      admitsCount callee.arguments runtime.length = true ∧ layout.length = runtime.length ∧
        ∀ operand given slot, runtime[operand]? = some given → layout[operand]? = some slot →
          callee.slot types declared runtime given operand = .ok slot := by
  unfold Callee.layout
  split
  · rename_i hcount
    rw [mapM_eq_ok_iff, forall₂_zipIdx_iff, and_iff_right hcount]
  · rename_i hcount
    simp [hcount]

/-- The only failure of a layout is that the function does not take the operands. -/
theorem eq_mismatch_of_layout {failure : ResolveError}
    (h : callee.layout types declared runtime = .error failure) :
    failure = callee.mismatch types runtime := by
  unfold Callee.layout at h
  split at h
  · rename_i hadmits
    obtain ⟨⟨given, operand⟩, hmem, hslot⟩ := exists_eq_error_of_mapM h
    have hgiven := List.mk_mem_zipIdx_iff_getElem?.1 hmem
    have hlt := (List.getElem?_eq_some_iff.1 hgiven).1
    -- an operand of an admitted call stands for an argument, so that its slot fails by its type
    obtain ⟨position, hposition⟩ := exists_argumentPosition?_of_admitsCount hadmits hlt
    have hargument : argumentForOperand callee.name callee.arguments operand runtime.length =
        .ok _ := argumentForOperand_eq_ok_iff.2
      ⟨position, hposition, List.getElem?_eq_getElem (argumentPosition?_lt hposition)⟩
    dsimp only at hslot
    rw [slot, hargument] at hslot
    dsimp only at hslot
    split at hslot
    · exact (Except.error.inj hslot).symm
    · split at hslot
      · exact absurd hslot (by simp)
      · exact (Except.error.inj hslot).symm
  · exact (Except.error.inj h).symm

/-- A layout that is made is that of a call by the function's own arguments. -/
theorem laidOut_of_layout {layout : Layout}
    (h : callee.layout types declared runtime = .ok layout) :
    callee.LaidOut types declared runtime layout := by
  obtain ⟨_, hlength, hslots⟩ := layout_eq_ok_iff.1 h
  refine ⟨hlength, fun operand given hgiven => ?_⟩
  have hlt : operand < layout.length := by
    rw [hlength]
    exact (List.getElem?_eq_some_iff.1 hgiven).1
  have hslot := List.getElem?_eq_getElem hlt
  obtain ⟨position, argument, hposition, hargument, hwanted, hfits, hname, hdirection⟩ :=
    slot_eq_ok_iff.1 (hslots operand given _ hgiven hslot)
  have hoperand : argumentForOperand callee.name callee.arguments operand runtime.length =
      .ok argument := argumentForOperand_eq_ok_iff.2 ⟨position, hposition, hargument⟩
  have hcases := TypeService.fits_eq_true_iff.1 hfits
  exact ⟨_, position, argument, hslot, hposition, hargument, hoperand, hname, hdirection, hwanted,
    hcases⟩

/-- A layout is made exactly if the number of operands is admitted and each of them fits. -/
theorem exists_layout_iff :
    (∃ layout, callee.layout types declared runtime = .ok layout) ↔
      admitsCount callee.arguments runtime.length = true ∧
        ∀ operand given, runtime[operand]? = some given →
          ∃ position wanted,
            argumentPosition? callee.arguments operand runtime.length = some position ∧
              declared[position]? = some wanted ∧ types.fits given wanted = true := by
  unfold Callee.layout
  split
  · rename_i hcount
    rw [exists_mapM_eq_ok_iff, and_iff_right hcount]
    constructor
    · intro h operand given hgiven
      exact exists_slot_iff.1 (h (given, operand) (List.mk_mem_zipIdx_iff_getElem?.2 hgiven))
    · rintro h ⟨given, operand⟩ hmem
      exact exists_slot_iff.2 (h operand given (List.mk_mem_zipIdx_iff_getElem?.1 hmem))
  · rename_i hcount
    simp [hcount]

end Callee

end Callsite
