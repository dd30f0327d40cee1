import Callsite.Proofs.Binding.Layout

/-!
# Direct accesses

Some accesses take their entry for granted: the function with a key that another table holds, the
type declared at the place of an operand, the last place of a list of arguments. A direct access
has a fault if there is no such entry. An operation that makes its accesses directly has a result or
a fault, and it is `Except.ok` of the plain operation exactly if no access on its way is out of
range.

This module has the accesses themselves and the operations that need no registry: those that map
operands to arguments and lay out a call.
-/

namespace Callsite

/-- Why a direct access has no result. -/
inductive Fault where
  /-- A key that no function has. -/
  | noFunction (index : FunctionIndex)
  /-- A key that no template has. -/
  | noTemplate (id : TemplateId)
  /-- A place beyond the types that are declared. -/
  | noType (place : Nat)
  /-- The last place of an empty list of arguments. -/
  | noLastPlace
  /-- A failure where only a type could be unknown. -/
  | unexpected (failure : ResolveError)
deriving DecidableEq

namespace Direct

/-! ## Accesses -/

section Accesses

variable {α β σ ε δ : Type}

/-- Work goes on with the entry that an access has found. -/
@[simp]
theorem ok_bind (value : α) (next : α → Except Fault δ) :
    (Except.ok value >>= next) = next value := rfl

/-- The entry that a look-up finds, or a fault. -/
def entry (fault : Fault) : Option α → Except Fault α
  | some found => .ok found
  | none => .error fault

/-- A direct access has a result exactly if the look-up finds it. -/
theorem entry_eq_ok_iff {fault : Fault} {found : Option α} {value : α} :
    entry fault found = .ok value ↔ found = some value := by
  cases found <;> simp [entry]

/-- The function with a key. -/
def functionAt (registry : Registry β) (index : FunctionIndex) : Except Fault (Callee β) :=
  entry (.noFunction index) (registry.function? index)

/-- The template with a key. -/
def templateAt (registry : Registry β) (id : TemplateId) : Except Fault Template :=
  entry (.noTemplate id) (registry.template? id)

/-- The type declared at a place. -/
def typeAt (declared : List TypeId) (place : Nat) : Except Fault TypeId :=
  entry (.noType place) declared[place]?

/-- The last place in a list of arguments. -/
def lastPlace (arguments : List Argument) : Except Fault Nat :=
  if arguments.length = 0 then .error .noLastPlace else .ok (arguments.length - 1)

/-- A list of arguments has a last place exactly if it is not empty. -/
theorem lastPlace_eq_ok_iff {arguments : List Argument} {place : Nat} :
    lastPlace arguments = .ok place ↔
      0 < arguments.length ∧ place = arguments.length - 1 := by
  unfold lastPlace
  split
  · rename_i hempty
    simp [hempty]
  · rename_i hne
    rw [Except.ok.injEq, eq_comm, and_iff_right (Nat.pos_of_ne_zero hne)]

/-- Goes on with the value of a success; a failure ends here. What comes next may have a fault. -/
def andThen (answer : Answer σ ε α) (next : α → σ → Except Fault (Answer σ ε δ)) :
    Except Fault (Answer σ ε δ) :=
  match answer with
  | ⟨.ok value, state⟩ => next value state
  | ⟨.error error, state⟩ => .ok ⟨.error error, state⟩

/-- A row of operations has no fault if what comes after each success has none. -/
theorem andThen_eq_ok {answer : Answer σ ε α} {next : α → σ → Except Fault (Answer σ ε δ)}
    {plain : α → σ → Answer σ ε δ}
    (h : ∀ value, answer.result = .ok value →
      next value answer.state = .ok (plain value answer.state)) :
    andThen answer next = .ok (answer.andThen plain) := by
  obtain ⟨result, state⟩ := answer
  cases result with
  | error error => rfl
  | ok value => exact h value rfl

end Accesses

/-! ## Operands -/

/-- The argument at the place of an operand, if there is one. -/
def argumentAt (function : String) (arguments : List Argument) (operand total : Nat) :
    Except ResolveError Argument :=
  match arguments[operand]? with
  | some argument => .ok argument
  | none => .error (.operandOutOfRange function operand total arguments.length)

/-- The argument that an operand stands for: a variadic last one, from its place on, or else the one
at the place of the operand. -/
def argumentForOperand (function : String) (arguments : List Argument) (operand total : Nat) :
    Except Fault (Except ResolveError Argument) :=
  if total ≤ operand then
    .ok (.error (.operandOutOfRange function operand total arguments.length))
  else
    match arguments.getLast? with
    | none => .ok (argumentAt function arguments operand total)
    | some last =>
      if last.isVariadic then do
        let place ← lastPlace arguments
        return if place ≤ operand then .ok last else argumentAt function arguments operand total
      else .ok (argumentAt function arguments operand total)

/-- An operand of a call stands for the argument at its own place, or for a variadic last one from
the place of that on. -/
theorem argumentFor?_eq_ite {arguments : List Argument} {operand total : Nat} :
    argumentFor? arguments operand total =
      if total ≤ operand then none
      else if isVariadic arguments = true ∧ arguments.length - 1 ≤ operand then arguments.getLast?
      else arguments[operand]? := by
  unfold argumentFor? argumentPosition? fixedCount
  by_cases htotal : total ≤ operand
  · rw [if_pos htotal, if_pos htotal, Option.bind_none]
  · rw [if_neg htotal, if_neg htotal]
    by_cases hvariadic : isVariadic arguments = true
    · simp only [hvariadic, ↓reduceIte, true_and]
      by_cases hlast : arguments.length - 1 ≤ operand
      · rw [if_neg (Nat.not_lt.2 hlast), if_pos hlast, Option.bind_some, List.getLast?_eq_getElem?]
      · rw [if_pos (Nat.not_le.1 hlast), if_neg hlast, Option.bind_some]
    · simp only [hvariadic, Bool.false_eq_true, ↓reduceIte, false_and]
      by_cases hfixed : operand < arguments.length
      · rw [if_pos hfixed, Option.bind_some]
      · rw [if_neg hfixed, Option.bind_none, List.getElem?_eq_none (Nat.le_of_not_lt hfixed)]

/-- The argument of an operand is found without a fault, whatever the arguments are. -/
theorem argumentForOperand_eq_ok (function : String) (arguments : List Argument)
    (operand total : Nat) :
    argumentForOperand function arguments operand total =
      .ok (Callsite.argumentForOperand function arguments operand total) := by
  rw [argumentForOperand, Callsite.argumentForOperand, argumentFor?_eq_ite]
  by_cases htotal : total ≤ operand
  · rw [if_pos htotal, if_pos htotal]
  · rw [if_neg htotal, if_neg htotal]
    cases hlast : arguments.getLast? with
    | none =>
      have hfixed : isVariadic arguments = false := by rw [isVariadic, hlast]; rfl
      simp only [hfixed, Bool.false_eq_true, false_and, ↓reduceIte]
      rfl
    | some last =>
      have hvariadic : isVariadic arguments = last.isVariadic := by rw [isVariadic, hlast]; rfl
      -- a list with a last element is not empty, so that it has a last place
      have hplace : lastPlace arguments = .ok (arguments.length - 1) := by
        refine lastPlace_eq_ok_iff.2 ⟨List.length_pos_iff.2 ?_, rfl⟩
        rintro rfl
        exact absurd hlast (by simp)
      by_cases htail : last.isVariadic = true
      · simp only [hvariadic, htail, ↓reduceIte, true_and, hplace, ok_bind]
        by_cases hbeyond : arguments.length - 1 ≤ operand
        · rw [if_pos hbeyond, if_pos hbeyond]
          rfl
        · rw [if_neg hbeyond, if_neg hbeyond]
          rfl
      · simp only [hvariadic, htail, Bool.false_eq_true, false_and, ↓reduceIte]
        rfl

/-! ## Layouts -/

section Layouts

variable {β : Type} {types : TypeService} {callee : Callee β} {declared runtime : List TypeId}

/-- The number of operands that the arguments before a variadic last one take. -/
def fixedCount (arguments : List Argument) : Except Fault Nat :=
  if isVariadic arguments then lastPlace arguments else .ok arguments.length

/-- The slot of an operand: the argument that the operand stands for, with the type declared at the
place of the operand, or at the last place for an operand beyond it. -/
def slot (types : TypeService) (callee : Callee β) (declared runtime : List TypeId)
    (given : TypeId) (operand : Nat) : Except Fault (Except ResolveError Slot) := do
  let last ← lastPlace callee.arguments
  match ← argumentForOperand callee.name callee.arguments operand runtime.length with
  | .error failure => return .error failure
  | .ok argument =>
    let wanted ← typeAt declared (min operand last)
    return if types.fits given wanted then .ok ⟨argument.name, argument.direction, wanted⟩
      else .error (callee.mismatch types runtime)

/-- The slots of operands, up to the first that has none. -/
def slots (types : TypeService) (callee : Callee β) (declared runtime : List TypeId) :
    List (TypeId × Nat) → Except Fault (Except ResolveError Layout)
  | [] => .ok (.ok [])
  | (given, operand) :: rest => do
    match ← slot types callee declared runtime given operand with
    | .error failure => return .error failure
    | .ok first => return (← slots types callee declared runtime rest).map (first :: ·)

/-- The layout of a call by the function's own arguments, whose types are `declared`. -/
def layout (types : TypeService) (callee : Callee β) (declared runtime : List TypeId) :
    Except Fault (Except ResolveError Layout) := do
  let fixed ← fixedCount callee.arguments
  if runtime.length < fixed ∨ (callee.isVariadic = false ∧ runtime.length ≠ fixed) then
    return .error (callee.mismatch types runtime)
  else slots types callee declared runtime runtime.zipIdx

/-- The fixed arguments are counted without a fault, for a variadic argument is one. -/
theorem fixedCount_eq_ok (arguments : List Argument) :
    fixedCount arguments = .ok (Callsite.fixedCount arguments) := by
  unfold fixedCount Callsite.fixedCount
  by_cases hvariadic : isVariadic arguments = true
  · rw [if_pos hvariadic, if_pos hvariadic]
    exact lastPlace_eq_ok_iff.2 ⟨length_pos_of_isVariadic hvariadic, rfl⟩
  · rw [if_neg hvariadic, if_neg hvariadic]

/-- A slot has no fault if there are arguments and one type is declared for each. -/
theorem slot_eq_ok (hdeclared : declared.length = callee.arguments.length)
    (hpos : 0 < callee.arguments.length) (given : TypeId) (operand : Nat) :
    slot types callee declared runtime given operand =
      .ok (callee.slot types declared runtime given operand) := by
  rw [slot, Callee.slot, lastPlace_eq_ok_iff.2 ⟨hpos, rfl⟩, ok_bind, argumentForOperand_eq_ok,
    ok_bind]
  have hlt : min operand (callee.arguments.length - 1) < declared.length := by omega
  have hwanted := List.getElem?_eq_getElem hlt
  have htype : typeAt declared (min operand (callee.arguments.length - 1)) = .ok _ :=
    entry_eq_ok_iff.2 hwanted
  rw [hwanted]
  cases hargument : Callsite.argumentForOperand callee.name callee.arguments operand
      runtime.length with
  | error failure => rfl
  | ok argument =>
    dsimp only
    rw [htype, ok_bind]
    rfl

/-- Slots have no fault if there are arguments and one type is declared for each. -/
theorem slots_eq_ok (hdeclared : declared.length = callee.arguments.length)
    (hpos : 0 < callee.arguments.length) (operands : List (TypeId × Nat)) :
    slots types callee declared runtime operands =
      .ok (operands.mapM fun (given, operand) =>
        callee.slot types declared runtime given operand) := by
  induction operands with
  | nil => rfl
  | cons operand rest ih =>
    obtain ⟨given, place⟩ := operand
    rw [slots, slot_eq_ok hdeclared hpos, ok_bind, List.mapM_cons]
    dsimp only
    cases callee.slot types declared runtime given place with
    | error failure => rfl
    | ok first =>
      dsimp only
      rw [ih, ok_bind]
      cases rest.mapM fun (given, operand) =>
          callee.slot types declared runtime given operand with
      | error failure => rfl
      | ok others => rfl

/-- A layout has no fault if one type is declared for each argument: without arguments there is no
operand that could need a slot. -/
theorem layout_eq_ok (hdeclared : declared.length = callee.arguments.length) :
    layout types callee declared runtime = .ok (callee.layout types declared runtime) := by
  rw [layout, fixedCount_eq_ok, ok_bind]
  have hcount : (runtime.length < Callsite.fixedCount callee.arguments ∨
      (callee.isVariadic = false ∧ runtime.length ≠ Callsite.fixedCount callee.arguments)) ↔
        admitsCount callee.arguments runtime.length = false := by
    unfold admitsCount Callee.isVariadic
    cases hvariadic : isVariadic callee.arguments with
    | true => simp
    | false =>
      simp only [Bool.false_eq_true, ↓reduceIte, true_and, beq_eq_false_iff_ne]
      omega
  simp only [hcount]
  by_cases hadmits : admitsCount callee.arguments runtime.length = true
  · rw [if_neg (by simp [hadmits]), Callee.layout, if_pos hadmits]
    by_cases hpos : 0 < callee.arguments.length
    · exact slots_eq_ok hdeclared hpos _
    · have hempty : callee.arguments = [] := List.eq_nil_of_length_eq_zero (by omega)
      have hnone : runtime = [] := by
        rw [hempty] at hadmits
        simpa [admitsCount, isVariadic, Callsite.fixedCount] using hadmits
      rw [hnone]
      rfl
  · rw [if_pos (by simpa using hadmits), Callee.layout, if_neg hadmits]
    rfl

end Layouts

end Direct

end Callsite
