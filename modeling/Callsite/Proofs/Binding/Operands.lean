import Callsite.Proofs.Binding.Layout
import Callsite.Proofs.Memory.Provenance

/-!
# Operands and their arguments

`argumentPosition?_eq_some_iff` says which operands stand for an argument, and for which: the one at
the place of the operand, or the last one for an operand beyond it. From it follows that the
operands of a call are parted among the arguments: a fixed argument has its own operand and no
other, a variadic one has all operands from its place on.

An operand has the name of its argument unless the factory of the function gives it one. So that it
can be told whether a factory is asked at all, `Registry.argumentNameAsking` names an operand where
asking is a computation in a monad. `Registry.argumentName` is what it comes to if asking does
nothing but answer.
-/

namespace Callsite

variable {β : Type}

/-! ## Places -/

section Places

variable {arguments : List Argument} {argument : Argument} {operand total position : Nat}

/-- Whether the last argument is variadic is told by the argument at the last place. -/
theorem isVariadic_of_getElem? (h : arguments[arguments.length - 1]? = some argument) :
    isVariadic arguments = argument.isVariadic := by
  rw [isVariadic, List.getLast?_eq_getElem?, h]
  rfl

/-- A later operand does not stand for an earlier argument. -/
theorem argumentPosition?_mono {later other place : Nat} (hle : operand ≤ later)
    (h : argumentPosition? arguments operand total = some position)
    (hlater : argumentPosition? arguments later other = some place) : position ≤ place := by
  rw [argumentPosition?_eq_some_iff] at h hlater
  omega

/-- A fixed argument has the operand at its place and no other. -/
theorem argumentPosition?_iff_of_fixed (hargument : arguments[position]? = some argument)
    (hfixed : argument.isVariadic = false) :
    argumentPosition? arguments operand total = some position ↔
      operand = position ∧ operand < total := by
  have hlt := (List.getElem?_eq_some_iff.1 hargument).1
  have hlast : isVariadic arguments = true → position ≠ arguments.length - 1 := by
    rintro hvariadic rfl
    rw [isVariadic_of_getElem? hargument, hfixed] at hvariadic
    exact absurd hvariadic (by simp)
  rw [argumentPosition?_eq_some_iff]
  by_cases hvariadic : isVariadic arguments = true
  · have hne := hlast hvariadic
    simp only [hvariadic, or_true, true_and]
    omega
  · simp only [hvariadic, Bool.false_eq_true, or_false]
    omega

/-- A variadic argument at the last place has all operands from its place on. -/
theorem argumentPosition?_iff_of_variadic (hargument : arguments[position]? = some argument)
    (hlast : position + 1 = arguments.length) (hvariadic : argument.isVariadic = true) :
    argumentPosition? arguments operand total = some position ↔
      position ≤ operand ∧ operand < total := by
  obtain rfl : position = arguments.length - 1 := by omega
  have htail : isVariadic arguments = true := (isVariadic_of_getElem? hargument).trans hvariadic
  rw [argumentPosition?_eq_some_iff]
  simp only [htail, or_true, true_and]
  omega

end Places

/-! ## Arguments -/

section Arguments

variable {function : String} {arguments : List Argument} {operand total : Nat}

/-- An operand stands for the argument at its place, or for the last one, under the conditions under
which it stands for any. -/
theorem argumentForOperand_eq_ok_iff_min {argument : Argument} :
    argumentForOperand function arguments operand total = .ok argument ↔
      operand < total ∧ (operand < arguments.length ∨ isVariadic arguments = true) ∧
        arguments[min operand (arguments.length - 1)]? = some argument := by
  rw [argumentForOperand_eq_ok_iff]
  simp only [argumentPosition?_eq_some_iff, and_assoc, exists_and_left, exists_eq_left]

/-- The operands of a call that stand for an argument. -/
theorem exists_argumentForOperand_iff :
    (∃ argument, argumentForOperand function arguments operand total = .ok argument) ↔
      operand < total ∧ (operand < arguments.length ∨ isVariadic arguments = true) := by
  simp only [argumentForOperand_eq_ok_iff_min, exists_and_left]
  refine and_congr_right fun _ => and_iff_left_of_imp fun hdeclared => ?_
  have hpos : 0 < arguments.length :=
    hdeclared.elim (fun hlt => by omega) length_pos_of_isVariadic
  exact ⟨_, List.getElem?_eq_getElem (by omega)⟩

/-- An operand without an argument is reported with the numbers of operands and arguments. -/
theorem eq_operandOutOfRange {failure : ResolveError}
    (h : argumentForOperand function arguments operand total = .error failure) :
    failure = .operandOutOfRange function operand total arguments.length := by
  unfold argumentForOperand at h
  split at h
  · exact absurd h (by simp)
  · exact (Except.error.inj h).symm

/-- An operand for which no argument is found has no place among the arguments. -/
theorem argumentPosition?_eq_none_of_error {failure : ResolveError}
    (h : argumentForOperand function arguments operand total = .error failure) :
    argumentPosition? arguments operand total = none := by
  cases hposition : argumentPosition? arguments operand total with
  | none => rfl
  | some position =>
    have hfound : argumentForOperand function arguments operand total = .ok _ :=
      argumentForOperand_eq_ok_iff.2
        ⟨position, hposition, List.getElem?_eq_getElem (argumentPosition?_lt hposition)⟩
    rw [h] at hfound
    exact absurd hfound (by simp)

/-- Which argument an operand of a call stands for does not depend on the number of operands. -/
theorem toOption_argumentForOperand_eq {other : Nat} (htotal : operand < total)
    (hother : operand < other) :
    (argumentForOperand function arguments operand total).toOption =
      (argumentForOperand function arguments operand other).toOption := by
  have hfound (number : Nat) : (argumentForOperand function arguments operand number).toOption =
      argumentFor? arguments operand number := by
    unfold argumentForOperand
    cases argumentFor? arguments operand number with
    | none => rfl
    | some argument => rfl
  rw [hfound, hfound]
  unfold argumentFor? argumentPosition?
  rw [if_neg (Nat.not_le.2 htotal), if_neg (Nat.not_le.2 hother)]

end Arguments

/-! ## Names -/

namespace Registry

variable {registry : Registry β} {callee : Callee β} {operand total : Nat}

/-- Whether the factory of a function gives a name to an operand of a call. -/
def GivesName (registry : Registry β) (callee : Callee β) (operand total : Nat) (name : String) :
    Prop :=
  operand < total ∧ ∃ id entry, callee.owner = .factory id ∧ registry.factory? id = some entry ∧
    entry.factory.argumentName? operand total = some name

/-- The name of an operand of a function, where a factory is asked by a computation. -/
def argumentNameAsking {m : Type → Type} [Monad m]
    (ask : Factory β → (operand total : Nat) → m (Option String)) (registry : Registry β)
    (callee : Callee β) (operand total : Nat) : m (Except ResolveError String) :=
  let declared := (argumentForOperand callee.name callee.arguments operand total).map (·.name)
  match callee.owner with
  | .factory id =>
    if operand < total then
      match registry.factory? id with
      | some entry => do
        let given ← ask entry.factory operand total
        return given.elim declared .ok
      | none => return declared
    else return declared
  | .nobody | .struct _ => return declared

/-- A factory gives a name exactly if it is that of the function and names an operand of the
call. -/
theorem factoryArgumentName?_eq_some_iff {name : String} :
    registry.factoryArgumentName? callee operand total = some name ↔
      registry.GivesName callee operand total name := by
  unfold factoryArgumentName? GivesName
  cases callee.owner with
  | nobody => simp
  | struct id => simp
  | factory id =>
    by_cases hlt : operand < total
    · simp [hlt, Option.bind_eq_some_iff]
    · simp [hlt]

/-- The name that a factory gives is the name of the operand. -/
theorem argumentName_of_givesName {name : String}
    (h : registry.GivesName callee operand total name) :
    registry.argumentName callee operand total = .ok name := by
  rw [argumentName, factoryArgumentName?_eq_some_iff.2 h]

/-- An operand that is given no name has that of its argument, if it stands for one. -/
theorem argumentName_of_not_givesName (h : ∀ name, ¬ registry.GivesName callee operand total name) :
    registry.argumentName callee operand total =
      (argumentForOperand callee.name callee.arguments operand total).map (·.name) := by
  have hnone : registry.factoryArgumentName? callee operand total = none :=
    Option.eq_none_iff_forall_ne_some.2 fun name hname =>
      h name (factoryArgumentName?_eq_some_iff.1 hname)
  rw [argumentName, hnone]

/-- A function that belongs to a factory belongs to a registered one. -/
theorem WellFormed.exists_factory? (h : registry.WellFormed) {index : FunctionIndex}
    (hcallee : registry.function? index = some callee) {id : FactoryId}
    (howner : callee.owner = .factory id) : ∃ entry, registry.factory? id = some entry := by
  have hknown := h.owner_known hcallee
  rw [howner] at hknown
  exact ⟨_, List.getElem?_eq_getElem hknown⟩

section Asking

variable {m : Type → Type} [Monad m]

/-- The factory of a function is asked once for the name of an operand of a call. -/
theorem argumentNameAsking_of_lt {id : FactoryId} {entry : FactoryEntry β}
    (howner : callee.owner = .factory id) (hentry : registry.factory? id = some entry)
    (h : operand < total) (ask : Factory β → (operand total : Nat) → m (Option String)) :
    registry.argumentNameAsking ask callee operand total = do
      let given ← ask entry.factory operand total
      return given.elim
        ((argumentForOperand callee.name callee.arguments operand total).map (·.name)) .ok := by
  unfold argumentNameAsking
  rw [howner]
  dsimp only
  rw [if_pos h, hentry]

/-- Beyond the operands of a call no factory is asked: naming such an operand is no computation. -/
theorem argumentNameAsking_of_le (h : total ≤ operand)
    (ask : Factory β → (operand total : Nat) → m (Option String)) :
    registry.argumentNameAsking ask callee operand total =
      pure ((argumentForOperand callee.name callee.arguments operand total).map (·.name)) := by
  unfold argumentNameAsking
  cases callee.owner with
  | nobody => rfl
  | struct id => rfl
  | factory id => exact if_neg (Nat.not_lt.2 h)

/-- If asking does nothing but answer, naming an operand does nothing but name it. -/
theorem argumentNameAsking_pure [LawfulMonad m] (registry : Registry β) (callee : Callee β)
    (operand total : Nat) :
    registry.argumentNameAsking
        (fun factory operand total => pure (factory.argumentName? operand total)) callee operand
        total =
      (pure (registry.argumentName callee operand total) : m (Except ResolveError String)) := by
  unfold argumentNameAsking argumentName factoryArgumentName?
  cases callee.owner with
  | nobody => rfl
  | struct id => rfl
  | factory id =>
    dsimp only
    by_cases hlt : operand < total
    · rw [if_pos hlt, if_pos hlt]
      cases registry.factory? id with
      | none => rfl
      | some entry =>
        rw [Option.bind_some]
        dsimp only
        rw [pure_bind]
        cases entry.factory.argumentName? operand total with
        | none => rfl
        | some name => rfl
    · rw [if_neg hlt, if_neg hlt]

end Asking

end Registry

/-! ## Registered functions -/

/-- The operands of the calls of a registered function are parted among its arguments. An operand
stands for an argument exactly if it is one of the call and not beyond the arguments, or beyond them
when the last one is variadic. It stands for the argument at its place, or for the last one, however
many operands there are. Later operands do not stand for earlier arguments, a fixed argument has its
own operand only, and a variadic one, which is the last, has all from its place on.

An operand is named by the factory of the function if there is one and it gives a name, also to
operands beyond the arguments. Any other operand has the name of its argument, if it stands for one.
The factory is asked once. What is not an operand of the call is refused, and no factory is asked
for its name. -/
theorem operands_parted_and_named {types : TypeService} {registry : Registry β} {opened : Memory β}
    (h : registry.Opened types opened) {index : FunctionIndex} {callee : Callee β}
    (hcallee : registry.function? index = some callee) :
    let arity := callee.arguments.length
    let find := argumentForOperand callee.name callee.arguments
    let place := argumentPosition? callee.arguments
    (∀ operand total,
      ((∃ argument, find operand total = .ok argument) ↔
        operand < total ∧ (operand < arity ∨ callee.isVariadic = true)) ∧
      (∀ argument, find operand total = .ok argument →
        place operand total = some (min operand (arity - 1)) ∧
          callee.arguments[min operand (arity - 1)]? = some argument) ∧
      (∀ failure, find operand total = .error failure →
        place operand total = none ∧
          failure = .operandOutOfRange callee.name operand total arity) ∧
      ∀ other, operand < total → operand < other →
        (find operand total).toOption = (find operand other).toOption) ∧
    (∀ operand later total other first second, operand ≤ later →
      place operand total = some first → place later other = some second → first ≤ second) ∧
    (∀ (position : Nat) argument, callee.arguments[position]? = some argument →
      (argument.isVariadic = false → ∀ operand total,
        (place operand total = some position ↔ operand = position ∧ operand < total)) ∧
      (argument.isVariadic = true → position + 1 = arity ∧ ∀ operand total,
        (place operand total = some position ↔ position ≤ operand ∧ operand < total))) ∧
    (∀ operand total, total ≤ operand →
      registry.argumentName callee operand total =
          .error (.operandOutOfRange callee.name operand total arity) ∧
        ∀ (m : Type → Type) [Monad m]
          (ask : Factory β → (operand total : Nat) → m (Option String)),
          registry.argumentNameAsking ask callee operand total =
            pure (.error (.operandOutOfRange callee.name operand total arity))) ∧
    (∀ (m : Type → Type) [Monad m] [LawfulMonad m] operand total,
      registry.argumentNameAsking
          (fun factory operand total => pure (factory.argumentName? operand total)) callee operand
          total =
        (pure (registry.argumentName callee operand total) : m (Except ResolveError String))) ∧
    (∀ id, callee.owner = .factory id → ∃ entry, registry.factory? id = some entry ∧
      ∀ operand total, operand < total → ∀ (m : Type → Type) [Monad m]
        (ask : Factory β → (operand total : Nat) → m (Option String)),
        registry.argumentNameAsking ask callee operand total = do
          let given ← ask entry.factory operand total
          return given.elim ((find operand total).map (·.name)) .ok) ∧
    ∀ operand total,
      (∀ name, registry.GivesName callee operand total name →
        registry.argumentName callee operand total = .ok name) ∧
      ((∀ name, ¬ registry.GivesName callee operand total name) →
        registry.argumentName callee operand total = (find operand total).map (·.name)) := by
  intro arity find place
  refine ⟨fun operand total => ⟨exists_argumentForOperand_iff, ?found, ?missing, ?total⟩,
    ?monotone, ?parted, ?refused, fun m _ _ => registry.argumentNameAsking_pure callee, ?asked,
    ?named⟩
  case found =>
    intro argument hfound
    obtain ⟨hlt, hdeclared, hargument⟩ := argumentForOperand_eq_ok_iff_min.1 hfound
    exact ⟨argumentPosition?_eq_some_iff.2 ⟨hlt, hdeclared, rfl⟩, hargument⟩
  case missing =>
    intro failure hfailure
    exact ⟨argumentPosition?_eq_none_of_error hfailure, eq_operandOutOfRange hfailure⟩
  case total =>
    intro other htotal hother
    exact toOption_argumentForOperand_eq htotal hother
  case monotone =>
    intro operand later total other first second hle hfirst hsecond
    exact argumentPosition?_mono hle hfirst hsecond
  case parted =>
    intro position argument hargument
    refine ⟨fun hfixed operand total => argumentPosition?_iff_of_fixed hargument hfixed, ?_⟩
    intro hvariadic
    have hlast := h.wellFormed.variadic_last hcallee hargument hvariadic
    exact ⟨hlast, fun operand total => argumentPosition?_iff_of_variadic hargument hlast hvariadic⟩
  case refused =>
    intro operand total hle
    have hdeclared : find operand total =
        .error (.operandOutOfRange callee.name operand total arity) := by
      cases hfound : find operand total with
      | ok argument =>
        have hlt := (exists_argumentForOperand_iff.1 ⟨argument, hfound⟩).1
        exact absurd hlt (Nat.not_lt.2 hle)
      | error failure => rw [eq_operandOutOfRange hfound]
    have hunnamed : ∀ name, ¬ registry.GivesName callee operand total name :=
      fun _ hgives => absurd hgives.1 (Nat.not_lt.2 hle)
    refine ⟨?_, fun m _ ask => ?_⟩
    · rw [Registry.argumentName_of_not_givesName hunnamed]
      exact congrArg (Except.map _) hdeclared
    · rw [Registry.argumentNameAsking_of_le hle]
      exact congrArg (fun found => pure (Except.map _ found)) hdeclared
  case asked =>
    intro id howner
    obtain ⟨entry, hentry⟩ := h.wellFormed.exists_factory? hcallee howner
    exact ⟨entry, hentry, fun operand total hlt m _ =>
      Registry.argumentNameAsking_of_lt howner hentry hlt⟩
  case named =>
    intro operand total
    exact ⟨fun _ => Registry.argumentName_of_givesName, Registry.argumentName_of_not_givesName⟩

namespace Sample

/-- A factory that gives a name to every operand but the first. -/
def blending : Factory String where
  name := "Blending"
  contextText := none
  variant? _ _ _ := none
  argumentName? operand _ := if operand = 0 then none else some "layer"

/-- The draft of a function of the factory with one argument, and of a variadic function. -/
def blends : Draft String := start.applyAll types
  [.factory blending,
    .function (.factory ⟨0⟩) ⟨"Blend", some (.function "unused"), [⟨"base", "Int", .input⟩]⟩,
    .function .nobody ⟨"Stack", some (.closure "stack"),
      [⟨"base", "Int", .input⟩, ⟨"items", "Int*", .input⟩]⟩]

/-- The function of the factory as it is registered. -/
def blend : Callee String :=
  ⟨⟨0⟩, "Blend", .function "unused", .factory ⟨0⟩, none, [⟨"base", "Int", .input⟩]⟩

/-- The variadic function as it is registered. -/
def stack : Callee String :=
  ⟨⟨1⟩, "Stack", .closure "stack", .nobody, none,
    [⟨"base", "Int", .input⟩, ⟨"items", "Int*", .input⟩]⟩

/-- The draft of the two functions can be frozen. -/
theorem opened_blends : blends.registry.Opened types (blends.freeze types).state :=
  ⟨{}, start, _, start_eq, Draft.freeze_eq_of_isOk (by decide +kernel)⟩

end Sample

/-- In a call of three operands the last one is beyond the only argument of the sample function, and
is named by its factory; the first one has the name of the argument, and a fourth one is refused. A
variadic function has an argument for it, and its first argument has no other operand. -/
theorem operands_parted_and_named_beyond_arguments :
    let registry := Sample.blends.registry
    registry.Opened Sample.types (Sample.blends.freeze Sample.types).state ∧
      registry.function? ⟨0⟩ = some Sample.blend ∧ registry.function? ⟨1⟩ = some Sample.stack ∧
      (¬ ∃ argument, argumentForOperand "Blend" Sample.blend.arguments 2 3 = .ok argument) ∧
      registry.GivesName Sample.blend 2 3 "layer" ∧
      registry.argumentName Sample.blend 2 3 = .ok "layer" ∧
      registry.argumentName Sample.blend 0 3 = .ok "base" ∧
      registry.argumentName Sample.blend 3 3 =
        .error (.operandOutOfRange "Blend" 3 3 1) ∧
      (∃ argument, argumentForOperand "Stack" Sample.stack.arguments 2 3 = .ok argument) ∧
      (argumentPosition? Sample.stack.arguments 2 3 = some 1 ↔ 1 ≤ 2 ∧ 2 < 3) ∧
      (argumentPosition? Sample.stack.arguments 2 3 = some 0 ↔ 2 = 0 ∧ 2 < 3) := by
  intro registry
  have hblend : registry.function? ⟨0⟩ = some Sample.blend := by decide +kernel
  have hstack : registry.function? ⟨1⟩ = some Sample.stack := by decide +kernel
  have hlayer : registry.GivesName Sample.blend 2 3 "layer" :=
    Registry.factoryArgumentName?_eq_some_iff.1 (by decide +kernel)
  have hbase : ∀ name, ¬ registry.GivesName Sample.blend 0 3 name := by
    intro name hname
    have hgiven := Registry.factoryArgumentName?_eq_some_iff.2 hname
    have hnone : registry.factoryArgumentName? Sample.blend 0 3 = none := by decide +kernel
    rw [hnone] at hgiven
    exact absurd hgiven (by simp)
  obtain ⟨hfind, _, _, hrefused, _, _, hnamed⟩ :=
    operands_parted_and_named Sample.opened_blends hblend
  obtain ⟨hfind_stack, _, hparted, _⟩ := operands_parted_and_named Sample.opened_blends hstack
  have hnone : ¬ ∃ argument, argumentForOperand "Blend" Sample.blend.arguments 2 3 = .ok argument :=
    fun hfound => absurd ((hfind 2 3).1.1 hfound) (by decide +kernel)
  have hsome : ∃ argument, argumentForOperand "Stack" Sample.stack.arguments 2 3 = .ok argument :=
    (hfind_stack 2 3).1.2 (by decide +kernel)
  exact ⟨Sample.opened_blends, hblend, hstack, hnone, hlayer, (hnamed 2 3).1 _ hlayer,
    (hnamed 0 3).2 hbase, (hrefused 3 3 (Nat.le_refl 3)).1, hsome,
    ((hparted 1 ⟨"items", "Int*", .input⟩ rfl).2 (by decide +kernel)).2 2 3,
    (hparted 0 ⟨"base", "Int", .input⟩ rfl).1 (by decide +kernel) 2 3⟩

end Callsite
