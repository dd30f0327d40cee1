/-!
# Answers with a state

An operation of a registry answers a result and leaves a state behind, also when it fails: what was
learnt on the way to a failure is kept. `Answer.andThen` puts two operations in a row.
-/

namespace Callsite

/-- A result or an error, with the state afterwards. -/
structure Answer (σ ε α : Type) where
  result : Except ε α
  state : σ

namespace Answer

variable {σ ε ε' α δ γ : Type}

/-- Succeeds without a change of state. -/
def ok (value : α) (state : σ) : Answer σ ε α :=
  ⟨.ok value, state⟩

/-- Fails without a change of state. -/
def fail (error : ε) (state : σ) : Answer σ ε α :=
  ⟨.error error, state⟩

/-- Goes on with the value of a success; a failure ends here. -/
def andThen (answer : Answer σ ε α) (next : α → σ → Answer σ ε δ) : Answer σ ε δ :=
  match answer with
  | ⟨.ok value, state⟩ => next value state
  | ⟨.error error, state⟩ => ⟨.error error, state⟩

/-- The answer with its error seen as one of another kind. -/
def mapError (f : ε → ε') (answer : Answer σ ε α) : Answer σ ε' α :=
  ⟨answer.result.mapError f, answer.state⟩

/-- The answer with its value changed. -/
def map (f : α → δ) (answer : Answer σ ε α) : Answer σ ε δ :=
  ⟨answer.result.map f, answer.state⟩

@[simp]
theorem state_map (f : α → δ) (answer : Answer σ ε α) : (answer.map f).state = answer.state := rfl

@[simp]
theorem state_mapError (f : ε → ε') (answer : Answer σ ε α) :
    (answer.mapError f).state = answer.state := rfl

@[simp]
theorem result_map (f : α → δ) (answer : Answer σ ε α) :
    (answer.map f).result = answer.result.map f := rfl

@[simp]
theorem result_mapError (f : ε → ε') (answer : Answer σ ε α) :
    (answer.mapError f).result = answer.result.mapError f := rfl

@[simp]
theorem andThen_ok (value : α) (state : σ) (next : α → σ → Answer σ ε δ) :
    (Answer.mk (.ok value) state).andThen next = next value state := rfl

@[simp]
theorem andThen_error (error : ε) (state : σ) (next : α → σ → Answer σ ε δ) :
    (Answer.mk (.error error) state).andThen next = ⟨.error error, state⟩ := rfl

/-- After a success the next operation goes on from the state left behind. -/
theorem andThen_of_ok {answer : Answer σ ε α} {value : α} (h : answer.result = .ok value)
    (next : α → σ → Answer σ ε δ) : answer.andThen next = next value answer.state := by
  obtain ⟨result, state⟩ := answer
  subst h
  rfl

/-- A failure is the answer of the whole row. -/
theorem andThen_of_error {answer : Answer σ ε α} {error : ε} (h : answer.result = .error error)
    (next : α → σ → Answer σ ε δ) : answer.andThen next = ⟨.error error, answer.state⟩ := by
  obtain ⟨result, state⟩ := answer
  subst h
  rfl

/-- A row of operations succeeds exactly if each of them does. -/
theorem result_andThen_eq_ok {answer : Answer σ ε α} {next : α → σ → Answer σ ε δ} {value : δ} :
    (answer.andThen next).result = .ok value ↔
      ∃ first, answer.result = .ok first ∧ (next first answer.state).result = .ok value := by
  obtain ⟨result, state⟩ := answer
  cases result with
  | error error => simp
  | ok first => simp

/-- Three operations in a row may be put in a row in two ways. -/
theorem andThen_assoc (answer : Answer σ ε α) (next : α → σ → Answer σ ε δ)
    (last : δ → σ → Answer σ ε γ) :
    (answer.andThen next).andThen last =
      answer.andThen fun value state => (next value state).andThen last := by
  obtain ⟨result, state⟩ := answer
  cases result <;> rfl

/-- What comes second only matters after a success of the first. -/
theorem andThen_congr {answer : Answer σ ε α} {next other : α → σ → Answer σ ε δ}
    (h : ∀ value, answer.result = .ok value →
      next value answer.state = other value answer.state) :
    answer.andThen next = answer.andThen other := by
  obtain ⟨result, state⟩ := answer
  cases result with
  | error error => rfl
  | ok value => exact h value rfl

/-- Seeing the error as one of another kind does not touch a success. -/
theorem result_mapError_eq_ok {answer : Answer σ ε α} {f : ε → ε'} {value : α} :
    (answer.mapError f).result = .ok value ↔ answer.result = .ok value := by
  obtain ⟨result, state⟩ := answer
  cases result with
  | error error => exact ⟨nofun, nofun⟩
  | ok found =>
    constructor
    · intro h
      exact congrArg Except.ok (Except.ok.inj h)
    · intro h
      exact congrArg Except.ok (Except.ok.inj h)

/-- Changing the value makes no failure a success. -/
theorem result_map_eq_ok {answer : Answer σ ε α} {f : α → δ} {value : δ} :
    (answer.map f).result = .ok value ↔ ∃ first, answer.result = .ok first ∧ f first = value := by
  obtain ⟨result, state⟩ := answer
  cases result <;> simp [map, Except.map]

/-- A row of operations fails with the failure of the first one, or of the second after a success of
the first. -/
theorem result_andThen_eq_error {answer : Answer σ ε α} {next : α → σ → Answer σ ε δ} {error : ε} :
    (answer.andThen next).result = .error error ↔
      answer.result = .error error ∨
        ∃ first, answer.result = .ok first ∧ (next first answer.state).result = .error error := by
  obtain ⟨result, state⟩ := answer
  cases result <;> simp

/-- An error of another kind is one of the first kind seen as it. -/
theorem result_mapError_eq_error {answer : Answer σ ε α} {f : ε → ε'} {error : ε'} :
    (answer.mapError f).result = .error error ↔
      ∃ first, answer.result = .error first ∧ f first = error := by
  obtain ⟨result, state⟩ := answer
  cases result with
  | error first =>
    constructor
    · intro h
      exact ⟨first, rfl, Except.error.inj h⟩
    · rintro ⟨_, h, rfl⟩
      exact congrArg (Except.error ∘ f) (Except.error.inj h)
  | ok found => exact ⟨nofun, nofun⟩

/-- Changing the value leaves a failure as it is. -/
theorem result_map_eq_error {answer : Answer σ ε α} {f : α → δ} {error : ε} :
    (answer.map f).result = .error error ↔ answer.result = .error error := by
  obtain ⟨result, state⟩ := answer
  cases result <;> simp [map, Except.map]

/-- The errors of a row are seen as of another kind if those of both operations are. -/
theorem mapError_andThen (f : ε → ε') (answer : Answer σ ε α) (next : α → σ → Answer σ ε δ) :
    (answer.andThen next).mapError f =
      (answer.mapError f).andThen fun value state => (next value state).mapError f := by
  obtain ⟨result, state⟩ := answer
  cases result <;> rfl

/-- Changing the value and seeing the error as one of another kind do not touch each other. -/
theorem mapError_map (f : ε → ε') (g : α → δ) (answer : Answer σ ε α) :
    (answer.map g).mapError f = (answer.mapError f).map g := by
  obtain ⟨result, state⟩ := answer
  cases result <;> rfl

/-- Changing the value twice is changing it once. -/
theorem map_map (f : α → δ) (g : δ → γ) (answer : Answer σ ε α) :
    (answer.map f).map g = answer.map fun value => g (f value) := by
  obtain ⟨result, state⟩ := answer
  cases result <;> rfl

/-- Two rows of the same operations have results that look the same in a view if the first results
are equal and, after each success, the next ones look the same, whatever the states. -/
theorem result_andThen_congr {answer other : Answer σ ε α} {next : α → σ → Answer σ ε δ}
    (view : Except ε δ → γ) (hfirst : answer.result = other.result)
    (hnext : ∀ value, answer.result = .ok value →
      view (next value answer.state).result = view (next value other.state).result) :
    view (answer.andThen next).result = view (other.andThen next).result := by
  obtain ⟨result, state⟩ := answer
  obtain ⟨_, later⟩ := other
  subst hfirst
  cases result with
  | error error => rfl
  | ok value => exact hnext value rfl

/-- An operation that hands on the value of the first one does not change the result. -/
theorem result_andThen_ok (answer : Answer σ ε α) (later : α → σ → σ) :
    (answer.andThen fun value state => .ok value (later value state)).result = answer.result := by
  obtain ⟨result, state⟩ := answer
  cases result <;> rfl

/-- What holds of the state after the first operation, and after the second whenever it is run,
holds of the state after both. -/
theorem state_andThen {motive : σ → Prop} {answer : Answer σ ε α} {next : α → σ → Answer σ ε δ}
    (hfirst : motive answer.state)
    (hnext : ∀ value, answer.result = .ok value → motive (next value answer.state).state) :
    motive (answer.andThen next).state := by
  obtain ⟨result, state⟩ := answer
  cases result with
  | error error => exact hfirst
  | ok value => exact hnext value rfl

/-- After a failure of a row, the state is the one after the failure of the first operation, or the
one after the failure of the second. -/
theorem state_andThen_of_error {motive : σ → Prop} {answer : Answer σ ε α}
    {next : α → σ → Answer σ ε δ} {error : ε} (h : (answer.andThen next).result = .error error)
    (hfirst : motive answer.state)
    (hnext : ∀ value, answer.result = .ok value → (next value answer.state).result = .error error →
      motive (next value answer.state).state) :
    motive (answer.andThen next).state := by
  obtain ⟨result, state⟩ := answer
  cases result with
  | error error => exact hfirst
  | ok value => exact hnext value rfl h

end Answer

end Callsite
