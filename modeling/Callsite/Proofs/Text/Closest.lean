import Callsite.Proofs.Text.ByteOrder
import Callsite.Text.Similarity
import Mathlib.Data.List.MinMax
import Mathlib.Data.Prod.Lex

/-!
# The closest name

Scores that are totally ordered make a total order of names: the greater score goes first, and of
names with equal scores the smaller text. The closest of several names is then the first one in this
order among those that score above the floor (`Text.closest_eq_argmin`). No two names are equal in
it, so that the closest name depends on nothing but which names there are
(`Text.closest_eq_some_iff`, `Text.closest_congr`).
-/

namespace Callsite.Text

variable {σ : Type} {score : String → σ} {floor : σ}

/-! ## The order of names by their scores -/

/-- The place of a name in the order of scores, the greatest first, then of texts. -/
def rank (score : String → σ) (name : String) : σᵒᵈ ×ₗ String :=
  toLex (OrderDual.toDual (score name), name)

/-- Different names have different places. -/
theorem rank_injective : Function.Injective (rank score) := by
  intro name other h
  exact congrArg Prod.snd (toLex.injective h)

variable [LinearOrder σ]

/-- A name has the smaller place if its score is greater, or equal with the smaller bytes. -/
theorem rank_lt_rank_iff {name other : String} :
    rank score name < rank score other ↔
      score other < score name ∨ score other = score name ∧ bytes name < bytes other := by
  rw [rank, rank, Prod.Lex.toLex_lt_toLex, OrderDual.toDual_lt_toDual, bytes_lt_iff]
  exact or_congr_right (and_congr_left fun _ => eq_comm)

/-- Whether a name goes before another one is told by their places. -/
theorem precedes_eq (name other : String) :
    precedes score name other = decide (rank score name < rank score other) := by
  rw [Bool.eq_iff_iff, decide_eq_true_iff, rank_lt_rank_iff, bytes_lt_iff]
  simp only [precedes, Bool.or_eq_true, Bool.and_eq_true, Bool.not_eq_true', decide_eq_true_eq,
    decide_eq_false_iff_not, not_lt]
  constructor
  · rintro (hlt | ⟨hle, htext⟩)
    · exact .inl hlt
    · exact hle.lt_or_eq.imp_right fun heq => ⟨heq, htext⟩
  · exact Or.imp_right fun h => ⟨h.1.le, h.2⟩

/-! ## The first in this order -/

/-- The closest name is the one with the least place of those that score above the floor. -/
theorem closest_eq_argmin (names : List String) :
    closest score floor names =
      (names.filter fun name => floor < score name).argmin (rank score) := by
  rw [closest, List.argmin]
  congr 1
  funext best name
  cases best with
  | none => rfl
  | some other =>
    rw [better, precedes_eq]
    simp only [List.argAux, decide_eq_true_eq]

/-- Whether a name scores above the floor and goes before all others among some names that do. -/
structure IsClosest (score : String → σ) (floor : σ) (Known : String → Prop) (name : String) :
    Prop where
  known : Known name
  floor_lt : floor < score name
  best : ∀ other, Known other → other ≠ name → floor < score other →
    score other < score name ∨ score other = score name ∧ bytes name < bytes other

/-- The closest name is found, whichever it is. -/
theorem closest_eq_some_iff {names : List String} {name : String} :
    closest score floor names = some name ↔ IsClosest score floor (· ∈ names) name := by
  rw [closest_eq_argmin, List.argmin_eq_some_iff]
  simp only [List.mem_filter, decide_eq_true_eq]
  constructor
  · rintro ⟨⟨hknown, hfloor⟩, hleast, _⟩
    refine ⟨hknown, hfloor, fun other hother hne habove => ?_⟩
    have hle := hleast other ⟨hother, habove⟩
    exact rank_lt_rank_iff.1 (hle.lt_of_ne (rank_injective.ne hne.symm))
  · rintro ⟨hknown, hfloor, hbest⟩
    have hlt : ∀ other, other ∈ names ∧ floor < score other → other ≠ name →
        rank score name < rank score other :=
      fun other hother hne => rank_lt_rank_iff.2 (hbest other hother.1 hne hother.2)
    refine ⟨⟨hknown, hfloor⟩, fun other hother => ?_, fun other hother hle => ?_⟩
    · rcases eq_or_ne other name with rfl | hne
      · exact le_rfl
      · exact (hlt other hother hne).le
    · -- a name that goes no later is this name itself, so that the place in the list is the same
      have hsame : other = name := by
        by_contra hne
        exact absurd hle (hlt other hother hne).not_ge
      rw [hsame]

/-- No name is found exactly if none scores above the floor. -/
theorem closest_eq_none_iff {names : List String} :
    closest score floor names = none ↔ ∀ name ∈ names, ¬ floor < score name := by
  rw [closest_eq_argmin, List.argmin_eq_none, List.filter_eq_nil_iff]
  simp only [decide_eq_true_eq]

/-- The closest name is the same in any list of the same names. -/
theorem closest_congr {names others : List String} (h : ∀ name, name ∈ names ↔ name ∈ others) :
    closest score floor names = closest score floor others := by
  refine Option.ext fun name => ?_
  rw [closest_eq_some_iff, closest_eq_some_iff, funext fun other => propext (h other)]

end Callsite.Text
