import Callsite.Overload.Selection
import Mathlib.Data.List.Nodup

/-!
# Outcomes of a selection

The candidates that a selection decides among are some of those it was given, in another order at
most. A winner is therefore a candidate, and candidates of pairwise distinct types leave no
ambiguity, for an ambiguity needs a twin of the winner.
-/

namespace Callsite

open Selection

variable {widens : TypeId → TypeId → Bool} {candidates : List Candidate} {runtime : List TypeId}

namespace Selection

/-- The best candidates are some of the candidates, in their order. -/
theorem best_sublist (widens : TypeId → TypeId → Bool) (candidates : List Candidate)
    (runtime : List TypeId) :
    (best (eligible widens candidates runtime)).Sublist candidates := by
  have heligible : ((eligible widens candidates runtime).map (·.1)).Sublist candidates := by
    rw [eligible, List.map_filterMap]
    induction candidates with
    | nil => exact .slnil
    | cons candidate rest ih =>
      rw [List.filterMap_cons]
      cases exactPositions? widens candidate.types runtime with
      | none => exact ih.cons candidate
      | some n => exact ih.cons_cons candidate
  exact (List.filter_sublist.map _).trans heligible

/-- The first of the best candidates wins, and only if no other one declares the same types. -/
theorem decideAmong_eq_found_iff {best : List Candidate} {winner : FunctionIndex} :
    decideAmong best = .found winner ↔ ∃ first others, best = first :: others ∧
      first.function = winner ∧ ∀ other ∈ others, other.types ≠ first.types := by
  cases best with
  | nil => simp [decideAmong]
  | cons first others =>
    have htwins : others.filter (·.types = first.types) = [] ↔
        ∀ other ∈ others, other.types ≠ first.types := by
      simp [List.filter_eq_nil_iff]
    rw [decideAmong]
    split
    · rename_i hnone
      constructor
      · intro h
        exact ⟨first, others, rfl, Selection.found.inj h, htwins.1 hnone⟩
      · rintro ⟨_, _, hsame, rfl, _⟩
        rw [(List.cons.inj hsame).1]
    · rename_i hsome
      constructor
      · intro h
        exact absurd h (by simp)
      · rintro ⟨_, _, hsame, _, hdistinct⟩
        obtain ⟨rfl, rfl⟩ := List.cons.inj hsame
        exact absurd (htwins.2 hdistinct) hsome

/-- Candidates of pairwise distinct types have no twins. -/
theorem decideAmong_ne_ambiguous {best : List Candidate} (h : (best.map (·.types)).Nodup)
    (twins : List FunctionIndex) : decideAmong best ≠ .ambiguous twins := by
  cases best with
  | nil => simp [decideAmong]
  | cons first others =>
    rw [List.map_cons, List.nodup_cons] at h
    have hnone : others.filter (·.types = first.types) = [] := by
      rw [List.filter_eq_nil_iff]
      intro other hother hsame
      have htypes : other.types = first.types := of_decide_eq_true hsame
      exact h.1 (htypes ▸ List.mem_map_of_mem hother)
    rw [decideAmong, hnone]
    simp

/-- The twins of an ambiguity are among the best candidates. -/
theorem exists_mem_of_decideAmong_ambiguous {best : List Candidate} {twins : List FunctionIndex}
    (h : decideAmong best = .ambiguous twins) :
    ∀ twin ∈ twins, ∃ candidate ∈ best, candidate.function = twin := by
  cases best with
  | nil => exact absurd h (by simp [decideAmong])
  | cons first others =>
    rw [decideAmong] at h
    split at h
    · exact absurd h (by simp)
    · obtain rfl := Selection.ambiguous.inj h
      intro twin htwin
      rcases List.mem_cons.1 htwin with rfl | hother
      · exact ⟨first, List.mem_cons_self, rfl⟩
      · obtain ⟨other, hmem, rfl⟩ := List.mem_map.1 hother
        exact ⟨other, List.mem_cons_of_mem _ (List.mem_of_mem_filter hmem), rfl⟩

/-- The best candidates in order are candidates. -/
theorem mem_of_mem_inOrder_best {candidate : Candidate}
    (h : candidate ∈ inOrder (best (eligible widens candidates runtime))) :
    candidate ∈ candidates :=
  (best_sublist widens candidates runtime).subset ((inOrder_perm _).mem_iff.1 h)

end Selection

/-- The winner of a selection is one of the candidates. -/
theorem exists_mem_of_select (h : select widens candidates runtime = .found winner) :
    ∃ candidate ∈ candidates, candidate.function = winner := by
  obtain ⟨first, others, hbest, hfirst, _⟩ := decideAmong_eq_found_iff.1 h
  have hmem : first ∈ inOrder (best (eligible widens candidates runtime)) := by
    rw [hbest]
    exact List.mem_cons_self
  exact ⟨first, mem_of_mem_inOrder_best hmem, hfirst⟩

/-- The twins of an ambiguous selection are candidates. -/
theorem exists_mem_of_select_ambiguous {twins : List FunctionIndex}
    (h : select widens candidates runtime = .ambiguous twins) :
    ∀ twin ∈ twins, ∃ candidate ∈ candidates, candidate.function = twin := by
  intro twin htwin
  obtain ⟨candidate, hmem, hfunction⟩ := exists_mem_of_decideAmong_ambiguous h twin htwin
  exact ⟨candidate, mem_of_mem_inOrder_best hmem, hfunction⟩

/-- A selection among candidates of pairwise distinct types is not ambiguous. -/
theorem select_ne_ambiguous (h : (candidates.map (·.types)).Nodup) (twins : List FunctionIndex) :
    select widens candidates runtime ≠ .ambiguous twins := by
  have hsublist := (best_sublist widens candidates runtime).map (·.types)
  have hperm := (inOrder_perm (best (eligible widens candidates runtime))).map (·.types)
  exact decideAmong_ne_ambiguous (hperm.nodup_iff.2 (hsublist.nodup h)) twins

end Callsite
