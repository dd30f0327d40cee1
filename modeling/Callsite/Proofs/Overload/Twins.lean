import Callsite.Proofs.Overload.Best

/-!
# Twins of the winner

Two best candidates that declare the same types are twins, and a selection that decides for one of
them is ambiguous. It decides for the best candidate that was registered first
(`Selection.isFirstBest_iff`), and it only looks for twins of that one: two later candidates that
are twins of each other are passed over, although they are as good as the winner
(`later_twins_unreported`).
-/

namespace Callsite

namespace Selection

variable {widens : TypeId → TypeId → Bool} {candidates : List Candidate} {runtime : List TypeId}
  {first : Candidate}

/-- Whether a candidate is the one that a selection decides for: it is one of the best, and no other
best one was registered before it. -/
structure IsFirstBest (widens : TypeId → TypeId → Bool) (candidates : List Candidate)
    (runtime : List TypeId) (candidate : Candidate) : Prop
    extends IsBest widens candidates runtime candidate where
  first : ∀ other, IsBest widens candidates runtime other →
    candidate.function.number ≤ other.function.number

/-- The best candidates in order are those that are the best. -/
theorem mem_inOrder_best_iff {candidate : Candidate} :
    candidate ∈ inOrder (best (eligible widens candidates runtime)) ↔
      IsBest widens candidates runtime candidate :=
  (inOrder_perm _).mem_iff.trans mem_best_iff

/-- Different functions have different keys among the best candidates in order. -/
theorem pairwise_lt_inOrder_best (hfunctions : (candidates.map (·.function)).Nodup)
    (widens : TypeId → TypeId → Bool) (runtime : List TypeId) :
    (inOrder (best (eligible widens candidates runtime))).Pairwise
      fun earlier later => earlier.function.number < later.function.number := by
  have hdistinct : ((inOrder (best (eligible widens candidates runtime))).map (·.function)).Nodup :=
    ((inOrder_perm _).map _).nodup_iff.2
      (((best_sublist widens candidates runtime).map _).nodup hfunctions)
  refine ((pairwise_inOrder _).and (List.pairwise_map.1 hdistinct)).imp ?_
  rintro earlier later ⟨hle, hne⟩
  refine Nat.lt_of_le_of_ne hle fun hsame => hne ?_
  exact congrArg FunctionIndex.mk hsame

/-- The best candidate that was registered first is the first of the best ones in order. -/
theorem isFirstBest_iff (hfunctions : (candidates.map (·.function)).Nodup) :
    IsFirstBest widens candidates runtime first ↔
      ∃ others, inOrder (best (eligible widens candidates runtime)) = first :: others := by
  constructor
  · intro h
    have hmem : first ∈ inOrder (best (eligible widens candidates runtime)) :=
      mem_inOrder_best_iff.2 h.toIsBest
    obtain ⟨head, others, hbest⟩ := List.exists_cons_of_ne_nil (List.ne_nil_of_mem hmem)
    have hhead : IsBest widens candidates runtime head :=
      mem_inOrder_best_iff.1 (hbest ▸ List.mem_cons_self)
    have hincreasing := pairwise_lt_inOrder_best hfunctions widens runtime
    rw [hbest] at hmem hincreasing
    rcases List.mem_cons.1 hmem with rfl | hlater
    · exact ⟨others, hbest⟩
    -- nothing that comes later in order was registered first
    · have hlt := (List.pairwise_cons.1 hincreasing).1 first hlater
      exact absurd (h.first head hhead) (Nat.not_le_of_lt hlt)
  · rintro ⟨others, hbest⟩
    have hfirst : IsBest widens candidates runtime first :=
      mem_inOrder_best_iff.1 (hbest ▸ List.mem_cons_self)
    have hordered := pairwise_inOrder (best (eligible widens candidates runtime))
    rw [hbest] at hordered
    refine ⟨hfirst, fun other hother => ?_⟩
    have hmem := mem_inOrder_best_iff.2 hother
    rw [hbest] at hmem
    rcases List.mem_cons.1 hmem with rfl | hlater
    · exact Nat.le_refl _
    · exact (List.pairwise_cons.1 hordered).1 other hlater

/-- A decision is ambiguous exactly if another candidate declares the types of the first one, and it
lists all that do. -/
theorem decideAmong_eq_ambiguous_iff {best : List Candidate} {twins : List FunctionIndex} :
    decideAmong best = .ambiguous twins ↔ ∃ first others, best = first :: others ∧
      (∃ other ∈ others, other.types = first.types) ∧
        twins = (best.filter (·.types = first.types)).map (·.function) := by
  cases best with
  | nil => simp [decideAmong]
  | cons first others =>
    have hlist : (first :: others).filter (·.types = first.types) =
        first :: others.filter (·.types = first.types) :=
      List.filter_cons_of_pos (decide_eq_true rfl)
    have htwins : others.filter (·.types = first.types) ≠ [] ↔
        ∃ other ∈ others, other.types = first.types := by
      simp [List.filter_eq_nil_iff]
    rw [decideAmong]
    split
    · rename_i hnone
      constructor
      · intro h
        exact absurd h (by simp)
      · rintro ⟨_, _, hsame, hother, _⟩
        obtain ⟨rfl, rfl⟩ := List.cons.inj hsame
        exact absurd hnone (htwins.2 hother)
    · rename_i hsome
      constructor
      · intro h
        refine ⟨first, others, rfl, htwins.1 hsome, ?_⟩
        rw [hlist, List.map_cons]
        exact (Selection.ambiguous.inj h).symm
      · rintro ⟨_, _, hsame, _, rfl⟩
        obtain ⟨rfl, rfl⟩ := List.cons.inj hsame
        rw [hlist, List.map_cons]

/-- Two lists of the same functions in the order of registration are one list. -/
theorem eq_of_increasing {functions others : List FunctionIndex}
    (h : functions.Pairwise fun earlier later => earlier.number < later.number)
    (hothers : others.Pairwise fun earlier later => earlier.number < later.number)
    (hmem : ∀ function, function ∈ functions ↔ function ∈ others) : functions = others := by
  have hne : ∀ {earlier later : FunctionIndex},
      earlier.number < later.number → earlier ≠ later := by
    rintro earlier _ hlt rfl
    exact Nat.lt_irrefl _ hlt
  have hperm := (List.perm_ext_iff_of_nodup (h.imp hne) (hothers.imp hne)).2 hmem
  exact hperm.eq_of_pairwise (fun _ _ _ _ hlt hgt => absurd hgt (Nat.lt_asymm hlt)) h hothers

/-- The functions of the best candidates that declare given types, in order, are the one list of
them in the order of registration. -/
theorem eq_map_filter_best_iff (hfunctions : (candidates.map (·.function)).Nodup)
    (declared : List TypeId) {twins : List FunctionIndex} :
    twins = ((inOrder (best (eligible widens candidates runtime))).filter
        (·.types = declared)).map (·.function) ↔
      twins.Pairwise (fun earlier later => earlier.number < later.number) ∧
        ∀ function, function ∈ twins ↔ ∃ twin, IsBest widens candidates runtime twin ∧
          twin.types = declared ∧ twin.function = function := by
  have hmem : ∀ function, function ∈ ((inOrder (best (eligible widens candidates runtime))).filter
      (·.types = declared)).map (·.function) ↔ ∃ twin, IsBest widens candidates runtime twin ∧
        twin.types = declared ∧ twin.function = function := by
    intro function
    simp only [List.mem_map, List.mem_filter, mem_inOrder_best_iff, decide_eq_true_eq, and_assoc]
  have hincreasing : (((inOrder (best (eligible widens candidates runtime))).filter
      (·.types = declared)).map (·.function)).Pairwise
        fun earlier later => earlier.number < later.number :=
    List.pairwise_map.2 ((pairwise_lt_inOrder_best hfunctions widens runtime).filter _)
  constructor
  · rintro rfl
    exact ⟨hincreasing, hmem⟩
  · rintro ⟨htwins, hmembers⟩
    exact eq_of_increasing htwins hincreasing fun function =>
      (hmembers function).trans (hmem function).symm

end Selection

open Selection

variable {candidates : List Candidate}

/-- A selection among different functions decides for the best candidate that was registered first.
It is ambiguous exactly if another best candidate declares the types of this one, and then lists all
that do in the order of registration; it finds this one exactly if no other best candidate does; and
it finds that none fits exactly if no candidate takes the operands. The order in which they are
given does not matter. -/
theorem first_best_found_or_ambiguous (hfunctions : (candidates.map (·.function)).Nodup)
    (widens : TypeId → TypeId → Bool) (runtime : List TypeId) :
    (∀ twins, select widens candidates runtime = .ambiguous twins ↔
      ∃ first, IsFirstBest widens candidates runtime first ∧
        (∃ other, IsBest widens candidates runtime other ∧ other ≠ first ∧
          other.types = first.types) ∧
        twins.Pairwise (fun earlier later => earlier.number < later.number) ∧
        ∀ function, function ∈ twins ↔ ∃ twin, IsBest widens candidates runtime twin ∧
          twin.types = first.types ∧ twin.function = function) ∧
    (∀ winner, select widens candidates runtime = .found winner ↔
      ∃ first, IsFirstBest widens candidates runtime first ∧ first.function = winner ∧
        ∀ other, IsBest widens candidates runtime other → other ≠ first →
          other.types ≠ first.types) ∧
    (select widens candidates runtime = .noMatch ↔
      ∀ candidate ∈ candidates, ¬ Takes widens candidate.types runtime) ∧
    ∀ others : List Candidate, candidates.Perm others →
      select widens others runtime = select widens candidates runtime := by
  refine ⟨fun twins => ?ambiguous, fun winner => ?found, select_eq_noMatch_iff,
    fun others hperm => (select_eq_of_perm hfunctions hperm).symm⟩
  case ambiguous =>
    have hincreasing := pairwise_lt_inOrder_best hfunctions widens runtime
    rw [select, decideAmong_eq_ambiguous_iff]
    constructor
    · rintro ⟨first, others, hbest, ⟨other, hother, hsame⟩, htwins⟩
      refine ⟨first, (isFirstBest_iff hfunctions).2 ⟨others, hbest⟩, ⟨other, ?_, ?_, hsame⟩,
        (eq_map_filter_best_iff hfunctions first.types).1 htwins⟩
      · exact mem_inOrder_best_iff.1 (hbest ▸ List.mem_cons_of_mem first hother)
      · rintro rfl
        rw [hbest] at hincreasing
        exact Nat.lt_irrefl _ ((List.pairwise_cons.1 hincreasing).1 other hother)
    · rintro ⟨first, hfirst, ⟨other, hother, hne, hsame⟩, htwins⟩
      obtain ⟨others, hbest⟩ := (isFirstBest_iff hfunctions).1 hfirst
      have hmem := mem_inOrder_best_iff.2 hother
      rw [hbest] at hmem
      exact ⟨first, others, hbest, ⟨other, List.mem_of_ne_of_mem hne hmem, hsame⟩,
        (eq_map_filter_best_iff hfunctions first.types).2 htwins⟩
  case found =>
    rw [select_eq_found_iff hfunctions]
    constructor
    · rintro ⟨first, rfl, hbest, hfirst⟩
      exact ⟨first, ⟨hbest, fun other hother => (hfirst other hother).1⟩, rfl,
        fun other hother => (hfirst other hother).2⟩
    · rintro ⟨first, hfirst, rfl, htwins⟩
      exact ⟨first, rfl, hfirst.toIsBest,
        fun other hother => ⟨hfirst.first other hother, htwins other hother⟩⟩

namespace Sample

/-- Integers, the second type, may be used as numbers, the first type. -/
def integersAsNumbers (given wanted : TypeId) : Bool :=
  given == ⟨1⟩ && wanted == ⟨0⟩

/-- Three candidates that are equally good for two integers. The first and the last one declare the
same types, and the last one was registered first. -/
def tied : List Candidate :=
  [⟨⟨7⟩, [⟨1⟩, ⟨0⟩]⟩, ⟨⟨4⟩, [⟨0⟩, ⟨1⟩]⟩, ⟨⟨2⟩, [⟨1⟩, ⟨0⟩]⟩]

/-- Three candidates that are equally good for two integers. Those that were not registered first
declare the same types. -/
def tiedLater : List Candidate :=
  [⟨⟨0⟩, [⟨1⟩, ⟨0⟩]⟩, ⟨⟨1⟩, [⟨0⟩, ⟨1⟩]⟩, ⟨⟨2⟩, [⟨0⟩, ⟨1⟩]⟩]

end Sample

/-- Of three candidates that are equally good, the one that was registered first has a twin. The
selection lists the two in the order of registration, however the candidates are given. -/
theorem first_best_ambiguous_among_tied :
    (Sample.tied.map (·.function)).Nodup ∧
      select Sample.integersAsNumbers Sample.tied [⟨1⟩, ⟨1⟩] = .ambiguous [⟨2⟩, ⟨7⟩] ∧
      (∃ first, IsFirstBest Sample.integersAsNumbers Sample.tied [⟨1⟩, ⟨1⟩] first ∧
        ∃ other, IsBest Sample.integersAsNumbers Sample.tied [⟨1⟩, ⟨1⟩] other ∧ other ≠ first ∧
          other.types = first.types) ∧
      select Sample.integersAsNumbers Sample.tied.reverse [⟨1⟩, ⟨1⟩] = .ambiguous [⟨2⟩, ⟨7⟩] := by
  have hfunctions : (Sample.tied.map (·.function)).Nodup := by decide
  have htied : select Sample.integersAsNumbers Sample.tied [⟨1⟩, ⟨1⟩] = .ambiguous [⟨2⟩, ⟨7⟩] := by
    decide
  obtain ⟨hambiguous, _, _, horder⟩ :=
    first_best_found_or_ambiguous hfunctions Sample.integersAsNumbers [⟨1⟩, ⟨1⟩]
  obtain ⟨first, hfirst, hother, _⟩ := (hambiguous [⟨2⟩, ⟨7⟩]).1 htied
  exact ⟨hfunctions, htied, ⟨first, hfirst, hother⟩,
    (horder _ (List.reverse_perm Sample.tied).symm).trans htied⟩

/-- Twins that are among the best candidates do not always make a selection ambiguous: if another
best candidate was registered before them, the selection finds that one. -/
theorem later_twins_unreported :
    (Sample.tiedLater.map (·.function)).Nodup ∧
      select Sample.integersAsNumbers Sample.tiedLater [⟨1⟩, ⟨1⟩] = .found ⟨0⟩ ∧
      ∃ twin other, twin ≠ other ∧ twin.types = other.types ∧
        IsBest Sample.integersAsNumbers Sample.tiedLater [⟨1⟩, ⟨1⟩] twin ∧
        IsBest Sample.integersAsNumbers Sample.tiedLater [⟨1⟩, ⟨1⟩] other := by
  have hbest : best (eligible Sample.integersAsNumbers Sample.tiedLater [⟨1⟩, ⟨1⟩]) =
      Sample.tiedLater := by decide
  refine ⟨by decide, by decide, ⟨⟨1⟩, [⟨0⟩, ⟨1⟩]⟩, ⟨⟨2⟩, [⟨0⟩, ⟨1⟩]⟩, by decide, rfl, ?_, ?_⟩
  · rw [← mem_best_iff, hbest]
    decide
  · rw [← mem_best_iff, hbest]
    decide

end Callsite
