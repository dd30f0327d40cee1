import Callsite.Proofs.Overload.Selection
import Mathlib.Data.List.Forall2
import Mathlib.Data.List.Induction
import Mathlib.Data.List.Perm.Basic

/-!
# The best candidate

Which candidate a selection finds, said without the lists it works with. Declared types take
operands if there are as many and each operand is of the declared type or may be widened to it. Of
the candidates that take the operands, those with the most exact positions are the best, and the
selection finds the best one that was registered first, unless another best one declares the same
types (`select_eq_found_iff`). It finds that none fits exactly if no candidate takes the operands
(`select_eq_noMatch_iff`). The order in which candidates are given does not matter
(`select_eq_of_perm`), and one pass over them is enough (`select_eq_foldl`).
-/

namespace Callsite

/-- Whether declared types take operands of the given types: there are as many, and each operand is
of the declared type or may be widened to it. -/
def Takes (widens : TypeId → TypeId → Bool) (declared runtime : List TypeId) : Prop :=
  List.Forall₂ (fun want given => want = given ∨ widens given want = true) declared runtime

/-- The number of positions at which the given type is the declared one. -/
def exactCount (declared runtime : List TypeId) : Nat :=
  (declared.zip runtime).countP fun (want, given) => want = given

variable {widens : TypeId → TypeId → Bool} {declared runtime : List TypeId}

/-- Types take operands of exactly these types, whatever is widened. -/
theorem takes_self (widens : TypeId → TypeId → Bool) (runtime : List TypeId) :
    Takes widens runtime runtime :=
  List.forall₂_same.2 fun _ _ => .inl rfl

/-- At most every position is exact. -/
theorem exactCount_le_length (declared runtime : List TypeId) :
    exactCount declared runtime ≤ runtime.length := by
  have hzip : (declared.zip runtime).length ≤ runtime.length := by
    rw [List.length_zip]
    exact Nat.min_le_right _ _
  exact Nat.le_trans List.countP_le_length hzip

/-- Every position is exact only if the declared types are those of the operands. -/
theorem exactCount_eq_length_iff (h : declared.length = runtime.length) :
    exactCount declared runtime = runtime.length ↔ declared = runtime := by
  have hzip : runtime.length = (declared.zip runtime).length := by
    rw [List.length_zip, h, Nat.min_self]
  rw [exactCount, hzip, List.countP_eq_length, ← List.forall₂_eq_eq_eq, List.forall₂_iff_zip]
  constructor
  · intro hall
    exact ⟨h, fun hmem => of_decide_eq_true (hall _ hmem)⟩
  · rintro ⟨_, hall⟩ ⟨want, given⟩ hmem
    exact decide_eq_true (hall hmem)

/-- Positions are counted exactly for declared types that take the operands. -/
theorem exactPositions?_eq_some_iff {n : Nat} :
    exactPositions? widens declared runtime = some n ↔
      Takes widens declared runtime ∧ exactCount declared runtime = n := by
  induction declared generalizing runtime n with
  | nil => cases runtime <;> simp [exactPositions?, Takes, exactCount]
  | cons want declared ih =>
    cases runtime with
    | nil => simp [exactPositions?, Takes]
    | cons given runtime =>
      have hcount : exactCount (want :: declared) (given :: runtime) =
          exactCount declared runtime + if want = given then 1 else 0 := by
        simp [exactCount, List.countP_cons]
      have htakes : Takes widens (want :: declared) (given :: runtime) ↔
          (want = given ∨ widens given want = true) ∧ Takes widens declared runtime :=
        List.forall₂_cons
      rw [hcount, htakes, exactPositions?]
      by_cases hexact : want = given
      · rw [if_pos hexact, if_pos hexact, Option.map_eq_some_iff]
        simp only [ih, hexact, true_or, true_and, and_assoc, exists_and_left, exists_eq_left']
      · rw [if_neg hexact, if_neg hexact, Nat.add_zero]
        by_cases hwidens : widens given want = true
        · rw [if_pos hwidens, ih]
          simp only [hwidens, or_true, true_and]
        · simp [hwidens, hexact]

namespace Selection

/-- Whether a candidate is one of the best: it takes the operands, and no candidate that takes them
has more exact positions. -/
structure IsBest (widens : TypeId → TypeId → Bool) (candidates : List Candidate)
    (runtime : List TypeId) (candidate : Candidate) : Prop where
  mem : candidate ∈ candidates
  takes : Takes widens candidate.types runtime
  most_exact : ∀ other ∈ candidates, Takes widens other.types runtime →
    exactCount other.types runtime ≤ exactCount candidate.types runtime

variable {candidates others : List Candidate}

/-! ## The best candidates -/

/-- The eligible candidates are those that take the operands, with their exact positions counted. -/
theorem mem_eligible_iff {candidate : Candidate} {n : Nat} :
    (candidate, n) ∈ eligible widens candidates runtime ↔
      candidate ∈ candidates ∧ Takes widens candidate.types runtime ∧
        exactCount candidate.types runtime = n := by
  rw [eligible, List.mem_filterMap]
  constructor
  · rintro ⟨other, hother, hscored⟩
    obtain ⟨m, hm, heq⟩ := Option.map_eq_some_iff.1 hscored
    obtain ⟨rfl, rfl⟩ := Prod.mk.inj heq
    exact ⟨hother, exactPositions?_eq_some_iff.1 hm⟩
  · rintro ⟨hmem, htakes⟩
    exact ⟨candidate, hmem, by rw [exactPositions?_eq_some_iff.2 htakes]; rfl⟩

/-- The greatest score of some scored candidates. -/
def greatest (scored : List (Candidate × Nat)) : Nat :=
  (scored.map (·.2)).foldl max 0

/-- The greatest score, as the library has it. -/
theorem greatest_eq (scored : List (Candidate × Nat)) :
    greatest scored = (scored.map (·.2)).max?.getD 0 := by
  rw [greatest, List.foldl_max, Nat.zero_max]

/-- No score is above the greatest one. -/
theorem le_greatest {scored : List (Candidate × Nat)} {entry : Candidate × Nat}
    (h : entry ∈ scored) : entry.2 ≤ greatest scored := by
  rw [greatest_eq]
  exact List.le_max?_getD_of_mem (List.mem_map_of_mem h)

/-- One more candidate raises the greatest score to its own, if that is greater. -/
theorem greatest_concat (scored : List (Candidate × Nat)) (entry : Candidate × Nat) :
    greatest (scored ++ [entry]) = max (greatest scored) entry.2 := by
  rw [greatest, List.map_append, List.map_singleton, List.foldl_concat, greatest]

/-- If there are scored candidates, then one has the greatest score. -/
theorem exists_greatest {scored : List (Candidate × Nat)} (h : scored ≠ []) :
    ∃ entry ∈ scored, entry.2 = greatest scored := by
  have hscores : scored.map (·.2) ≠ [] := mt List.map_eq_nil_iff.1 h
  obtain ⟨most, hmost⟩ := Option.isSome_iff_exists.1 (List.isSome_max?_of_ne_nil hscores)
  obtain ⟨entry, hentry, rfl⟩ := List.mem_map.1 (List.max?_mem hmost)
  exact ⟨entry, hentry, by rw [greatest_eq, hmost, Option.getD_some]⟩

/-- The best of some scored candidates are those that no other one has a greater score than. -/
theorem mem_best {scored : List (Candidate × Nat)} {candidate : Candidate} :
    candidate ∈ best scored ↔
      ∃ n, (candidate, n) ∈ scored ∧ ∀ entry ∈ scored, entry.2 ≤ n := by
  have hbest : best scored = (scored.filter (·.2 == greatest scored)).map (·.1) := rfl
  simp only [hbest, List.mem_map, List.mem_filter, beq_iff_eq]
  constructor
  · rintro ⟨⟨_, n⟩, ⟨hmem, rfl⟩, rfl⟩
    exact ⟨_, hmem, fun entry hentry => le_greatest hentry⟩
  · rintro ⟨n, hmem, hle⟩
    obtain ⟨entry, hentry, hgreatest⟩ := exists_greatest (List.ne_nil_of_mem hmem)
    have hn : n = greatest scored :=
      Nat.le_antisymm (le_greatest hmem) (hgreatest ▸ hle entry hentry)
    exact ⟨(candidate, n), ⟨hmem, hn⟩, rfl⟩

/-- There are best candidates unless there are none at all. -/
theorem best_eq_nil_iff {scored : List (Candidate × Nat)} : best scored = [] ↔ scored = [] := by
  constructor
  · intro h
    by_contra hne
    obtain ⟨entry, hentry, hmost⟩ := exists_greatest hne
    have hmem : entry.1 ∈ best scored :=
      mem_best.2 ⟨entry.2, hentry, fun other hother => hmost ▸ le_greatest hother⟩
    exact List.ne_nil_of_mem hmem h
  · rintro rfl
    rfl

/-- The best candidates that a selection works with are those that are the best. -/
theorem mem_best_iff {candidate : Candidate} :
    candidate ∈ best (eligible widens candidates runtime) ↔
      IsBest widens candidates runtime candidate := by
  rw [mem_best]
  constructor
  · rintro ⟨n, hmem, hle⟩
    obtain ⟨hcandidate, htakes, rfl⟩ := mem_eligible_iff.1 hmem
    exact ⟨hcandidate, htakes, fun other hother htaken =>
      hle (other, _) (mem_eligible_iff.2 ⟨hother, htaken, rfl⟩)⟩
  · intro h
    refine ⟨_, mem_eligible_iff.2 ⟨h.mem, h.takes, rfl⟩, ?_⟩
    rintro ⟨other, n⟩ hother
    obtain ⟨hmem, htakes, rfl⟩ := mem_eligible_iff.1 hother
    exact h.most_exact other hmem htakes

/-- If a candidate takes the operands, then one is the best. -/
theorem exists_isBest {candidate : Candidate} (hmem : candidate ∈ candidates)
    (htakes : Takes widens candidate.types runtime) :
    ∃ winner, IsBest widens candidates runtime winner := by
  have hscored : eligible widens candidates runtime ≠ [] :=
    List.ne_nil_of_mem (mem_eligible_iff.2 ⟨hmem, htakes, rfl⟩)
  obtain ⟨winner, hwinner⟩ := List.exists_mem_of_ne_nil _ (mt best_eq_nil_iff.1 hscored)
  exact ⟨winner, mem_best_iff.1 hwinner⟩

/-! ## In one pass -/

/-- The best candidates seen so far, with their score, when another scored one is seen. -/
def keep (kept : List Candidate × Nat) (entry : Candidate × Nat) : List Candidate × Nat :=
  if kept.1 = [] ∨ kept.2 < entry.2 then ([entry.1], entry.2)
  else if entry.2 = kept.2 then (kept.1 ++ [entry.1], kept.2)
  else kept

/-- The best candidates seen so far, with their score, when another candidate is seen. One that does
not take the operands is passed over. -/
def consider (widens : TypeId → TypeId → Bool) (runtime : List TypeId)
    (kept : List Candidate × Nat) (candidate : Candidate) : List Candidate × Nat :=
  match exactPositions? widens candidate.types runtime with
  | none => kept
  | some n => keep kept (candidate, n)

/-- Seeing one more scored candidate keeps that the best ones so far are kept with their score: a
greater score replaces them, the same one joins them, and a lower one is dropped. -/
theorem keep_best (scored : List (Candidate × Nat)) (entry : Candidate × Nat) :
    keep (best scored, greatest scored) entry =
      (best (scored ++ [entry]), greatest (scored ++ [entry])) := by
  have hbest : best (scored ++ [entry]) =
      (scored.filter (·.2 == max (greatest scored) entry.2)).map (·.1) ++
        ([entry].filter (·.2 == max (greatest scored) entry.2)).map (·.1) := by
    rw [← greatest_concat, ← List.map_append, ← List.filter_append]
    rfl
  rw [keep, hbest, greatest_concat]
  dsimp only
  rcases Nat.lt_trichotomy (greatest scored) entry.2 with habove | hsame | hbelow
  · have hnone : scored.filter (·.2 == entry.2) = [] := by
      refine List.filter_eq_nil_iff.2 fun other hother => ?_
      have hle := le_greatest hother
      rw [beq_iff_eq]
      omega
    rw [if_pos (.inr habove), Nat.max_eq_right (Nat.le_of_lt habove), hnone]
    simp
  · have hkept : (scored.filter (·.2 == entry.2)).map (·.1) = best scored := by
      rw [← hsame]
      rfl
    rw [hsame, Nat.max_self, hkept]
    by_cases hnil : best scored = []
    · rw [if_pos (.inl hnil), hnil]
      simp
    · rw [if_neg (by simp [hnil]), if_pos rfl]
      simp
  · have hkept : (scored.filter (·.2 == greatest scored)).map (·.1) = best scored := rfl
    -- a score below the greatest one is dropped, for there are candidates with that
    have hnil : best scored ≠ [] := by
      intro hnil
      rw [best_eq_nil_iff.1 hnil] at hbelow
      exact absurd hbelow (Nat.not_lt_zero _)
    have hne : entry.2 ≠ greatest scored := Nat.ne_of_lt hbelow
    rw [if_neg (by simp [hnil, Nat.le_of_lt hbelow]), if_neg hne,
      Nat.max_eq_left (Nat.le_of_lt hbelow), hkept]
    simp [hne]

/-- After one pass the best candidates are kept with their score. -/
theorem foldl_keep (scored : List (Candidate × Nat)) :
    scored.foldl keep ([], 0) = (best scored, greatest scored) := by
  induction scored using List.reverseRecOn with
  | nil => rfl
  | append_singleton earlier entry ih => rw [List.foldl_concat, ih, keep_best]

/-! ## In the order of registration -/

/-- Placing a candidate keeps others in order. -/
theorem pairwise_place (candidate : Candidate)
    (h : others.Pairwise fun first second => first.function.number ≤ second.function.number) :
    (place candidate others).Pairwise
      fun first second => first.function.number ≤ second.function.number := by
  induction others with
  | nil => exact List.pairwise_singleton _ _
  | cons other rest ih =>
    obtain ⟨hother, hrest⟩ := List.pairwise_cons.1 h
    unfold place
    split
    · rename_i hle
      refine List.pairwise_cons.2 ⟨fun later hlater => ?_, h⟩
      rcases List.mem_cons.1 hlater with rfl | hlater
      · exact hle
      · exact Nat.le_trans hle (hother later hlater)
    · rename_i hlt
      refine List.pairwise_cons.2 ⟨fun later hlater => ?_, ih hrest⟩
      rcases List.mem_cons.1 ((place_perm candidate rest).mem_iff.1 hlater) with rfl | hlater
      · exact Nat.le_of_not_le hlt
      · exact hother later hlater

/-- Ordered candidates are in the order of their keys. -/
theorem pairwise_inOrder (candidates : List Candidate) :
    (inOrder candidates).Pairwise
      fun first second => first.function.number ≤ second.function.number := by
  induction candidates with
  | nil => exact .nil
  | cons candidate rest ih => exact pairwise_place candidate ih

/-- Candidates of different functions are put in one order, however they are given. -/
theorem inOrder_eq_of_perm (hfunctions : (candidates.map (·.function)).Nodup)
    (h : candidates.Perm others) : inOrder candidates = inOrder others := by
  have hperm : (inOrder candidates).Perm (inOrder others) :=
    (inOrder_perm candidates).trans (h.trans (inOrder_perm others).symm)
  refine hperm.eq_of_pairwise ?_ (pairwise_inOrder candidates) (pairwise_inOrder others)
  intro first second hfirst hsecond hle hge
  -- two candidates with one key are one candidate
  have hfirst := (inOrder_perm candidates).mem_iff.1 hfirst
  have hsecond := h.mem_iff.2 ((inOrder_perm others).mem_iff.1 hsecond)
  refine List.inj_on_of_nodup_map hfunctions hfirst hsecond ?_
  exact congrArg FunctionIndex.mk (Nat.le_antisymm hle hge)

/-! ## The decision -/

/-- Nothing is decided only among no candidates. -/
theorem decideAmong_eq_noMatch_iff : decideAmong candidates = .noMatch ↔ candidates = [] := by
  cases candidates with
  | nil => simp [decideAmong]
  | cons first others =>
    rw [decideAmong]
    split <;> simp

end Selection

open Selection

variable {candidates others : List Candidate}

/-- A selection may look at each candidate once, in the order given, with the best ones so far and
their score at hand. -/
theorem select_eq_foldl (widens : TypeId → TypeId → Bool) (candidates : List Candidate)
    (runtime : List TypeId) :
    select widens candidates runtime =
      decideAmong (inOrder (candidates.foldl (consider widens runtime) ([], 0)).1) := by
  have hpass : candidates.foldl (consider widens runtime) ([], 0) =
      (eligible widens candidates runtime).foldl keep ([], 0) := by
    rw [eligible, List.foldl_filterMap]
    congr
    funext kept candidate
    rw [consider]
    cases exactPositions? widens candidate.types runtime <;> rfl
  rw [hpass, foldl_keep, select]

/-- A selection finds that none fits exactly if no candidate takes the operands. -/
theorem select_eq_noMatch_iff :
    select widens candidates runtime = .noMatch ↔
      ∀ candidate ∈ candidates, ¬ Takes widens candidate.types runtime := by
  rw [select, decideAmong_eq_noMatch_iff, ← List.isEmpty_iff, (inOrder_perm _).isEmpty_eq,
    List.isEmpty_iff]
  constructor
  · intro h candidate hmem htakes
    obtain ⟨winner, hwinner⟩ := exists_isBest hmem htakes
    exact List.ne_nil_of_mem (mem_best_iff.2 hwinner) h
  · intro h
    refine List.eq_nil_iff_forall_not_mem.2 fun candidate hcandidate => ?_
    have hbest := mem_best_iff.1 hcandidate
    exact h candidate hbest.mem hbest.takes

/-- A selection among different functions finds the best candidate that was registered first, unless
another best candidate declares the same types. -/
theorem select_eq_found_iff (hfunctions : (candidates.map (·.function)).Nodup)
    {winner : FunctionIndex} :
    select widens candidates runtime = .found winner ↔
      ∃ candidate, candidate.function = winner ∧ IsBest widens candidates runtime candidate ∧
        ∀ other, IsBest widens candidates runtime other →
          winner.number ≤ other.function.number ∧
            (other ≠ candidate → other.types ≠ candidate.types) := by
  have hmem : ∀ candidate, candidate ∈ inOrder (best (eligible widens candidates runtime)) ↔
      IsBest widens candidates runtime candidate :=
    fun candidate => (inOrder_perm _).mem_iff.trans mem_best_iff
  have hsorted := pairwise_inOrder (best (eligible widens candidates runtime))
  have hnodup : (inOrder (best (eligible widens candidates runtime))).Nodup := by
    have hsublist := best_sublist widens candidates runtime
    exact (inOrder_perm _).nodup_iff.2 (hsublist.nodup hfunctions.of_map)
  rw [select, decideAmong_eq_found_iff]
  constructor
  · rintro ⟨first, rest, hbest, rfl, htwins⟩
    rw [hbest] at hmem hsorted
    refine ⟨first, rfl, (hmem first).1 List.mem_cons_self, fun other hother => ?_⟩
    rcases List.mem_cons.1 ((hmem other).2 hother) with rfl | hrest
    · exact ⟨Nat.le_refl _, fun hne => absurd rfl hne⟩
    · exact ⟨(List.pairwise_cons.1 hsorted).1 other hrest, fun _ => htwins other hrest⟩
  · rintro ⟨candidate, rfl, hcandidate, hfirst⟩
    cases hbest : inOrder (best (eligible widens candidates runtime)) with
    | nil =>
      rw [← hmem, hbest] at hcandidate
      exact absurd hcandidate List.not_mem_nil
    | cons first rest =>
      rw [hbest] at hmem hsorted hnodup
      have hfirst_best := (hmem first).1 List.mem_cons_self
      -- the first one in order has the lowest key, as the candidate has
      have hle : first.function.number ≤ candidate.function.number := by
        rcases List.mem_cons.1 ((hmem candidate).2 hcandidate) with rfl | hrest
        · exact Nat.le_refl _
        · exact (List.pairwise_cons.1 hsorted).1 candidate hrest
      have hkey : candidate.function = first.function :=
        congrArg FunctionIndex.mk (Nat.le_antisymm (hfirst first hfirst_best).1 hle)
      obtain rfl : candidate = first :=
        List.inj_on_of_nodup_map hfunctions hcandidate.mem hfirst_best.mem hkey
      refine ⟨candidate, rest, rfl, rfl, fun other hrest => ?_⟩
      refine (hfirst other ((hmem other).1 (List.mem_cons_of_mem _ hrest))).2 ?_
      rintro rfl
      exact (List.nodup_cons.1 hnodup).1 hrest

/-- A selection among different functions does not depend on the order of the candidates. -/
theorem select_eq_of_perm (hfunctions : (candidates.map (·.function)).Nodup)
    (h : candidates.Perm others) :
    select widens candidates runtime = select widens others runtime := by
  have hscored : (eligible widens candidates runtime).Perm (eligible widens others runtime) :=
    h.filterMap _
  have hbest : (best (eligible widens candidates runtime)).Perm
      (best (eligible widens others runtime)) := by
    rw [best, best, (hscored.map _).foldl_eq 0]
    exact (hscored.filter _).map _
  have hdistinct : ((best (eligible widens candidates runtime)).map (·.function)).Nodup :=
    ((best_sublist widens candidates runtime).map _).nodup hfunctions
  rw [select, select, inOrder_eq_of_perm hdistinct hbest]

end Callsite
