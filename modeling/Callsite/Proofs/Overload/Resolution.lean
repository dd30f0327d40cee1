import Callsite.Proofs.Memory.Winners
import Callsite.Proofs.Overload.Best
import Callsite.Proofs.Overload.Unambiguous

/-!
# Which overload a template resolves to

With a type service whose answers never change, a template resolves to its best member for a call:
one that takes the operands, has the most exact positions, and was registered before every other
such member (`Registry.Wins`). It resolves to none exactly if no member takes the operands. What is
remembered does not matter, nor does the order in which the members are looked at.
-/

namespace Callsite

variable {β : Type} {scoring : Scoring}

/-! ## Eligible members and the best of them -/

/-- Whether a member of a template, which declares these types, is eligible for a call: there are as
many types as operands, and each operand is of the declared type or, if overloads accept
refinements, a refinement of it. -/
structure Registry.Eligible (registry : Registry β) (types : TypeService) (template : Template)
    (runtime : List TypeId) (member : FunctionIndex) (declared : List TypeId) : Prop where
  mem : member ∈ template.members
  signature : ∃ callee, registry.function? member = some callee ∧
    callee.signature types = .ok declared
  length_eq : declared.length = runtime.length
  accepted : ∀ (i : Nat) want given, declared[i]? = some want → runtime[i]? = some given →
    want = given ∨
      (registry.settings.subtypeOverloads = true ∧ types.isSubtype given want = true)

/-- Whether an eligible member wins a call: no other one has more exact positions, and those that
have as many were not registered before it. -/
structure Registry.Wins (registry : Registry β) (types : TypeService) (template : Template)
    (runtime : List TypeId) (winner : FunctionIndex) (declared : List TypeId) : Prop where
  eligible : registry.Eligible types template runtime winner declared
  most_exact : ∀ other others, registry.Eligible types template runtime other others →
    exactCount others runtime ≤ exactCount declared runtime
  first : ∀ other others, registry.Eligible types template runtime other others →
    exactCount others runtime = exactCount declared runtime → winner.number ≤ other.number

namespace Registry

variable {registry : Registry β} {types : TypeService} {memory : Memory β} {id : TemplateId}
  {template : Template} {runtime : List TypeId}

/-- Widening accepts the operands that a declared type takes besides its own. -/
theorem takes_iff {declared : List TypeId} :
    Takes (registry.widens types) declared runtime ↔ declared.length = runtime.length ∧
      ∀ (i : Nat) want given, declared[i]? = some want → runtime[i]? = some given →
        want = given ∨
          (registry.settings.subtypeOverloads = true ∧ types.isSubtype given want = true) := by
  rw [Takes, List.forall₂_iff_get]
  simp only [widens, Bool.and_eq_true, List.get_eq_getElem, List.getElem?_eq_some_iff]
  refine and_congr_right fun _ => ⟨?_, ?_⟩
  · rintro h i _ _ ⟨hi, rfl⟩ ⟨hi', rfl⟩
    exact h i hi hi'
  · intro h i hi hi'
    exact h i _ _ ⟨hi, rfl⟩ ⟨hi', rfl⟩

/-- A member is eligible for a call exactly if the types of its signature take the operands. -/
theorem eligible_iff_takes {member : FunctionIndex} {declared : List TypeId} :
    registry.Eligible types template runtime member declared ↔ member ∈ template.members ∧
      (∃ callee, registry.function? member = some callee ∧
        callee.signature types = .ok declared) ∧
      Takes (registry.widens types) declared runtime := by
  rw [takes_iff]
  constructor
  · rintro ⟨hmem, hsignature, hlength, haccepted⟩
    exact ⟨hmem, hsignature, hlength, haccepted⟩
  · rintro ⟨hmem, hsignature, hlength, haccepted⟩
    exact ⟨hmem, hsignature, hlength, haccepted⟩

/-- For services with the same types the same members are eligible. -/
theorem eligible_sameTypes {other : TypeService} (h : types.SameTypes other)
    {member : FunctionIndex} {declared : List TypeId} :
    registry.Eligible other template runtime member declared ↔
      registry.Eligible types template runtime member declared := by
  rw [eligible_iff_takes, eligible_iff_takes, h.same_texts.signature_eq, h.widens_eq]

/-- For services with the same types the same members win. -/
theorem wins_sameTypes {other : TypeService} (h : types.SameTypes other) {winner : FunctionIndex}
    {declared : List TypeId} :
    registry.Wins other template runtime winner declared ↔
      registry.Wins types template runtime winner declared := by
  constructor
  · rintro ⟨heligible, hmost, hfirst⟩
    simp only [eligible_sameTypes h] at heligible hmost hfirst
    exact ⟨heligible, hmost, hfirst⟩
  · rintro ⟨heligible, hmost, hfirst⟩
    simp only [← eligible_sameTypes h] at heligible hmost hfirst
    exact ⟨heligible, hmost, hfirst⟩

/-! ## Members as candidates -/

/-- The overloads of a template are its members, in order. -/
theorem map_index_membersOf (h : registry.WellFormed)
    (htemplate : registry.template? id = some template) :
    (registry.membersOf template).map (·.index) = template.members := by
  rw [membersOf, List.map_filterMap]
  have hfound : ∀ member ∈ template.members,
      (registry.function? member).map (·.index) = some member := by
    intro member hmember
    obtain ⟨callee, hcallee, _⟩ := (h.mem_members_iff htemplate member).1 hmember
    rw [hcallee, Option.map_some, h.function_index hcallee]
  rw [List.filterMap_congr hfound, List.filterMap_some]

/-- The candidates that functions make are these functions, in order. -/
theorem map_function_eq {callees : List (Callee β)} {candidates : List Candidate}
    (h : List.Forall₂ (Callee.IsCandidate types.Names) callees candidates) :
    candidates.map (·.function) = callees.map (·.index) := by
  induction h with
  | nil => rfl
  | cons hfirst _ ih => rw [List.map_cons, List.map_cons, ih, hfirst.1]

/-- The candidates of a template are of different functions. -/
theorem nodup_function_of_candidates (h : registry.WellFormed)
    (htemplate : registry.template? id = some template) {candidates : List Candidate}
    (hcandidates : List.Forall₂ (Callee.IsCandidate types.Names) (registry.membersOf template)
      candidates) : (candidates.map (·.function)).Nodup := by
  rw [map_function_eq hcandidates, map_index_membersOf h htemplate]
  exact h.members_nodup htemplate

/-- The candidates of a template are its members with their signatures. -/
theorem mem_candidates_iff (h : registry.WellFormed) (hstable : types.Stable)
    {candidates : List Candidate}
    (hcandidates : List.Forall₂ (Callee.IsCandidate types.Names) (registry.membersOf template)
      candidates) {member : FunctionIndex} {declared : List TypeId} :
    ⟨member, declared⟩ ∈ candidates ↔ member ∈ template.members ∧
      ∃ callee, registry.function? member = some callee ∧
        callee.signature types = .ok declared := by
  constructor
  · intro hcandidate
    obtain ⟨callee, hcallee, hindex, htyped⟩ := exists_mem_left_of_forall₂ hcandidates hcandidate
    obtain ⟨hmember, hregistered⟩ := h.mem_membersOf.1 hcallee
    obtain rfl : member = callee.index := hindex
    exact ⟨hmember, callee, hregistered, (Callee.signature_eq_ok_iff hstable).2 htyped⟩
  · rintro ⟨hmember, callee, hcallee, hsignature⟩
    have hmem : callee ∈ registry.membersOf template := List.mem_filterMap.2 ⟨_, hmember, hcallee⟩
    obtain ⟨candidate, hcandidate, hindex, htyped⟩ :=
      exists_mem_left_of_forall₂ (R := fun candidate callee =>
        Callee.IsCandidate types.Names callee candidate) hcandidates.flip hmem
    -- a function has one signature
    have hsame := (Callee.signature_eq_ok_iff hstable).2 htyped
    rw [hsignature] at hsame
    obtain rfl : member = candidate.function := by rw [hindex, h.function_index hcallee]
    obtain rfl := Except.ok.inj hsame
    exact hcandidate

/-- The eligible members are the candidates that take the operands. -/
theorem eligible_iff (h : registry.WellFormed) (hstable : types.Stable)
    {candidates : List Candidate}
    (hcandidates : List.Forall₂ (Callee.IsCandidate types.Names) (registry.membersOf template)
      candidates) {member : FunctionIndex} {declared : List TypeId} :
    registry.Eligible types template runtime member declared ↔
      ⟨member, declared⟩ ∈ candidates ∧ Takes (registry.widens types) declared runtime := by
  rw [mem_candidates_iff h hstable hcandidates, eligible_iff_takes, and_assoc]

/-- A member wins exactly if it is the best candidate and was registered before every other one. -/
theorem wins_iff (h : registry.WellFormed) (hstable : types.Stable) {candidates : List Candidate}
    (hcandidates : List.Forall₂ (Callee.IsCandidate types.Names) (registry.membersOf template)
      candidates) {winner : FunctionIndex} {declared : List TypeId} :
    registry.Wins types template runtime winner declared ↔
      Selection.IsBest (registry.widens types) candidates runtime ⟨winner, declared⟩ ∧
        ∀ other, Selection.IsBest (registry.widens types) candidates runtime other →
          winner.number ≤ other.function.number := by
  constructor
  · rintro ⟨heligible, hmost, hfirst⟩
    obtain ⟨hmem, htakes⟩ := (eligible_iff h hstable hcandidates).1 heligible
    refine ⟨⟨hmem, htakes, fun other hother htaken => ?_⟩, fun other hother => ?_⟩
    · exact hmost _ _ ((eligible_iff h hstable hcandidates).2 ⟨hother, htaken⟩)
    · have hother_eligible := (eligible_iff h hstable hcandidates).2 ⟨hother.mem, hother.takes⟩
      exact hfirst _ _ hother_eligible (Nat.le_antisymm (hmost _ _ hother_eligible)
        (hother.most_exact _ hmem htakes))
  · rintro ⟨hbest, hfirst⟩
    refine ⟨(eligible_iff h hstable hcandidates).2 ⟨hbest.mem, hbest.takes⟩, ?_, ?_⟩
    · intro other others hother
      obtain ⟨hmem, htakes⟩ := (eligible_iff h hstable hcandidates).1 hother
      exact hbest.most_exact _ hmem htakes
    · intro other others hother hcount
      obtain ⟨hmem, htakes⟩ := (eligible_iff h hstable hcandidates).1 hother
      refine hfirst ⟨other, others⟩ ⟨hmem, htakes, fun third hthird hthird_takes => ?_⟩
      rw [hcount]
      exact hbest.most_exact third hthird hthird_takes

/-! ## Selecting a member -/

/-- What a selection answers is decided by the candidates that are made. -/
theorem result_selectOverload_of_candidates {candidates : List Candidate}
    (h : (candidatesOf types (registry.membersOf template) memory).result = .ok candidates) :
    (registry.selectOverload types template runtime memory).result =
      match select (registry.widens types) candidates runtime with
      | .found winner => .ok winner
      | .noMatch => .error (.noMatch template.name (types.describe runtime))
      | .ambiguous twins => .error (.ambiguous template.name (types.describe runtime)
          (registry.namesOf twins)) := by
  rw [selectOverload, Answer.andThen_of_ok (Answer.result_mapError_eq_ok.2 h)]
  cases select (registry.widens types) candidates runtime <;> rfl

/-- Looking at the members in another order selects the same one. -/
theorem result_selectOverload_perm (h : registry.WellFormed) (hstable : types.Stable)
    (hmemory : memory.TypesFrom registry types.Names)
    (htemplate : registry.template? id = some template) {candidates : List Candidate}
    (hcandidates : List.Forall₂ (Callee.IsCandidate types.Names) (registry.membersOf template)
      candidates) {order : List FunctionIndex} (horder : order.Perm template.members) :
    (registry.selectOverload types { template with members := order } runtime memory).result =
      (registry.selectOverload types template runtime memory).result := by
  have hmembers : (registry.membersOf { template with members := order }).Perm
      (registry.membersOf template) := horder.filterMap _
  obtain ⟨others, hothers, hperm⟩ := List.perm_comp_forall₂ hmembers hcandidates
  have hregistered := h.registered_of_mem_membersOf template
  have hmade := result_candidatesOf_eq_ok hstable hregistered hmemory hcandidates
  have hmade_others := result_candidatesOf_eq_ok hstable
    (fun callee hcallee => hregistered callee (hmembers.mem_iff.1 hcallee)) hmemory hothers
  have hfunctions := nodup_function_of_candidates h htemplate hcandidates
  rw [result_selectOverload_of_candidates hmade, result_selectOverload_of_candidates hmade_others,
    select_eq_of_perm hfunctions hperm.symm]

/-- If the overloads of a template have distinct signatures, so have its candidates. -/
theorem nodup_types_of_candidates (hstable : types.Stable)
    (hdistinct : registry.DistinctSignatures types)
    (htemplate : registry.template? id = some template) {candidates : List Candidate}
    (hcandidates : List.Forall₂ (Callee.IsCandidate types.Names) (registry.membersOf template)
      candidates) : (candidates.map (·.types)).Nodup := by
  have hsignatures := hdistinct.nodup id template htemplate
  rw [map_signature_eq hstable hcandidates] at hsignatures
  exact hsignatures.of_map

/-- If the overloads of a template have distinct signatures, a selection among them finds the member
that wins. -/
theorem select_eq_found_iff_wins (h : registry.WellFormed) (hstable : types.Stable)
    (hdistinct : registry.DistinctSignatures types)
    (htemplate : registry.template? id = some template) {candidates : List Candidate}
    (hcandidates : List.Forall₂ (Callee.IsCandidate types.Names) (registry.membersOf template)
      candidates) {winner : FunctionIndex} :
    select (registry.widens types) candidates runtime = .found winner ↔
      ∃ declared, registry.Wins types template runtime winner declared := by
  have htypes := nodup_types_of_candidates hstable hdistinct htemplate hcandidates
  rw [select_eq_found_iff (nodup_function_of_candidates h htemplate hcandidates)]
  simp only [wins_iff h hstable hcandidates]
  constructor
  · rintro ⟨⟨_, declared⟩, rfl, hbest, hothers⟩
    exact ⟨declared, hbest, fun other hother => (hothers other hother).1⟩
  · rintro ⟨declared, hbest, hfirst⟩
    refine ⟨⟨winner, declared⟩, rfl, hbest, fun other hother => ⟨hfirst other hother, ?_⟩⟩
    exact fun hne hsame => hne (List.inj_on_of_nodup_map htypes hother.mem hbest.mem hsame)

/-- A selection among the members of a template finds that none fits exactly if none is eligible. -/
theorem select_eq_noMatch_iff_not_eligible (h : registry.WellFormed) (hstable : types.Stable)
    {candidates : List Candidate}
    (hcandidates : List.Forall₂ (Callee.IsCandidate types.Names) (registry.membersOf template)
      candidates) :
    select (registry.widens types) candidates runtime = .noMatch ↔
      ∀ member declared, ¬ registry.Eligible types template runtime member declared := by
  rw [select_eq_noMatch_iff]
  simp only [eligible_iff h hstable hcandidates, not_and]
  exact ⟨fun hall member declared => hall ⟨member, declared⟩,
    fun hall candidate => hall candidate.function candidate.types⟩

/-- If the overloads of a template have distinct signatures, the member that wins is selected, and
none exactly if no member is eligible. -/
theorem selectOverload_spec (h : registry.WellFormed) (hstable : types.Stable)
    (hdistinct : registry.DistinctSignatures types)
    (hmemory : memory.TypesFrom registry types.Names)
    (htemplate : registry.template? id = some template) {candidates : List Candidate}
    (hcandidates : List.Forall₂ (Callee.IsCandidate types.Names) (registry.membersOf template)
      candidates) :
    (∀ winner, (registry.selectOverload types template runtime memory).result = .ok winner ↔
      ∃ declared, registry.Wins types template runtime winner declared) ∧
    ∀ failure, (registry.selectOverload types template runtime memory).result = .error failure ↔
      failure = .noMatch template.name (types.describe runtime) ∧
        ∀ member declared, ¬ registry.Eligible types template runtime member declared := by
  have hmade := result_candidatesOf_eq_ok hstable (h.registered_of_mem_membersOf template)
    hmemory hcandidates
  simp only [← select_eq_found_iff_wins h hstable hdistinct htemplate hcandidates,
    ← select_eq_noMatch_iff_not_eligible h hstable hcandidates,
    result_selectOverload_of_candidates hmade]
  cases hselect : select (registry.widens types) candidates runtime with
  | found winner => simp
  | noMatch => simp [eq_comm]
  | ambiguous twins =>
    have htypes := nodup_types_of_candidates hstable hdistinct htemplate hcandidates
    exact absurd hselect (select_ne_ambiguous htypes twins)

/-- A member that declares exactly the types of the operands wins. -/
theorem wins_of_signature_eq (h : registry.WellFormed)
    (hdistinct : registry.DistinctSignatures types)
    (htemplate : registry.template? id = some template) {member : FunctionIndex}
    (hmember : member ∈ template.members) {callee : Callee β}
    (hcallee : registry.function? member = some callee)
    (hsignature : callee.signature types = .ok runtime) :
    registry.Wins types template runtime member runtime := by
  have hexact : exactCount runtime runtime = runtime.length :=
    (exactCount_eq_length_iff rfl).2 rfl
  obtain ⟨hlength, haccepted⟩ := takes_iff.1 (takes_self (registry.widens types) runtime)
  refine ⟨⟨hmember, ⟨callee, hcallee, hsignature⟩, hlength, haccepted⟩, ?_, ?_⟩
  · intro other others _
    rw [hexact]
    exact exactCount_le_length others runtime
  · intro other others hother hcount
    -- no other member declares these types
    obtain ⟨found, hfound, hfound_signature⟩ := hother.signature
    rw [hexact, exactCount_eq_length_iff hother.length_eq] at hcount
    subst hcount
    have hmem : ∀ {index callee}, index ∈ template.members →
        registry.function? index = some callee → callee ∈ registry.membersOf template :=
      fun hindex hfound => List.mem_filterMap.2 ⟨_, hindex, hfound⟩
    obtain rfl : callee = found := List.inj_on_of_nodup_map (hdistinct.nodup id template htemplate)
      (hmem hmember hcallee) (hmem hother.mem hfound) (hsignature.trans hfound_signature.symm)
    have hsame : member = other := (h.function_index hcallee).symm.trans (h.function_index hfound)
    exact Nat.le_of_eq (congrArg FunctionIndex.number hsame)

/-! ## Every history -/

section History

variable {opened : Memory β} {history : List (TypeService × Query)} {service : TypeService}

/-- What is known and remembered after a history of questions is what the service of the next
question gives. -/
theorem Opened.settled_answerAll (h : registry.Opened types opened) (hstable : types.Stable)
    (hhistory : ∀ step ∈ history, types.SameTypes step.1) (hservice : types.SameTypes service)
    (scoring : Scoring) :
    (registry.answerAll scoring history opened).2.TypesFrom registry service.Names ∧
      (registry.answerAll scoring history opened).2.WinnersSelected registry service := by
  constructor
  · rw [hservice.same_texts.names_eq]
    exact h.typesFrom_answerAll hstable.answersWithin
      fun step hstep => (hhistory step hstep).same_texts.answersWithin hstable
  · exact .sameTypes hservice (h.winnersSelected_answerAll hstable hhistory)

/-- At every point of every history a template resolves to the member that wins, and to none exactly
if no member is eligible. -/
theorem Opened.resolveTemplate_spec (h : registry.Opened types opened) (hstable : types.Stable)
    (hhistory : ∀ step ∈ history, types.SameTypes step.1) (hservice : types.SameTypes service)
    (htemplate : registry.template? id = some template) (scoring : Scoring)
    (runtime : List TypeId) :
    (∀ winner, (registry.resolveTemplate service id runtime
        (registry.answerAll scoring history opened).2).result = .ok winner ↔
      ∃ declared, registry.Wins service template runtime winner declared) ∧
    ∀ failure, (registry.resolveTemplate service id runtime
        (registry.answerAll scoring history opened).2).result = .error failure ↔
      failure = .noMatch template.name (service.describe runtime) ∧
        ∀ member declared, ¬ registry.Eligible service template runtime member declared := by
  have hregistry := h.wellFormed
  have hlater := hservice.same_texts.stable hstable
  have hdistinct := (h.distinctSignatures hstable).sameTexts hservice.same_texts
  obtain ⟨hmemory, hwinners⟩ := h.settled_answerAll hstable hhistory hservice scoring
  obtain ⟨candidates, hcandidates⟩ :=
    exists_candidates hlater (hdistinct.exists_signature id template htemplate)
  rw [result_resolveTemplate_eq hregistry hlater hmemory hwinners htemplate]
  exact selectOverload_spec hregistry hlater hdistinct hmemory htemplate hcandidates

/-- At every point of every history a template resolves to the member that wins with the first
service. -/
theorem Opened.resolveTemplate_eq_ok_iff (h : registry.Opened types opened)
    (hstable : types.Stable) (hhistory : ∀ step ∈ history, types.SameTypes step.1)
    (hservice : types.SameTypes service) (htemplate : registry.template? id = some template)
    {winner : FunctionIndex} :
    (registry.resolveTemplate service id runtime
        (registry.answerAll scoring history opened).2).result = .ok winner ↔
      ∃ declared, registry.Wins types template runtime winner declared := by
  simp only [(h.resolveTemplate_spec hstable hhistory hservice htemplate scoring runtime).1 winner,
    wins_sameTypes hservice]

/-- At every point of every history a template resolves to none exactly if no member is eligible
with the first service. -/
theorem Opened.resolveTemplate_eq_error_iff (h : registry.Opened types opened)
    (hstable : types.Stable) (hhistory : ∀ step ∈ history, types.SameTypes step.1)
    (hservice : types.SameTypes service) (htemplate : registry.template? id = some template)
    {failure : ResolveError} :
    (registry.resolveTemplate service id runtime
        (registry.answerAll scoring history opened).2).result = .error failure ↔
      failure = .noMatch template.name (service.describe runtime) ∧
        ∀ member declared, ¬ registry.Eligible types template runtime member declared := by
  simp only [(h.resolveTemplate_spec hstable hhistory hservice htemplate scoring runtime).2 failure,
    eligible_sameTypes hservice]

end History

end Registry

/-- With a type service whose answers never change, at every point of every history: a template
resolves to a member exactly if that member wins the call, it fails only with the error that no
overload accepts the operands and exactly if no member is eligible, a member that declares exactly
the types of the operands wins, and the members may be looked at in any order. -/
theorem template_resolves_to_best {registry : Registry β} {types : TypeService}
    {opened : Memory β} (h : registry.Opened types opened) (hstable : types.Stable)
    {history : List (TypeService × Query)} (hhistory : ∀ step ∈ history, types.SameTypes step.1)
    {service : TypeService} (hservice : types.SameTypes service) {id : TemplateId}
    {template : Template} (htemplate : registry.template? id = some template)
    (scoring : Scoring) (runtime : List TypeId) :
    let memory := (registry.answerAll scoring history opened).2
    let resolved := (registry.resolveTemplate service id runtime memory).result
    (∀ winner, resolved = .ok winner ↔
      ∃ declared, registry.Wins service template runtime winner declared) ∧
    (∀ failure, resolved = .error failure ↔
      failure = .noMatch template.name (service.describe runtime) ∧
        ∀ member declared, ¬ registry.Eligible service template runtime member declared) ∧
    (∀ member ∈ template.members, ∀ callee, registry.function? member = some callee →
      callee.signature service = .ok runtime → resolved = .ok member) ∧
    ∀ order : List FunctionIndex, order.Perm template.members →
      (registry.selectOverload service { template with members := order } runtime memory).result =
        resolved := by
  intro memory resolved
  have hregistry := h.wellFormed
  have hlater := hservice.same_texts.stable hstable
  have hdistinct := (h.distinctSignatures hstable).sameTexts hservice.same_texts
  obtain ⟨hfound, hfailed⟩ :=
    h.resolveTemplate_spec hstable hhistory hservice htemplate scoring runtime
  refine ⟨hfound, hfailed, ?exact, ?order⟩
  case exact =>
    intro member hmember callee hcallee hsignature
    have hwins := Registry.wins_of_signature_eq hregistry hdistinct htemplate hmember hcallee
      hsignature
    exact (hfound member).2 ⟨runtime, hwins⟩
  case order =>
    intro order horder
    obtain ⟨hmemory, hwinners⟩ := h.settled_answerAll hstable hhistory hservice scoring
    obtain ⟨candidates, hcandidates⟩ :=
      exists_candidates hlater (hdistinct.exists_signature id template htemplate)
    rw [Registry.result_selectOverload_perm hregistry hlater hmemory htemplate hcandidates horder]
    exact (Registry.result_resolveTemplate_eq hregistry hlater hmemory hwinners htemplate _).symm

namespace Sample

/-- The template of the sample registry. -/
def add : Template :=
  ⟨⟨0⟩, "Add", [⟨0⟩, ⟨1⟩], some "Add(in a,in rest)"⟩

/-- The template is registered under the first key. -/
theorem template?_draft : draft.registry.template? ⟨0⟩ = some add := by decide +kernel

/-- A call that both overloads take. -/
def addition : List (TypeService × Query) :=
  [(types, .resolveTemplate ⟨0⟩ [⟨1⟩, ⟨1⟩])]

/-- The call is made with the sample service. -/
theorem sameTypes_of_mem_addition : ∀ step ∈ addition, types.SameTypes step.1 := by
  intro step hstep
  rw [List.mem_singleton.1 hstep]
  exact .refl types

end Sample

/-- In the sample registry, after a call that both overloads take was resolved, the same call is
won by the overload that declares the types of its operands; no member takes a third operand. -/
theorem template_resolves_to_exact_overload :
    Sample.draft.registry.Opened Sample.types Sample.opened ∧ Sample.types.Stable ∧
      (∀ step ∈ Sample.addition, Sample.types.SameTypes step.1) ∧
      Sample.draft.registry.template? ⟨0⟩ = some Sample.add ∧
      (Sample.draft.registry.resolveTemplate Sample.types ⟨0⟩ [⟨1⟩, ⟨1⟩]
        (Sample.draft.registry.answerAll .jaroWinkler Sample.addition Sample.opened).2).result =
          .ok ⟨0⟩ ∧
      (∃ declared, Sample.draft.registry.Wins Sample.types Sample.add [⟨1⟩, ⟨1⟩] ⟨0⟩ declared) ∧
      ∀ member declared, ¬ Sample.draft.registry.Eligible Sample.types Sample.add
        [⟨1⟩, ⟨1⟩, ⟨1⟩] member declared := by
  have hstable : Sample.types.Stable := Catalog.service_stable _
  have hhistory := Sample.sameTypes_of_mem_addition
  have hpair := (template_resolves_to_best Sample.opened_draft hstable hhistory
    (.refl Sample.types) Sample.template?_draft .jaroWinkler [⟨1⟩, ⟨1⟩]).1 ⟨0⟩
  have htriple := (template_resolves_to_best Sample.opened_draft hstable hhistory
    (.refl Sample.types) Sample.template?_draft .jaroWinkler [⟨1⟩, ⟨1⟩, ⟨1⟩]).2.1
      (.noMatch "Add" "[Int, Int, Int]")
  have hwinner : (Sample.draft.registry.resolveTemplate Sample.types ⟨0⟩ [⟨1⟩, ⟨1⟩]
      (Sample.draft.registry.answerAll .jaroWinkler Sample.addition Sample.opened).2).result =
        .ok ⟨0⟩ := by
    decide +kernel
  have hnone := (htriple.1 (by decide +kernel)).2
  exact ⟨Sample.opened_draft, hstable, hhistory, Sample.template?_draft, hwinner,
    hpair.1 hwinner, hnone⟩

end Callsite
