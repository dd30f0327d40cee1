import Callsite.Proofs.Overload.Resolution
import Callsite.Proofs.Typing.Refinement

/-!
# How specific the winner is

A member of a template is more specific than another one if it declares other types, each of them
that of the other member or a refinement of it. A call is won by its exact positions and, where
these tie, by the order of registration, so that the winner need not be the most specific member:
overloads for numbers and for integers, registered in this order, leave a byte to the first. In a
catalog the winner comes near to it: an eligible member that is more specific has the winner's exact
positions and was registered after it, and where the two differ its type lies strictly between that
of the operand and that of the winner.
-/

namespace Callsite

variable {β : Type}

/-- Whether declared types are more specific than others: they are not the same, and each is the
other one or refines it. -/
structure TypeService.MoreSpecific (types : TypeService) (declared others : List TypeId) :
    Prop where
  ne : declared ≠ others
  refines : List.Forall₂ (fun type other => type = other ∨ types.isSubtype type other = true)
    declared others

/-! ## Exact positions -/

/-- Types that are exact wherever others are have at least as many exact positions, and if they have
as many, then the others are exact wherever they are. -/
theorem exactCount_mono {declared others runtime : List TypeId}
    (hdeclared : declared.length = runtime.length) (hothers : others.length = runtime.length)
    (hexact : ∀ (i : Nat) want other given, declared[i]? = some want → others[i]? = some other →
      runtime[i]? = some given → want = given → other = given) :
    exactCount declared runtime ≤ exactCount others runtime ∧
      (exactCount declared runtime = exactCount others runtime →
        ∀ (i : Nat) want other given, declared[i]? = some want → others[i]? = some other →
          runtime[i]? = some given → other = given → want = given) := by
  induction runtime generalizing declared others with
  | nil =>
    obtain rfl := List.eq_nil_of_length_eq_zero hdeclared
    obtain rfl := List.eq_nil_of_length_eq_zero hothers
    exact ⟨Nat.le_refl _, fun _ i want other given hwant => absurd hwant (by simp)⟩
  | cons given runtime ih =>
    obtain ⟨want, declared, rfl⟩ := List.exists_cons_of_length_eq_add_one hdeclared
    obtain ⟨other, others, rfl⟩ := List.exists_cons_of_length_eq_add_one hothers
    obtain ⟨hle, heq⟩ := ih (Nat.succ.inj hdeclared) (Nat.succ.inj hothers)
      fun i => hexact (i + 1)
    have hhead : want = given → other = given := hexact 0 want other given rfl rfl rfl
    have hcount : ∀ (first : TypeId) (rest : List TypeId),
        exactCount (first :: rest) (given :: runtime) =
          exactCount rest runtime + if first = given then 1 else 0 := by
      intro first rest
      simp [exactCount, List.countP_cons]
    rw [hcount, hcount]
    have hone : (if want = given then 1 else 0) ≤ if other = given then 1 else 0 := by
      by_cases hwant : want = given
      · exact Nat.le_of_eq (by rw [if_pos hwant, if_pos (hhead hwant)])
      · rw [if_neg hwant]
        exact Nat.zero_le _
    refine ⟨Nat.add_le_add hle hone, fun hsame i => ?_⟩
    cases i with
    | zero =>
      rintro _ _ _ ⟨rfl⟩ ⟨rfl⟩ ⟨rfl⟩ hother
      by_contra hwant
      rw [if_neg hwant, if_pos hother] at hsame
      omega
    | succ i => exact heq (by omega) i

/-! ## Members more specific than the winner -/

namespace Registry

variable {registry : Registry β} {types : TypeService} {template : Template}
  {runtime : List TypeId}

/-- A member declares one list of types. -/
theorem Eligible.declared_eq {member : FunctionIndex} {declared others : List TypeId}
    (h : registry.Eligible types template runtime member declared)
    (hother : registry.Eligible types template runtime member others) : declared = others := by
  obtain ⟨callee, hcallee, hsignature⟩ := h.signature
  obtain ⟨other, hfound, hother_signature⟩ := hother.signature
  obtain rfl := Option.some.inj (hcallee.symm.trans hfound)
  exact Except.ok.inj (hsignature.symm.trans hother_signature)

/-- If no two types refine each other, a more specific eligible member is exact wherever the winner
is, which leaves it no other exact position, and was registered later. -/
theorem Wins.of_moreSpecific
    (hantisymm : ∀ first second, types.isSubtype first second = true →
      types.isSubtype second first = true → first = second)
    {winner member : FunctionIndex} {declared others : List TypeId}
    (hwins : registry.Wins types template runtime winner declared)
    (hmember : registry.Eligible types template runtime member others)
    (hspecific : types.MoreSpecific others declared) :
    winner.number < member.number ∧
      ∀ (i : Nat) want other given, declared[i]? = some want → others[i]? = some other →
        runtime[i]? = some given → (want = given ↔ other = given) := by
  have hrefines : ∀ (i : Nat) want other, declared[i]? = some want → others[i]? = some other →
      other = want ∨ types.isSubtype other want = true := by
    intro i want other hwant hother
    obtain ⟨hi, rfl⟩ := List.getElem?_eq_some_iff.1 hwant
    obtain ⟨hi', rfl⟩ := List.getElem?_eq_some_iff.1 hother
    exact hspecific.refines.get hi' hi
  have hexact : ∀ (i : Nat) want other given, declared[i]? = some want →
      others[i]? = some other → runtime[i]? = some given → want = given → other = given := by
    rintro i want other _ hwant hother hgiven rfl
    -- the operand refines the member's type, which refines that of the operand
    rcases hmember.accepted i other want hother hgiven with hsame | ⟨_, hbelow⟩
    · exact hsame
    · rcases hrefines i want other hwant hother with hsame | habove
      · exact hsame
      · exact hantisymm other want habove hbelow
  obtain ⟨hle, heq⟩ := exactCount_mono hwins.eligible.length_eq hmember.length_eq hexact
  have hcount := Nat.le_antisymm hle (hwins.most_exact member others hmember)
  have hfirst := hwins.first member others hmember hcount.symm
  have hne : winner.number ≠ member.number := by
    intro hsame
    obtain rfl : winner = member := congrArg FunctionIndex.mk hsame
    exact hspecific.ne (hmember.declared_eq hwins.eligible)
  refine ⟨Nat.lt_of_le_of_ne hfirst hne, fun i want other given hwant hother hgiven => ?_⟩
  exact ⟨hexact i want other given hwant hother hgiven,
    heq hcount i want other given hwant hother hgiven⟩

end Registry

/-! ## The winner and the most specific member -/

namespace Sample

/-- Bytes are integers, and integers are numbers. -/
def nested : List Catalog.Request :=
  [.declare "Number", .refine "Int" ⟨0⟩, .refine "Byte" ⟨1⟩, .declare "ExecuteContext"]

/-- The catalog of nested types as a service. -/
def nestedTypes : TypeService := (Catalog.empty.applyAll nested).service

/-- A template with an overload for numbers, and then one for integers. -/
def showing : List (Registration String) :=
  [.template "Show",
    .member ⟨0⟩ .nobody ⟨"ShowNumber", some (.function "show"), [⟨"x", "Number", .input⟩]⟩,
    .member ⟨0⟩ .nobody ⟨"ShowInt", some (.function "show"), [⟨"x", "Int", .input⟩]⟩]

/-- The draft with the template. -/
def shows : Draft String := Draft.applyAll nestedTypes ⟨.empty {} ⟨3⟩, .fresh 1⟩ showing

/-- The memory of the registry that the draft is frozen into. -/
def showsOpened : Memory String := (shows.freeze nestedTypes).state

/-- The template with its two overloads. -/
def showTemplate : Template :=
  ⟨⟨0⟩, "Show", [⟨0⟩, ⟨1⟩], some "Show(in x)"⟩

/-- The tables with the template are those of an opened registry. -/
theorem opened_shows : shows.registry.Opened nestedTypes showsOpened :=
  ⟨{}, ⟨.empty {} ⟨3⟩, .fresh 1⟩, showing, rfl, Draft.freeze_eq_of_isOk (by decide +kernel)⟩

/-- The template is found by its key. -/
theorem template?_shows : shows.registry.template? ⟨0⟩ = some showTemplate := by
  decide +kernel

/-- The overload for numbers takes a byte. -/
theorem eligible_number :
    shows.registry.Eligible nestedTypes showTemplate [⟨2⟩] ⟨0⟩ [⟨0⟩] := by
  have htakes : Takes (shows.registry.widens nestedTypes) [⟨0⟩] [⟨2⟩] :=
    .cons (.inr (by decide +kernel)) .nil
  obtain ⟨hlength, haccepted⟩ := Registry.takes_iff.1 htakes
  exact ⟨by decide, ⟨_, rfl, by decide +kernel⟩, hlength, haccepted⟩

/-- The overload for integers takes a byte. -/
theorem eligible_int :
    shows.registry.Eligible nestedTypes showTemplate [⟨2⟩] ⟨1⟩ [⟨1⟩] := by
  have htakes : Takes (shows.registry.widens nestedTypes) [⟨1⟩] [⟨2⟩] :=
    .cons (.inr (by decide +kernel)) .nil
  obtain ⟨hlength, haccepted⟩ := Registry.takes_iff.1 htakes
  exact ⟨by decide, ⟨_, rfl, by decide +kernel⟩, hlength, haccepted⟩

/-- Integers are more specific than numbers. -/
theorem moreSpecific_int : nestedTypes.MoreSpecific [⟨1⟩] [⟨0⟩] :=
  ⟨by decide, .cons (.inr (by decide +kernel)) .nil⟩

/-- A byte is shown by the overload for numbers, which was registered first. -/
theorem resolveTemplate_shows : (shows.registry.resolveTemplate nestedTypes ⟨0⟩ [⟨2⟩]
    showsOpened).result = .ok ⟨0⟩ := by
  decide +kernel

end Sample

/-- The winner need not be the most specific member: a byte is shown by the overload for numbers
although the one for integers takes it as well. Both have no exact position, and the one for numbers
was registered first. -/
theorem general_overload_wins :
    Sample.shows.registry.Opened (Catalog.empty.applyAll Sample.nested).service
        Sample.showsOpened ∧
      Sample.shows.registry.settings.subtypeOverloads = true ∧
      Sample.shows.registry.template? ⟨0⟩ = some Sample.showTemplate ∧
      (Sample.shows.registry.resolveTemplate (Catalog.empty.applyAll Sample.nested).service ⟨0⟩
        [⟨2⟩] Sample.showsOpened).result = .ok ⟨0⟩ ∧
      Sample.shows.registry.Eligible Sample.nestedTypes Sample.showTemplate [⟨2⟩] ⟨0⟩ [⟨0⟩] ∧
      Sample.shows.registry.Eligible Sample.nestedTypes Sample.showTemplate [⟨2⟩] ⟨1⟩ [⟨1⟩] ∧
      Sample.nestedTypes.MoreSpecific [⟨1⟩] [⟨0⟩] :=
  ⟨Sample.opened_shows, by decide +kernel, Sample.template?_shows, Sample.resolveTemplate_shows,
    Sample.eligible_number, Sample.eligible_int, Sample.moreSpecific_int⟩

/-- In a catalog, at every point of every history: if a template resolves to a member, then every
eligible member that is more specific has exactly the same exact positions and was registered later,
and at every position at which it declares another type the operand's type properly refines that
type, which properly refines the winner's. -/
theorem more_specific_overloads_come_later {requests : List Catalog.Request}
    {registry : Registry β} {opened : Memory β}
    (h : registry.Opened (Catalog.empty.applyAll requests).service opened)
    (scoring : Scoring) {history : List (TypeService × Query)}
    (hhistory : ∀ step ∈ history, step.1 = (Catalog.empty.applyAll requests).service)
    {id : TemplateId} {template : Template} (htemplate : registry.template? id = some template)
    {runtime : List TypeId} {winner : FunctionIndex}
    (hwinner : (registry.resolveTemplate (Catalog.empty.applyAll requests).service id runtime
      (registry.answerAll scoring history opened).2).result = .ok winner) :
    let types := (Catalog.empty.applyAll requests).service
    ∃ declared, registry.Eligible types template runtime winner declared ∧
      ∀ member others, registry.Eligible types template runtime member others →
        types.MoreSpecific others declared →
          winner.number < member.number ∧
          ∀ (i : Nat) want other given, declared[i]? = some want → others[i]? = some other →
            runtime[i]? = some given → (want = given ↔ other = given) ∧
              (want ≠ other → given ≠ other ∧ types.isSubtype given other = true ∧
                types.isSubtype other want = true) := by
  intro types
  have hstable : types.Stable := Catalog.service_stable _
  have hsame : ∀ step ∈ history, types.SameTypes step.1 := by
    intro step hstep
    rw [hhistory step hstep]
    exact .refl types
  obtain ⟨declared, hwins⟩ :=
    ((h.resolveTemplate_spec hstable hsame (.refl types) htemplate scoring runtime).1 winner).1
      hwinner
  refine ⟨declared, hwins.eligible, fun member others hmember hspecific => ?_⟩
  have hparents := Catalog.parentsFirst_applyAll requests
  obtain ⟨hlater, hexact⟩ := hwins.of_moreSpecific
    (fun first second => Catalog.isSubtype_antisymm hparents) hmember hspecific
  refine ⟨hlater, fun i want other given hwant hother hgiven => ?_⟩
  have hiff := hexact i want other given hwant hother hgiven
  refine ⟨hiff, fun hne => ?_⟩
  have hstrict : given ≠ other := by
    rintro rfl
    exact hne (hiff.2 rfl)
  have hbelow : types.isSubtype given other = true := by
    rcases hmember.accepted i other given hother hgiven with hsame | ⟨_, hbelow⟩
    · exact absurd hsame.symm hstrict
    · exact hbelow
  have habove : types.isSubtype other want = true := by
    obtain ⟨hi, rfl⟩ := List.getElem?_eq_some_iff.1 hwant
    obtain ⟨hi', rfl⟩ := List.getElem?_eq_some_iff.1 hother
    exact (hspecific.refines.get hi' hi).resolve_left hne.symm
  exact ⟨hstrict, hbelow, habove⟩

/-- In the registry with overloads for numbers and for integers, the one for integers is eligible
for a byte and more specific than the winner, and so it was registered later. -/
theorem more_specific_overload_of_shows_comes_later :
    Sample.shows.registry.Opened (Catalog.empty.applyAll Sample.nested).service
        Sample.showsOpened ∧
      Sample.shows.registry.template? ⟨0⟩ = some Sample.showTemplate ∧
      (Sample.shows.registry.resolveTemplate (Catalog.empty.applyAll Sample.nested).service ⟨0⟩
        [⟨2⟩] (Sample.shows.registry.answerAll .jaroWinkler [] Sample.showsOpened).2).result =
          .ok ⟨0⟩ ∧
      Sample.shows.registry.Eligible Sample.nestedTypes Sample.showTemplate [⟨2⟩] ⟨1⟩ [⟨1⟩] ∧
      Sample.nestedTypes.MoreSpecific [⟨1⟩] [⟨0⟩] ∧
      (⟨0⟩ : FunctionIndex).number < (⟨1⟩ : FunctionIndex).number := by
  have hhistory : ∀ step ∈ ([] : List (TypeService × Query)),
      step.1 = (Catalog.empty.applyAll Sample.nested).service :=
    fun _ hstep => absurd hstep List.not_mem_nil
  obtain ⟨declared, heligible, hspecific⟩ := more_specific_overloads_come_later
    Sample.opened_shows .jaroWinkler hhistory Sample.template?_shows Sample.resolveTemplate_shows
  obtain rfl : declared = [⟨0⟩] := heligible.declared_eq Sample.eligible_number
  have hlater := (hspecific ⟨1⟩ [⟨1⟩] Sample.eligible_int Sample.moreSpecific_int).1
  exact ⟨Sample.opened_shows, Sample.template?_shows, Sample.resolveTemplate_shows,
    Sample.eligible_int, Sample.moreSpecific_int, hlater⟩

end Callsite
