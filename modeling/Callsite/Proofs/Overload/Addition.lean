import Callsite.Proofs.Memory.Eagerness
import Callsite.Proofs.Memory.Laziness
import Callsite.Proofs.Overload.Specificity
import Callsite.Proofs.Registry.Acceptance

/-!
# Adding an overload

A new overload is the last one of its template. It wins a call exactly if it is eligible and
strictly closer than every other eligible member (`Registry.wins_enter_of_closer`); otherwise the
call is won by the member that won it before (`Registry.Wins.enter`), for in a tie the new overload
comes last. A member that declares exactly the types of a call cannot be outdone in this way, so
that it wins the call whatever is registered later (`Draft.exists_wins_exact`).

A draft that can be frozen before the new overload is registered can be frozen afterwards as well
(`Draft.isOk_freeze_of_member_ok`), since an overload has a signature from the start.
-/

namespace Callsite

variable {β : Type} {scoring : Scoring}

/-! ## Registering and freezing -/

namespace Draft

variable {types : TypeService} {draft : Draft β}

/-- A draft can be frozen exactly if it is lazy or all its functions have signatures. -/
theorem isOk_freeze_iff (hstable : types.Stable) (hregistry : draft.registry.WellFormed)
    (hmemory : draft.memory.TypesFrom draft.registry types.Names) :
    (draft.freeze types).result.isOk = true ↔
      (draft.registry.settings.eagerTypes = true →
        ∀ callee, draft.registry.Registered callee → ∃ ids, callee.signature types = .ok ids) := by
  constructor
  · intro hok heager callee hcallee
    have hfreeze := freeze_eq_of_isOk hok
    obtain ⟨ids, hids⟩ :=
      knowsAll_freeze hregistry heager (congrArg Answer.result hfreeze) callee hcallee
    have hlearnt := Registry.typesFrom_learnsTypes hstable.answersWithin
      (freeze_learns hregistry) hmemory
    obtain ⟨known, hknown, htyped⟩ := hlearnt callee.index ids hids
    obtain rfl : callee = known := Option.some.inj (hcallee.symm.trans hknown)
    exact ⟨ids, (Callee.signature_eq_ok_iff hstable).2 htyped⟩
  · intro hsignatures
    cases hresult : (draft.freeze types).result with
    | ok registry => rfl
    | error error =>
      have heager : draft.registry.settings.eagerTypes = true := by
        by_contra hlazy
        rw [freeze_of_lazy (by simpa using hlazy)] at hresult
        exact absurd hresult (by simp [Answer.ok])
      -- the function that is to blame would have no signature
      obtain ⟨failure, _, hfailed⟩ := resolveAll_of_freeze_eq_error hresult
      obtain ⟨callee, hcallee⟩ := exists_failsFirst hstable hregistry hmemory hfailed
      obtain ⟨ids, hids⟩ := hsignatures heager callee hcallee.registered
      rw [hcallee.signature_eq] at hids
      exact absurd hids (by simp)

/-- An overload that is registered is entered as the last function, and as the last member of a
template that is found. -/
theorem exists_of_member_ok {id : TemplateId} {owner : Owner} {declaration : Declaration β}
    {added : FunctionIndex}
    (h : (draft.apply types (.member id owner declaration)).result = .ok (.function added)) :
    ∃ callee template, draft.registry.template? id = some template ∧
      callee.index = ⟨draft.registry.size⟩ ∧ callee.index = added ∧
        (draft.registry.enter callee).template? id =
          some (template.add callee.index callee.arguments) ∧
        (draft.apply types (.member id owner declaration)).state.registry =
          draft.registry.enter callee := by
  have henters := apply_enters h
  generalize (draft.apply types (.member id owner declaration)).state.registry = later at henters ⊢
  cases henters with
  | member howner htemplate hshape haccept =>
    rename_i template callee
    obtain ⟨hacc, _, _, hlink⟩ := Registry.acceptable_of_accept howner haccept
    refine ⟨callee, template, htemplate, hacc.index_eq, rfl, ?_, rfl⟩
    rw [Registry.template?_enter, htemplate, Option.map_some, if_pos hlink]

end Draft

/-! ## One more member -/

namespace Registry

variable {registry : Registry β} {types : TypeService} {callee : Callee β} {template : Template}
  {runtime declared : List TypeId} (hindex : callee.index = ⟨registry.size⟩)

include hindex

/-- The eligible members after an overload was entered are those of before, and the new one if its
types take the operands. -/
theorem eligible_enter_iff {member : FunctionIndex} :
    (registry.enter callee).Eligible types (template.add callee.index callee.arguments) runtime
        member declared ↔
      registry.Eligible types template runtime member declared ∨
        (member = callee.index ∧ callee.signature types = .ok declared ∧
          Takes (registry.widens types) declared runtime) := by
  have hwidens : (registry.enter callee).widens types = registry.widens types := rfl
  have hmembers : member ∈ (template.add callee.index callee.arguments).members ↔
      member ∈ template.members ∨ member = callee.index := by
    simp [Template.add]
  rw [eligible_iff_takes, eligible_iff_takes, hwidens, hmembers]
  constructor
  · rintro ⟨hmember, ⟨found, hfound, hsignature⟩, htakes⟩
    rcases (function?_enter_eq_some_iff hindex).1 hfound with hold | ⟨rfl, rfl⟩
    · have hne := index_ne_of_function? hindex hold
      exact .inl ⟨hmember.resolve_right hne, ⟨found, hold, hsignature⟩, htakes⟩
    · exact .inr ⟨rfl, hsignature, htakes⟩
  · rintro (⟨hmember, ⟨found, hfound, hsignature⟩, htakes⟩ | ⟨rfl, hsignature, htakes⟩)
    · exact ⟨.inl hmember, ⟨found, function?_enter_of_some hfound, hsignature⟩, htakes⟩
    · have hself := (function?_enter_eq_some_iff hindex).2 (.inr ⟨rfl, rfl⟩)
      exact ⟨.inr rfl, ⟨callee, hself, hsignature⟩, htakes⟩

/-- A member that won a call still wins it after an overload was entered that is not closer: in a
tie the new overload comes last. -/
theorem Wins.enter {winner : FunctionIndex}
    (hwins : registry.Wins types template runtime winner declared)
    (hnew : ∀ others, (registry.enter callee).Eligible types
      (template.add callee.index callee.arguments) runtime callee.index others →
        exactCount others runtime ≤ exactCount declared runtime) :
    (registry.enter callee).Wins types (template.add callee.index callee.arguments) runtime winner
      declared := by
  refine ⟨(eligible_enter_iff hindex).2 (.inl hwins.eligible), ?_, ?_⟩
  · intro other others hother
    rcases (eligible_enter_iff hindex).1 hother with hold | ⟨rfl, _⟩
    · exact hwins.most_exact other others hold
    · exact hnew others hother
  · intro other others hother hcount
    rcases (eligible_enter_iff hindex).1 hother with hold | ⟨rfl, _⟩
    · exact hwins.first other others hold hcount
    · obtain ⟨found, hfound, _⟩ := hwins.eligible.signature
      rw [hindex]
      exact Nat.le_of_lt (number_lt_size hfound)

/-- An overload that was entered wins a call if it is strictly closer than every other eligible
member. -/
theorem wins_enter_of_closer
    (hnew : (registry.enter callee).Eligible types (template.add callee.index callee.arguments)
      runtime callee.index declared)
    (hcloser : ∀ other others, registry.Eligible types template runtime other others →
      exactCount others runtime < exactCount declared runtime) :
    (registry.enter callee).Wins types (template.add callee.index callee.arguments) runtime
      callee.index declared := by
  refine ⟨hnew, ?_, ?_⟩
  · intro other others hother
    rcases (eligible_enter_iff hindex).1 hother with hold | ⟨rfl, _⟩
    · exact Nat.le_of_lt (hcloser other others hold)
    · obtain rfl := hother.declared_eq hnew
      exact Nat.le_refl _
  · intro other others hother hcount
    rcases (eligible_enter_iff hindex).1 hother with hold | ⟨rfl, _⟩
    · exact absurd hcount (Nat.ne_of_lt (hcloser other others hold))
    · exact Nat.le_refl _

section History

variable {later : Registry β} {reopened : Memory β} {elsewhere : List (TypeService × Query)}
  {other : TypeService} {id : TemplateId}

/-- After an overload was entered, a call that another member won is resolved to that member or to
the new one, and to the new one exactly if it is closer. -/
theorem Opened.resolveTemplate_enter_of_wins (h : (registry.enter callee).Opened types reopened)
    (hstable : types.Stable) (helsewhere : ∀ step ∈ elsewhere, types.SameTypes step.1)
    (hother : types.SameTypes other) (hgrown : (registry.enter callee).template? id =
      some (template.add callee.index callee.arguments)) {winner : FunctionIndex}
    (hwins : registry.Wins types template runtime winner declared) :
    let after := ((registry.enter callee).resolveTemplate other id runtime
      ((registry.enter callee).answerAll scoring elsewhere reopened).2).result
    (after = .ok winner ∨ after = .ok callee.index) ∧
      (after = .ok callee.index ↔ ∃ others, (registry.enter callee).Eligible types
        (template.add callee.index callee.arguments) runtime callee.index others ∧
          exactCount declared runtime < exactCount others runtime) := by
  intro after
  have hresolves : ∀ {index}, after = .ok index ↔ _ :=
    h.resolveTemplate_eq_ok_iff hstable helsewhere hother hgrown
  by_cases hcloser : ∃ others, (registry.enter callee).Eligible types
      (template.add callee.index callee.arguments) runtime callee.index others ∧
        exactCount declared runtime < exactCount others runtime
  · obtain ⟨others, hnew, hlt⟩ := hcloser
    have hadded : after = .ok callee.index := hresolves.2 ⟨others, wins_enter_of_closer hindex hnew
      fun _ _ hother => Nat.lt_of_le_of_lt (hwins.most_exact _ _ hother) hlt⟩
    exact ⟨.inr hadded, fun _ => ⟨others, hnew, hlt⟩, fun _ => hadded⟩
  · have hkept : after = .ok winner := hresolves.2 ⟨declared, hwins.enter hindex fun others hnew =>
      Nat.le_of_not_lt fun hlt => hcloser ⟨others, hnew, hlt⟩⟩
    refine ⟨.inl hkept, fun hadded => ?_, fun hexists => absurd hexists hcloser⟩
    -- the winner was registered before the new overload
    obtain ⟨found, hfound, _⟩ := hwins.eligible.signature
    exact absurd (Except.ok.inj (hkept.symm.trans hadded)) (index_ne_of_function? hindex hfound)

/-- After an overload was entered, a call for which no other member is eligible is resolved to the
new one exactly if that is eligible. -/
theorem Opened.resolveTemplate_enter_of_none (h : (registry.enter callee).Opened types reopened)
    (hstable : types.Stable) (helsewhere : ∀ step ∈ elsewhere, types.SameTypes step.1)
    (hother : types.SameTypes other) (hgrown : (registry.enter callee).template? id =
      some (template.add callee.index callee.arguments))
    (hnone : ∀ member others, ¬ registry.Eligible types template runtime member others) :
    let after := ((registry.enter callee).resolveTemplate other id runtime
      ((registry.enter callee).answerAll scoring elsewhere reopened).2).result
    (after = .ok callee.index ∨
        after = .error (.noMatch template.name (other.describe runtime))) ∧
      (after = .ok callee.index ↔ ∃ others, (registry.enter callee).Eligible types
        (template.add callee.index callee.arguments) runtime callee.index others) := by
  intro after
  by_cases hnew : ∃ others, (registry.enter callee).Eligible types
      (template.add callee.index callee.arguments) runtime callee.index others
  · obtain ⟨others, hnew⟩ := hnew
    have hadded : after = .ok callee.index :=
      (h.resolveTemplate_eq_ok_iff hstable helsewhere hother hgrown).2 ⟨others,
        wins_enter_of_closer hindex hnew fun _ _ hold => absurd hold (hnone _ _)⟩
    exact ⟨.inl hadded, fun _ => ⟨others, hnew⟩, fun _ => hadded⟩
  · have hfailed : after = .error (.noMatch template.name (other.describe runtime)) := by
      refine (h.resolveTemplate_eq_error_iff hstable helsewhere hother hgrown).2 ⟨rfl, ?_⟩
      intro member others heligible
      rcases (eligible_enter_iff hindex).1 heligible with hold | ⟨rfl, _⟩
      · exact hnone member others hold
      · exact hnew ⟨others, heligible⟩
    refine ⟨.inr hfailed, fun hadded => ?_, fun hexists => absurd hexists hnew⟩
    rw [hfailed] at hadded
    exact absurd hadded (by simp)

end History

end Registry

namespace Draft

variable {types : TypeService} {settings : Settings} {start : Draft β}
  {earlier : List (Registration β)}
  {registry : Registry β} {opened : Memory β}

/-- If a draft can be frozen, it can be frozen after one more overload was registered as well. -/
theorem isOk_freeze_of_member_ok (hstable : types.Stable)
    (hstart : Draft.start types settings = .ok start)
    (hok : ((start.applyAll types earlier).freeze types).result.isOk = true)
    {id : TemplateId} {owner : Owner} {declaration : Declaration β} {added : FunctionIndex}
    (hadded : ((start.applyAll types earlier).apply types (.member id owner declaration)).result =
      .ok (.function added)) :
    ((start.applyAll types (earlier ++ [.member id owner declaration])).freeze types).result.isOk =
      true := by
  obtain ⟨callee, template, htemplate, hindex, _, hgrown, hentered⟩ := exists_of_member_ok hadded
  have hlater : (start.applyAll types (earlier ++ [.member id owner declaration])).registry =
      (start.applyAll types earlier).registry.enter callee := by
    rw [applyAll_append]
    exact hentered
  have hregistry := wellFormed_applyAll hstart earlier
  have hsignatures := (isOk_freeze_iff hstable hregistry
    (typesFrom_applyAll hstable.answersWithin hstart earlier)).1 hok
  refine (isOk_freeze_iff hstable (wellFormed_applyAll hstart _)
    (typesFrom_applyAll hstable.answersWithin hstart _)).2 ?_
  rw [hlater]
  intro heager other hother
  rcases (Registry.function?_enter_eq_some_iff hindex).1 hother with hold | ⟨_, rfl⟩
  · exact hsignatures heager other hold
  · -- an overload has the signature that it was compared by
    have hdistinct := distinctSignatures_applyAll hstable hstart
      (earlier ++ [.member id owner declaration])
    rw [hlater] at hdistinct
    refine hdistinct.exists_signature id _ hgrown other ?_
    rw [Registry.membersOf_enter_add hregistry hindex htemplate]
    exact List.mem_append_right _ (List.mem_singleton_self other)

/-- A member that declares exactly the types of a call wins it whatever is registered later. -/
theorem exists_wins_exact (hstable : types.Stable) (hstart : Draft.start types settings = .ok start)
    (further : List (Registration β)) {id : TemplateId} {template : Template}
    (htemplate : (start.applyAll types earlier).registry.template? id = some template)
    {member : FunctionIndex} (hmember : member ∈ template.members) {callee : Callee β}
    (hcallee : (start.applyAll types earlier).registry.function? member = some callee)
    {runtime : List TypeId} (hsignature : callee.signature types = .ok runtime) :
    ∃ grown, (start.applyAll types (earlier ++ further)).registry.template? id = some grown ∧
      (start.applyAll types (earlier ++ further)).registry.Wins types grown runtime member
        runtime := by
  have hregistry := wellFormed_applyAll hstart earlier
  have hlater := wellFormed_applyAll hstart (earlier ++ further)
  -- the function keeps its key and its template, and so it stays a member
  obtain ⟨found, hfound, hlink⟩ := (hregistry.mem_members_iff htemplate member).1 hmember
  obtain rfl : callee = found := Option.some.inj (hcallee.symm.trans hfound)
  have hkept : (start.applyAll types (earlier ++ further)).registry.function? member =
      some callee := by
    rw [applyAll_append]
    exact (extends_applyAll hregistry further).function?_of_some hcallee
  obtain ⟨grown, hgrown⟩ := hlater.template_known hkept hlink
  have hmember_later := (hlater.mem_members_iff hgrown member).2 ⟨callee, hkept, hlink⟩
  exact ⟨grown, hgrown, Registry.wins_of_signature_eq hlater
    (distinctSignatures_applyAll hstable hstart _) hgrown hmember_later hkept hsignature⟩

end Draft

/-! ## Every history -/

/-- Adding an overload changes answers only in favour of the new one. Suppose that the answers of
the type service never change and that a draft is frozen. If one more overload of a template is
registered, the draft can be frozen again, and the two registries compare as follows at any points
of their histories. If the template resolved to a winner, it still does or it resolves to the new
overload, and this exactly if that is eligible with more exact positions. If no overload took the
operands, the template resolves to the new overload exactly if that is eligible, and else still
fails. A call whose types some overload declares exactly resolves to this overload, also after all
further registrations. -/
theorem new_overloads_win_closer_calls {types : TypeService} (hstable : types.Stable)
    {settings : Settings} {start : Draft β} (hstart : Draft.start types settings = .ok start)
    {earlier : List (Registration β)} {registry : Registry β} {opened : Memory β}
    (hfreeze : (start.applyAll types earlier).freeze types = ⟨.ok registry, opened⟩)
    {id : TemplateId} {template : Template} (htemplate : registry.template? id = some template)
    {past : List (TypeService × Query)} (hpast : ∀ step ∈ past, types.SameTypes step.1)
    {service : TypeService} (hservice : types.SameTypes service) (scoring : Scoring)
    (runtime : List TypeId) :
    let before := (registry.resolveTemplate service id runtime
      (registry.answerAll scoring past opened).2).result
    (∀ owner declaration added,
      ((start.applyAll types earlier).apply types (.member id owner declaration)).result =
        .ok (.function added) →
      ∃ later reopened grown,
        (start.applyAll types (earlier ++ [.member id owner declaration])).freeze types =
          ⟨.ok later, reopened⟩ ∧
        later.template? id = some grown ∧ grown.members = template.members ++ [added] ∧
        ∀ (elsewhere : List (TypeService × Query)) (other : TypeService),
          (∀ step ∈ elsewhere, types.SameTypes step.1) → types.SameTypes other →
          let after := (later.resolveTemplate other id runtime
            (later.answerAll scoring elsewhere reopened).2).result
          (∀ winner, before = .ok winner →
            (after = .ok winner ∨ after = .ok added) ∧
            ∃ declared, registry.Eligible types template runtime winner declared ∧
              (after = .ok added ↔ ∃ others, later.Eligible types grown runtime added others ∧
                exactCount declared runtime < exactCount others runtime)) ∧
          ∀ failure, before = .error failure →
            (after = .ok added ∨
              after = .error (.noMatch template.name (other.describe runtime))) ∧
            (after = .ok added ↔ ∃ others, later.Eligible types grown runtime added others)) ∧
    ∀ member ∈ template.members, ∀ callee, registry.function? member = some callee →
      callee.signature types = .ok runtime →
        before = .ok member ∧
        ∀ further last reopened,
          (start.applyAll types (earlier ++ further)).freeze types = ⟨.ok last, reopened⟩ →
          ∀ (elsewhere : List (TypeService × Query)) (other : TypeService),
            (∀ step ∈ elsewhere, types.SameTypes step.1) → types.SameTypes other →
              (last.resolveTemplate other id runtime
                (last.answerAll scoring elsewhere reopened).2).result = .ok member := by
  intro before
  have hopened : registry.Opened types opened := ⟨settings, start, earlier, hstart, hfreeze⟩
  obtain rfl : registry = (start.applyAll types earlier).registry :=
    Draft.freeze_eq_ok (congrArg Answer.result hfreeze)
  refine ⟨?added, ?exact⟩
  case added =>
    intro owner declaration added hadded
    have hok := Draft.isOk_freeze_of_member_ok hstable hstart
      (congrArg (Except.isOk ∘ Answer.result) hfreeze) hadded
    have hrefreeze := Draft.freeze_eq_of_isOk hok
    have hreopened : Registry.Opened types _ _ := ⟨settings, start, _, hstart, hrefreeze⟩
    obtain ⟨callee, found, hfound, hindex, rfl, hgrown, hentered⟩ :=
      Draft.exists_of_member_ok hadded
    obtain rfl : template = found := Option.some.inj (htemplate.symm.trans hfound)
    have hlater : (start.applyAll types (earlier ++ [.member id owner declaration])).registry =
        (start.applyAll types earlier).registry.enter callee := by
      rw [Draft.applyAll_append]
      exact hentered
    rw [hlater] at hrefreeze hreopened
    refine ⟨_, _, _, hrefreeze, hgrown, rfl, fun elsewhere other helsewhere hother => ?_⟩
    refine ⟨fun winner hwinner => ?_, fun failure hfailure => ?_⟩
    · obtain ⟨declared, hwins⟩ :=
        (hopened.resolveTemplate_eq_ok_iff hstable hpast hservice htemplate).1 hwinner
      obtain ⟨hcases, hiff⟩ := hreopened.resolveTemplate_enter_of_wins hindex hstable
        helsewhere hother hgrown hwins
      exact ⟨hcases, declared, hwins.eligible, hiff⟩
    · obtain ⟨_, hnone⟩ :=
        (hopened.resolveTemplate_eq_error_iff hstable hpast hservice htemplate).1 hfailure
      exact hreopened.resolveTemplate_enter_of_none hindex hstable helsewhere hother hgrown
        hnone
  case exact =>
    intro member hmember callee hcallee hsignature
    constructor
    · obtain ⟨grown, hgrown, hwins⟩ := Draft.exists_wins_exact hstable hstart [] htemplate hmember
        hcallee hsignature
      rw [List.append_nil] at hgrown hwins
      exact (hopened.resolveTemplate_eq_ok_iff hstable hpast hservice hgrown).2 ⟨runtime, hwins⟩
    · intro further last reopened hlast elsewhere other helsewhere hother
      obtain rfl := Draft.freeze_eq_ok (congrArg Answer.result hlast)
      have hlast_opened : Registry.Opened types _ reopened := ⟨settings, start, _, hstart, hlast⟩
      obtain ⟨grown, hgrown, hwins⟩ := Draft.exists_wins_exact hstable hstart further htemplate
        hmember hcallee hsignature
      exact (hlast_opened.resolveTemplate_eq_ok_iff hstable helsewhere hother hgrown).2
        ⟨runtime, hwins⟩

namespace Sample

/-- The overload for bytes. -/
def showByte : Declaration String :=
  ⟨"ShowByte", some (.function "show"), [⟨"x", "Byte", .input⟩]⟩

/-- The draft with an overload for bytes as well. -/
def showsBytes : Draft String :=
  Draft.applyAll nestedTypes ⟨.empty {} ⟨3⟩, .fresh 1⟩ (showing ++ [.member ⟨0⟩ .nobody showByte])

end Sample

/-- A byte is shown by the overload for numbers until one for bytes is registered, which is closer.
An integer is shown by the overload for integers all the time. -/
theorem new_overload_wins_bytes :
    Sample.nestedTypes.Stable ∧
      Draft.start Sample.nestedTypes {} = .ok (⟨.empty {} ⟨3⟩, .fresh 1⟩ : Draft String) ∧
      Sample.shows.freeze Sample.nestedTypes = ⟨.ok Sample.shows.registry, Sample.showsOpened⟩ ∧
      Sample.shows.registry.template? ⟨0⟩ = some Sample.showTemplate ∧
      (Sample.shows.apply Sample.nestedTypes (.member ⟨0⟩ .nobody Sample.showByte)).result =
        .ok (.function ⟨2⟩) ∧
      (Sample.shows.registry.resolveTemplate Sample.nestedTypes ⟨0⟩ [⟨2⟩]
        Sample.showsOpened).result = .ok ⟨0⟩ ∧
      (Sample.showsBytes.registry.resolveTemplate Sample.nestedTypes ⟨0⟩ [⟨2⟩]
        (Sample.showsBytes.freeze Sample.nestedTypes).state).result = .ok ⟨2⟩ ∧
      (Sample.showsBytes.registry.resolveTemplate Sample.nestedTypes ⟨0⟩ [⟨1⟩]
        (Sample.showsBytes.freeze Sample.nestedTypes).state).result = .ok ⟨1⟩ := by
  have hstable : Sample.nestedTypes.Stable := Catalog.service_stable _
  have hstart : Draft.start Sample.nestedTypes {} =
      .ok (⟨.empty {} ⟨3⟩, .fresh 1⟩ : Draft String) := by rfl
  have hfreeze : Sample.shows.freeze Sample.nestedTypes =
      ⟨.ok Sample.shows.registry, Sample.showsOpened⟩ :=
    Draft.freeze_eq_of_isOk (by decide +kernel)
  have hadded : (Sample.shows.apply Sample.nestedTypes
      (.member ⟨0⟩ .nobody Sample.showByte)).result = .ok (.function ⟨2⟩) := by decide +kernel
  have hpast : ∀ step ∈ ([] : List (TypeService × Query)), Sample.nestedTypes.SameTypes step.1 := by
    simp
  have hint : Sample.shows.registry.function? ⟨1⟩ = some ⟨⟨1⟩, "ShowInt", .function "show", .nobody,
      some ⟨0⟩, [⟨"x", "Int", .input⟩]⟩ := by decide +kernel
  obtain ⟨hbytes, _⟩ := new_overloads_win_closer_calls hstable hstart hfreeze
    Sample.template?_shows hpast (.refl Sample.nestedTypes) .jaroWinkler [⟨2⟩]
  obtain ⟨_, hints⟩ := new_overloads_win_closer_calls hstable hstart hfreeze
    Sample.template?_shows hpast (.refl Sample.nestedTypes) .jaroWinkler [⟨1⟩]
  obtain ⟨later, reopened, grown, hlater, _, hmembers, hcompared⟩ := hbytes _ _ _ hadded
  obtain rfl : later = Sample.showsBytes.registry :=
    Draft.freeze_eq_ok (congrArg Answer.result hlater)
  obtain rfl : (Sample.showsBytes.freeze Sample.nestedTypes).state = reopened :=
    congrArg Answer.state hlater
  obtain ⟨_, declared, heligible, hiff⟩ := (hcompared [] Sample.nestedTypes hpast
    (.refl Sample.nestedTypes)).1 ⟨0⟩ Sample.resolveTemplate_shows
  obtain rfl : declared = [⟨0⟩] := heligible.declared_eq Sample.eligible_number
  have hnew : Sample.showsBytes.registry.Eligible Sample.nestedTypes grown [⟨2⟩] ⟨2⟩ [⟨2⟩] := by
    refine Registry.eligible_iff_takes.2 ⟨?_, ⟨_, rfl, by decide +kernel⟩, takes_self _ _⟩
    rw [hmembers]
    decide
  have hbyte := hiff.2 ⟨[⟨2⟩], hnew, by decide⟩
  obtain ⟨_, hkept⟩ := hints ⟨1⟩ (by decide) _ hint (by decide +kernel)
  have hint_kept := hkept [.member ⟨0⟩ .nobody Sample.showByte] _ _ hlater [] Sample.nestedTypes
    hpast (.refl Sample.nestedTypes)
  exact ⟨hstable, hstart, hfreeze, Sample.template?_shows, hadded, Sample.resolveTemplate_shows,
    hbyte, hint_kept⟩

end Callsite
