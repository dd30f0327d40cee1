import Callsite.Proofs.Binding.CallTyping
import Callsite.Proofs.Overload.Resolution

/-!
# Calls of a family

A function that is called directly accepts operands by its own arguments, and a variadic one any
number of trailing operands (`Callee.Accepts`). An overload is reached by way of its template, if
that offers a choice, and is eligible only for calls with as many operands as it has arguments. So
in a family of functions without owners a call is bound exactly if some member is eligible
(`Registry.Opened.exists_bind_of_eligible`, `Registry.Opened.bind_eq_noMatch`): a call with as many
operands as arguments whenever one member alone accepts it, and a call with any other number never,
although a variadic member alone may accept it.
-/

namespace Callsite

variable {β : Type} {scoring : Scoring}

/-! ## Acceptance by a function alone -/

/-- Whether a function that declares these types accepts operands when it is taken alone: it admits
their number, and each operand is of the type of the argument that it stands for or refines it. -/
structure Callee.Accepts (types : TypeService) (callee : Callee β)
    (declared runtime : List TypeId) : Prop where
  count : if callee.isVariadic then callee.arguments.length - 1 ≤ runtime.length
    else runtime.length = callee.arguments.length
  fits : ∀ operand given, runtime[operand]? = some given → ∃ position wanted,
    argumentPosition? callee.arguments operand runtime.length = some position ∧
      declared[position]? = some wanted ∧ (given = wanted ∨ types.isSubtype given wanted = true)

/-- An operand before the end of the arguments stands for the argument at its own place. -/
theorem argumentPosition?_of_lt {arguments : List Argument} {operand total : Nat}
    (htotal : operand < total) (hlt : operand < arguments.length) :
    argumentPosition? arguments operand total = some operand :=
  argumentPosition?_eq_some_iff.2 ⟨htotal, .inl hlt, by omega⟩

namespace Callee

variable {types : TypeService} {callee : Callee β} {declared runtime : List TypeId}

/-- A function has a layout for the operands that it accepts. -/
theorem exists_layout_iff_accepts :
    (∃ layout, callee.layout types declared runtime = .ok layout) ↔
      callee.Accepts types declared runtime := by
  simp only [exists_layout_iff, admitsCount_iff, TypeService.fits_eq_true_iff]
  constructor
  · rintro ⟨hcount, hfits⟩
    exact ⟨hcount, hfits⟩
  · rintro ⟨hcount, hfits⟩
    exact ⟨hcount, hfits⟩

/-- A signature has one type for each argument. -/
theorem length_of_signature (h : callee.signature types = .ok declared) :
    declared.length = callee.arguments.length :=
  (forall₂_of_resolveArguments h).length_eq.symm

/-- As many operands as arguments are accepted exactly if each is of the type declared at its own
place or refines it. -/
theorem accepts_iff_of_length_eq (hlength : runtime.length = callee.arguments.length)
    (hdeclared : declared.length = callee.arguments.length) :
    callee.Accepts types declared runtime ↔
      ∀ (i : Nat) want given, declared[i]? = some want → runtime[i]? = some given →
        want = given ∨ types.isSubtype given want = true := by
  have hposition : ∀ {operand : Nat}, operand < runtime.length →
      argumentPosition? callee.arguments operand runtime.length = some operand :=
    fun hlt => argumentPosition?_of_lt hlt (hlength ▸ hlt)
  constructor
  · intro h i want given hwant hgiven
    obtain ⟨position, wanted, hfound, hwanted, hfits⟩ := h.fits i given hgiven
    rw [hposition (List.getElem?_eq_some_iff.1 hgiven).1] at hfound
    obtain rfl := Option.some.inj hfound
    obtain rfl := Option.some.inj (hwant.symm.trans hwanted)
    exact hfits.imp_left Eq.symm
  · intro h
    refine ⟨?_, fun operand given hgiven => ?_⟩
    · rw [hlength]
      split
      · exact Nat.sub_le _ _
      · rfl
    · have hlt := (List.getElem?_eq_some_iff.1 hgiven).1
      have hwant : operand < declared.length := by omega
      have hfits := h operand _ given (List.getElem?_eq_getElem hwant) hgiven
      exact ⟨operand, _, hposition hlt, List.getElem?_eq_getElem hwant, hfits.imp_left Eq.symm⟩

end Callee

/-! ## Members of a family -/

/-- Whether a template is a family of functions without owners: it offers a choice, and its
overloads accept refinements of the types they declare. -/
structure Registry.IsFamily (registry : Registry β) (id : TemplateId) (template : Template) :
    Prop where
  template?_eq : registry.template? id = some template
  generic : 1 < template.members.length
  unowned : ∀ member ∈ registry.membersOf template, member.owner = .nobody
  subtypeOverloads : registry.settings.subtypeOverloads = true

namespace Registry

variable {registry : Registry β} {types : TypeService} {template : Template}
  {runtime : List TypeId}

/-- If overloads accept refinements, a member is eligible exactly if it has as many arguments as
there are operands and accepts these alone. -/
theorem eligible_iff_accepts (hsubtypes : registry.settings.subtypeOverloads = true)
    {member : FunctionIndex} (hmember : member ∈ template.members) {callee : Callee β}
    (hcallee : registry.function? member = some callee) {declared : List TypeId}
    (hsignature : callee.signature types = .ok declared) :
    registry.Eligible types template runtime member declared ↔
      runtime.length = callee.arguments.length ∧ callee.Accepts types declared runtime := by
  have hdeclared := Callee.length_of_signature hsignature
  constructor
  · rintro ⟨_, _, hlength, haccepted⟩
    have hcount : runtime.length = callee.arguments.length := by omega
    simp only [hsubtypes, true_and] at haccepted
    exact ⟨hcount, (Callee.accepts_iff_of_length_eq hcount hdeclared).2 haccepted⟩
  · rintro ⟨hcount, haccepts⟩
    have haccepted := (Callee.accepts_iff_of_length_eq hcount hdeclared).1 haccepts
    refine ⟨hmember, ⟨callee, hcallee, hsignature⟩, by omega, ?_⟩
    simp only [hsubtypes, true_and]
    exact haccepted

/-- A call for which some member of a template is eligible has as many operands as each member has
arguments. -/
theorem Eligible.length_eq_of_mem (h : registry.WellFormed) {id : TemplateId}
    (htemplate : registry.template? id = some template) {member : FunctionIndex}
    {declared : List TypeId} (heligible : registry.Eligible types template runtime member declared)
    {callee : Callee β} (hcallee : callee ∈ registry.membersOf template) :
    runtime.length = callee.arguments.length := by
  obtain ⟨other, hother, hsignature⟩ := heligible.signature
  have hmem : other ∈ registry.membersOf template :=
    List.mem_filterMap.2 ⟨member, heligible.mem, hother⟩
  have hshape := congrArg List.length (h.shapeOf_eq_of_members htemplate hmem hcallee)
  rw [shapeOf, shapeOf, List.length_map, List.length_map] at hshape
  rw [← heligible.length_eq, Callee.length_of_signature hsignature, hshape]

/-- A member of a template that offers a choice is called by way of it. -/
theorem exists_family?_of_member (h : registry.WellFormed) {id : TemplateId}
    (htemplate : registry.template? id = some template) (hmany : 1 < template.members.length)
    {member : FunctionIndex} (hmember : member ∈ template.members) :
    ∃ callee, registry.function? member = some callee ∧
      registry.family? callee = some template := by
  obtain ⟨callee, hcallee, hlink⟩ := (h.mem_members_iff htemplate member).1 hmember
  exact ⟨callee, hcallee, family?_eq_some_iff.2 ⟨id, hlink, htemplate, hmany⟩⟩

/-- The members of a family are called by way of it. -/
theorem family?_of_isFamily (h : registry.WellFormed) {id : TemplateId}
    (hfamily : registry.IsFamily id template) {callee : Callee β}
    (hcallee : callee ∈ registry.membersOf template) :
    registry.family? callee = some template := by
  obtain ⟨hmember, hregistered⟩ := h.mem_membersOf.1 hcallee
  obtain ⟨other, hother, hchoice⟩ :=
    exists_family?_of_member h hfamily.template?_eq hfamily.generic hmember
  obtain rfl : callee = other := Option.some.inj (hregistered.symm.trans hother)
  exact hchoice

/-- A function without an owner can run in every context that fits the default one. -/
theorem supportsContext_of_nobody {callee : Callee β} (h : callee.owner = .nobody)
    (context : TypeId) :
    registry.supportsContext types callee context =
      types.fits context registry.defaultContext := by
  rw [supportsContext, contextOf, declaredContext?, h, Option.getD_none]

/-! ## Binding -/

/-- Finding the function that a call reaches learns no argument types but answers of the service. -/
theorem typesFrom_target (h : registry.WellFormed) (hstable : types.Stable) {memory : Memory β}
    (hmemory : memory.TypesFrom registry types.Names) (callee : Callee β) (runtime : List TypeId) :
    (registry.target types callee runtime memory).state.TypesFrom registry types.Names :=
  learns_induction (target_learns h callee runtime) hmemory
    fun _ _ hstep => hstep.typesFrom hstable.answersWithin

/-- The argument types of the function that a call reaches are its signature. -/
theorem result_argumentTypes_of_target (h : registry.WellFormed) (hstable : types.Stable)
    {memory : Memory β} (hmemory : memory.TypesFrom registry types.Names)
    {callee reached : Callee β} (hcallee : registry.Registered callee)
    (hreached : (registry.target types callee runtime memory).result = .ok reached) :
    (reached.argumentTypes types (registry.target types callee runtime memory).state).result =
      reached.signature types :=
  Callee.result_argumentTypes hstable (registered_of_target h hcallee hreached)
    (typesFrom_target h hstable hmemory callee runtime)

section History

variable {opened : Memory β} {history : List (TypeService × Query)} {service : TypeService}

/-- A call of a member of a family is bound if some member is eligible: the one that wins is
reached, and by its own arguments it accepts the operands as well. -/
theorem Opened.exists_bind_of_eligible (h : registry.Opened types opened) (hstable : types.Stable)
    (hhistory : ∀ step ∈ history, types.SameTypes step.1) (hservice : types.SameTypes service)
    {id : TemplateId} (hfamily : registry.IsFamily id template) {callee : Callee β}
    (hcallee : callee ∈ registry.membersOf template) {context : TypeId}
    (hcontext : service.fits context registry.defaultContext = true) {member : FunctionIndex}
    {declared : List TypeId}
    (heligible : registry.Eligible service template runtime member declared) :
    ∃ binding, (registry.bind service callee.index runtime context
      (registry.answerAll scoring history opened).2).result = .ok binding := by
  have hregistry := h.wellFormed
  have hlater := hservice.same_texts.stable hstable
  have htemplate := hfamily.template?_eq
  obtain ⟨_, hfunction⟩ := hregistry.mem_membersOf.1 hcallee
  have hchoice := family?_of_isFamily hregistry hfamily hcallee
  obtain rfl := hregistry.template_id htemplate
  obtain ⟨hfound, hfailed⟩ :=
    h.resolveTemplate_spec hstable hhistory hservice htemplate scoring runtime
  cases hresolved : (registry.resolveTemplate service template.id runtime
      (registry.answerAll scoring history opened).2).result with
  | error failure => exact absurd heligible (((hfailed failure).1 hresolved).2 member declared)
  | ok winner =>
    obtain ⟨wanted, hwins⟩ := (hfound winner).1 hresolved
    obtain ⟨reached, hreached, hsignature⟩ := hwins.eligible.signature
    have htarget := target_eq_ok.2 (.inr ⟨template, winner, hchoice, hresolved, hreached⟩)
    have howner : reached.owner = .nobody :=
      hfamily.unowned reached (List.mem_filterMap.2 ⟨winner, hwins.eligible.mem, hreached⟩)
    have haccepts := (eligible_iff_accepts hfamily.subtypeOverloads hwins.eligible.mem hreached
      hsignature).1 hwins.eligible
    obtain ⟨layout, hlayout⟩ := Callee.exists_layout_iff_accepts.2 haccepts.2
    have hdeclared := result_argumentTypes_of_target hregistry hlater
      (h.settled_answerAll hstable hhistory hservice scoring).1 (hregistry.registered hfunction)
      htarget
    rw [hsignature] at hdeclared
    exact exists_bind_of_target hfunction htarget
      ((supportsContext_of_nobody howner context).trans hcontext) (by simp [howner]) hdeclared
      hlayout

/-- A call of a member of a family is refused if no member is eligible. -/
theorem Opened.bind_eq_noMatch (h : registry.Opened types opened) (hstable : types.Stable)
    (hhistory : ∀ step ∈ history, types.SameTypes step.1) (hservice : types.SameTypes service)
    {id : TemplateId} (hfamily : registry.IsFamily id template) {callee : Callee β}
    (hcallee : callee ∈ registry.membersOf template) (context : TypeId)
    (hnone : ∀ member declared, ¬ registry.Eligible service template runtime member declared) :
    (registry.bind service callee.index runtime context
      (registry.answerAll scoring history opened).2).result =
        .error (.noMatch template.name (service.describe runtime)) := by
  have hregistry := h.wellFormed
  have htemplate := hfamily.template?_eq
  obtain ⟨_, hfunction⟩ := hregistry.mem_membersOf.1 hcallee
  obtain rfl := hregistry.template_id htemplate
  have hspec := h.resolveTemplate_spec hstable hhistory hservice htemplate scoring runtime
  have hresolved := (hspec.2 _).2 ⟨rfl, hnone⟩
  have htarget : (registry.target service callee runtime
      (registry.answerAll scoring history opened).2).result =
        .error (.noMatch template.name (service.describe runtime)) := by
    rw [target, family?_of_isFamily hregistry hfamily hcallee]
    dsimp only
    rw [Answer.andThen_of_error hresolved]
  exact result_bind_of_target_error hfunction htarget context

/-- The only member of a template accepts the operands of every call that is bound, if it has no
owner. -/
theorem Opened.accepts_of_members_eq_singleton (h : registry.Opened types opened)
    (hstable : types.Stable) (hhistory : ∀ step ∈ history, types.SameTypes step.1)
    (hservice : types.SameTypes service) {id : TemplateId}
    (htemplate : registry.template? id = some template) {callee : Callee β}
    (hmembers : template.members = [callee.index])
    (hcallee : registry.function? callee.index = some callee) (howner : callee.owner = .nobody)
    {declared : List TypeId} (hsignature : callee.signature service = .ok declared)
    {context : TypeId} (hbound : ∃ binding, (registry.bind service callee.index runtime context
      (registry.answerAll scoring history opened).2).result = .ok binding) :
    callee.Accepts service declared runtime := by
  have hregistry := h.wellFormed
  have hmember : callee.index ∈ template.members := by
    rw [hmembers]
    exact List.mem_singleton_self _
  obtain ⟨other, hother, hlink⟩ := (hregistry.mem_members_iff htemplate callee.index).1 hmember
  obtain rfl : callee = other := Option.some.inj (hcallee.symm.trans hother)
  have hfamily : registry.family? callee = none := by
    rw [family?, hlink, Option.bind_some, htemplate]
    simp [Template.isGeneric, hmembers]
  have hdeclared := Callee.result_argumentTypes (hservice.same_texts.stable hstable) hcallee
    (h.settled_answerAll hstable hhistory hservice scoring).1
  rw [hsignature] at hdeclared
  obtain ⟨_, hcount, hfits⟩ := (exists_bind_eq_ok_iff runtime context hcallee
    (by simp [howner]) hfamily hdeclared).1 hbound
  exact Callee.exists_layout_iff_accepts.1 (Callee.exists_layout_iff.2 ⟨hcount, hfits⟩)

end History

end Registry

/-! ## Calls that a member alone accepts -/

namespace Sample

/-- A template with one overload, which takes any number of integers. -/
def summing : List (Registration String) :=
  [.template "Sum",
    .member ⟨0⟩ .nobody ⟨"SumInts", some (.function "sum"), [⟨"items", "Int*", .input⟩]⟩]

/-- A second overload, which takes any number of floats. -/
def summingFloats : List (Registration String) :=
  [.member ⟨0⟩ .nobody ⟨"SumFloats", some (.function "sum"), [⟨"items", "Float*", .input⟩]⟩]

/-- The draft with the first overload only. -/
def sum : Draft String := start.applyAll types summing

/-- The draft with both overloads. -/
def sums : Draft String := start.applyAll types (summing ++ summingFloats)

/-- The memory of the registry with the first overload only. -/
def sumOpened : Memory String := (sum.freeze types).state

/-- The memory of the registry with both overloads. -/
def sumsOpened : Memory String := (sums.freeze types).state

/-- The first overload. -/
def sumInts : Callee String :=
  ⟨⟨0⟩, "SumInts", .function "sum", .nobody, some ⟨0⟩, [⟨"items", "Int*", .input⟩]⟩

/-- The template with both overloads. -/
def sumTemplate : Template := ⟨⟨0⟩, "Sum", [⟨0⟩, ⟨1⟩], some "Sum(in items)"⟩

/-- The draft with both overloads can be frozen. -/
theorem freeze_sums : sums.freeze types = ⟨.ok sums.registry, sumsOpened⟩ :=
  Draft.freeze_eq_of_isOk (by decide +kernel)

/-- The two overloads are a family. -/
theorem isFamily_sums : sums.registry.IsFamily ⟨0⟩ sumTemplate :=
  ⟨by decide +kernel, by decide, by decide +kernel, by decide +kernel⟩

/-- The first overload alone accepts two integers. -/
theorem accepts_sumInts : sumInts.Accepts types [⟨1⟩] [⟨1⟩, ⟨1⟩] :=
  Callee.exists_layout_iff_accepts.1
    ⟨[⟨"items", .input, ⟨1⟩⟩, ⟨"items", .input, ⟨1⟩⟩], by decide +kernel⟩

/-- The draft of a registry that resolves argument types when they are needed. -/
def lazyStart : Draft String := ⟨.empty { eagerTypes := false } ⟨3⟩, .fresh 1⟩

/-- A template with an overload for integers and one for floats. -/
def printing : List (Registration String) :=
  [.template "Print",
    .member ⟨0⟩ .nobody ⟨"PrintInt", some (.function "print"), [⟨"x", "Int", .input⟩]⟩,
    .member ⟨0⟩ .nobody ⟨"PrintFloat", some (.function "print"), [⟨"x", "Float", .input⟩]⟩]

/-- The draft with the overloads for integers and floats. -/
def prints : Draft String := lazyStart.applyAll types printing

/-- The overload for integers. -/
def printInt : Callee String :=
  ⟨⟨0⟩, "PrintInt", .function "print", .nobody, some ⟨0⟩, [⟨"x", "Int", .input⟩]⟩

/-- The template with the overloads for integers and floats. -/
def printTemplate : Template := ⟨⟨0⟩, "Print", [⟨0⟩, ⟨1⟩], some "Print(in x)"⟩

/-- The service of the samples when it no longer knows floats. -/
def forgetful : TypeService :=
  { types with resolve := fun earlier text =>
      if text = "Float" then none else types.resolve earlier text }

end Sample

/-- A family need not bind a call that one of its members accepts. Two integers are refused by the
family of variadic sums although the first member alone accepts them, and although they were bound
while it was the only one. An integer is refused by a family whose second member has a type that the
service has come to forget, although the first member accepts it. -/
theorem families_refuse_accepted_calls :
    (Sample.sums.registry.Opened Sample.types Sample.sumsOpened ∧
      Sample.sums.registry.IsFamily ⟨0⟩ Sample.sumTemplate ∧
      Sample.sumInts ∈ Sample.sums.registry.membersOf Sample.sumTemplate ∧
      Sample.sumInts.signature Sample.types = .ok [⟨1⟩] ∧
      Sample.sumInts.Accepts Sample.types [⟨1⟩] [⟨1⟩, ⟨1⟩] ∧
      Sample.types.fits ⟨3⟩ Sample.sums.registry.defaultContext = true ∧
      (Sample.sums.registry.bind Sample.types ⟨0⟩ [⟨1⟩, ⟨1⟩] ⟨3⟩ Sample.sumsOpened).result =
        .error (.noMatch "Sum" "[Int, Int]") ∧
      (Sample.sum.registry.bind Sample.types ⟨0⟩ [⟨1⟩, ⟨1⟩] ⟨3⟩ Sample.sumOpened).result.isOk =
        true) ∧
    Sample.prints.registry.Opened Sample.types Sample.prints.memory ∧
      Sample.prints.registry.IsFamily ⟨0⟩ Sample.printTemplate ∧
      Sample.printInt ∈ Sample.prints.registry.membersOf Sample.printTemplate ∧
      (Sample.printInt.argumentTypes Sample.forgetful Sample.prints.memory).result = .ok [⟨1⟩] ∧
      Sample.printInt.Accepts Sample.forgetful [⟨1⟩] [⟨1⟩] ∧
      Sample.forgetful.fits ⟨3⟩ Sample.prints.registry.defaultContext = true ∧
      (Sample.prints.registry.bind Sample.forgetful ⟨0⟩ [⟨1⟩] ⟨3⟩ Sample.prints.memory).result =
        .error (.unknownType ⟨"PrintFloat", "x", "Float"⟩) := by
  refine ⟨⟨⟨{}, Sample.start, _, Sample.start_eq, Sample.freeze_sums⟩, Sample.isFamily_sums,
    by decide +kernel, by decide +kernel, Sample.accepts_sumInts, by decide +kernel,
    by decide +kernel, by decide +kernel⟩, ?opened, ?family, ?_⟩
  case opened => exact ⟨{ eagerTypes := false }, Sample.lazyStart, Sample.printing, rfl, rfl⟩
  case family => exact ⟨by decide +kernel, by decide, by decide +kernel, by decide +kernel⟩
  refine ⟨by decide +kernel, by decide +kernel, ?accepts, by decide +kernel, by decide +kernel⟩
  exact Callee.exists_layout_iff_accepts.1 ⟨[⟨"x", .input, ⟨1⟩⟩], by decide +kernel⟩

/-- With a type service whose answers never change, at every point of every history: a call of a
member of a family that this member alone accepts is bound exactly if it has as many operands as the
member has arguments; a call with any other number of operands is refused; and a call with as many
operands as arguments that was bound while the member was the only one of its template is bound
after any further registrations. -/
theorem families_bind_calls_of_their_arity {types : TypeService} (hstable : types.Stable)
    {settings : Settings} {start : Draft β} (hstart : Draft.start types settings = .ok start)
    {earlier further : List (Registration β)} {registry : Registry β} {opened : Memory β}
    (hfreeze : (start.applyAll types (earlier ++ further)).freeze types = ⟨.ok registry, opened⟩)
    {history : List (TypeService × Query)} (hhistory : ∀ step ∈ history, types.SameTypes step.1)
    {service : TypeService} (hservice : types.SameTypes service) {id : TemplateId}
    {template : Template} (hfamily : registry.IsFamily id template) {callee : Callee β}
    (hcallee : callee ∈ registry.membersOf template) {context : TypeId}
    (hcontext : service.fits context registry.defaultContext = true) (scoring : Scoring)
    (runtime : List TypeId) :
    let bound := registry.bind service callee.index runtime context
      (registry.answerAll scoring history opened).2
    (∃ declared, callee.signature service = .ok declared ∧
      (callee.Accepts service declared runtime →
        ((∃ binding, bound.result = .ok binding) ↔
          runtime.length = callee.arguments.length))) ∧
    (runtime.length ≠ callee.arguments.length →
      bound.result = .error (.noMatch template.name (service.describe runtime))) ∧
    ∀ alone first, (start.applyAll types earlier).freeze types = ⟨.ok alone, first⟩ →
      ∀ single, alone.template? id = some single → single.members = [callee.index] →
      ∀ past : List (TypeService × Query), (∀ step ∈ past, types.SameTypes step.1) →
      (∃ binding, (alone.bind service callee.index runtime context
        (alone.answerAll scoring past first).2).result = .ok binding) →
      runtime.length = callee.arguments.length → ∃ binding, bound.result = .ok binding := by
  intro bound
  have hopened : registry.Opened types opened :=
    ⟨settings, start, earlier ++ further, hstart, hfreeze⟩
  have hregistry := hopened.wellFormed
  have htemplate := hfamily.template?_eq
  obtain ⟨hmember, hregistered⟩ := hregistry.mem_membersOf.1 hcallee
  obtain ⟨declared, hsignature⟩ := ((hopened.distinctSignatures hstable).sameTexts
    hservice.same_texts).exists_signature id template htemplate callee hcallee
  have heligible : registry.Eligible service template runtime callee.index declared ↔ _ :=
    Registry.eligible_iff_accepts hfamily.subtypeOverloads hmember hregistered hsignature
  have hbinds : registry.Eligible service template runtime callee.index declared →
      ∃ binding, bound.result = .ok binding :=
    hopened.exists_bind_of_eligible hstable hhistory hservice hfamily hcallee hcontext
  have hother : runtime.length ≠ callee.arguments.length →
      bound.result = .error (.noMatch template.name (service.describe runtime)) :=
    fun hne => hopened.bind_eq_noMatch hstable hhistory hservice hfamily hcallee context
      fun _ _ helig => hne (helig.length_eq_of_mem hregistry htemplate hcallee)
  refine ⟨⟨declared, hsignature, fun haccepts => ⟨?_, fun hlength => ?_⟩⟩, hother, ?_⟩
  · rintro ⟨binding, hbinding⟩
    by_contra hne
    rw [hother hne] at hbinding
    exact absurd hbinding (by simp)
  · exact hbinds (heligible.2 ⟨hlength, haccepts⟩)
  · intro alone first hfrozen single hsingle hmembers past hpast hbound hlength
    have halone : alone.Opened types first := ⟨settings, start, earlier, hstart, hfrozen⟩
    -- the tables of the later draft have the member that the earlier one had at the same key
    have hextends : alone.Extends registry := by
      rw [Draft.freeze_eq_ok (congrArg Answer.result hfrozen),
        Draft.freeze_eq_ok (congrArg Answer.result hfreeze), Draft.applyAll_append]
      exact Draft.extends_applyAll (Draft.wellFormed_applyAll hstart earlier) further
    obtain ⟨other, hfound, _⟩ := (halone.wellFormed.mem_members_iff hsingle callee.index).1
      (by rw [hmembers]; exact List.mem_singleton_self _)
    obtain rfl : other = callee :=
      Option.some.inj ((hextends.function?_of_some hfound).symm.trans hregistered)
    have haccepts := halone.accepts_of_members_eq_singleton hstable hpast hservice hsingle hmembers
      hfound (hfamily.unowned _ hcallee) hsignature hbound
    exact hbinds (heligible.2 ⟨hlength, haccepts⟩)

/-- In the family of variadic sums a call with one integer is bound, as it was while the overload
for integers was the only one, and a call with two of them is refused. -/
theorem families_bind_sums_of_one :
    (Sample.start.applyAll Sample.types (Sample.summing ++ Sample.summingFloats)).freeze
        Sample.types = ⟨.ok Sample.sums.registry, Sample.sumsOpened⟩ ∧
      Sample.sums.registry.IsFamily ⟨0⟩ Sample.sumTemplate ∧
      Sample.sumInts ∈ Sample.sums.registry.membersOf Sample.sumTemplate ∧
      (∃ binding, (Sample.sum.registry.bind Sample.types ⟨0⟩ [⟨1⟩] ⟨3⟩
        (Sample.sum.registry.answerAll .jaroWinkler [] Sample.sumOpened).2).result = .ok binding) ∧
      (∃ binding, (Sample.sums.registry.bind Sample.types ⟨0⟩ [⟨1⟩] ⟨3⟩
        (Sample.sums.registry.answerAll .jaroWinkler [] Sample.sumsOpened).2).result =
          .ok binding) ∧
      (Sample.sums.registry.bind Sample.types ⟨0⟩ [⟨1⟩, ⟨1⟩] ⟨3⟩
        (Sample.sums.registry.answerAll .jaroWinkler [] Sample.sumsOpened).2).result =
          .error (.noMatch "Sum" "[Int, Int]") := by
  have hstable : Sample.types.Stable := Catalog.service_stable _
  have hhistory : ∀ step ∈ ([] : List (TypeService × Query)), Sample.types.SameTypes step.1 :=
    fun _ hstep => absurd hstep List.not_mem_nil
  have hmember : Sample.sumInts ∈ Sample.sums.registry.membersOf Sample.sumTemplate := by
    decide +kernel
  have hcontext : Sample.types.fits ⟨3⟩ Sample.sums.registry.defaultContext = true := by
    decide +kernel
  have hcalls := families_bind_calls_of_their_arity hstable Sample.start_eq Sample.freeze_sums
    hhistory (.refl Sample.types) Sample.isFamily_sums hmember hcontext .jaroWinkler
  have hbound : ∃ binding, (Sample.sum.registry.bind Sample.types ⟨0⟩ [⟨1⟩] ⟨3⟩
      (Sample.sum.registry.answerAll .jaroWinkler [] Sample.sumOpened).2).result = .ok binding :=
    ⟨⟨⟨0⟩, ⟨⟨.function "sum", [⟨"items", .input, ⟨1⟩⟩]⟩, 0⟩⟩, by decide +kernel⟩
  have hfrozen : Sample.sum.freeze Sample.types = ⟨.ok Sample.sum.registry, Sample.sumOpened⟩ :=
    Draft.freeze_eq_of_isOk (by decide +kernel)
  have hkept := (hcalls [⟨1⟩]).2.2 Sample.sum.registry Sample.sumOpened hfrozen
    ⟨⟨0⟩, "Sum", [⟨0⟩], some "Sum(in items)"⟩ (by decide +kernel) rfl [] hhistory hbound rfl
  have hrefused := (hcalls [⟨1⟩, ⟨1⟩]).2.1 (by decide)
  exact ⟨Sample.freeze_sums, Sample.isFamily_sums, hmember, hbound, hkept, hrefused⟩

end Callsite
