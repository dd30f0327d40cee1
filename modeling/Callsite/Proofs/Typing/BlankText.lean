import Callsite.Proofs.Memory.Provenance
import Callsite.Proofs.Signature.TypeText
import Callsite.Proofs.Typing.Naming

/-!
# Blank texts

A type cannot be declared under a blank name, but a blank text is accepted as an alias. A blank text
therefore names a type exactly if some blank text was accepted as an alias of that type
(`Catalog.Named.resolve_of_blank_iff`). In a catalog without such an alias it names none, so that
argument types and contexts whose texts are blank are never found: whatever asks for them fails.
-/

namespace Callsite

variable {β : Type}

namespace Catalog

variable {catalog : Catalog} {known : List (String × TypeId)} {text : String}

/-- A blank text resolves to the type that a blank text was accepted as an alias of. -/
theorem Named.resolve_of_blank_iff (h : catalog.Named known) (hblank : Text.IsBlank text)
    {id : TypeId} : catalog.resolve text = .ok id ↔ ("", id) ∈ known := by
  have hempty := Text.trim_eq_empty_iff.2 hblank
  rw [h.resolve_eq_ok_iff, hempty]
  exact or_iff_right fun hname => (h.name_trimmed hname).1 rfl

/-- A blank text names no type if no blank text was accepted as an alias. -/
theorem Named.find?_of_blank (h : catalog.Named known) (hnone : ∀ id, ("", id) ∉ known)
    (hblank : Text.IsBlank text) : catalog.find? text = none := by
  refine Option.eq_none_iff_forall_ne_some.2 fun id hid => hnone id ?_
  rw [← h.resolve_of_blank_iff hblank, resolve, hid]

end Catalog

/-! ## Texts without an answer -/

section Unanswered

variable {types : TypeService} {text : String}

/-- Arguments are not resolved if the service has no answer to the text of one of them. -/
theorem exists_error_of_resolveArguments {arguments : List Argument} {argument : Argument}
    (hmem : argument ∈ arguments) (hnone : ∀ n, types.resolve n argument.elementType = none)
    (function : String) (earlier : Nat) :
    ∃ failure, (resolveArguments types function arguments earlier).result = .error failure := by
  cases hresult : (resolveArguments types function arguments earlier).result with
  | error failure => exact ⟨failure, rfl⟩
  | ok ids =>
    obtain ⟨id, _, n, hid⟩ :=
      exists_mem_left_of_forall₂ (forall₂_of_resolveArguments hresult).flip hmem
    exact absurd hid (by simp [hnone n])

/-- The argument types of a function are not found if the service has no answer to the text of one
of them and had none when the known types were learnt. -/
theorem Callee.exists_error_of_argumentTypes {registry : Registry β} {memory : Memory β}
    {answers : String → TypeId → Prop} (hanswers : types.AnswersWithin answers)
    (hmemory : memory.TypesFrom registry answers) {callee : Callee β}
    (hcallee : registry.Registered callee) {argument : Argument}
    (hmem : argument ∈ callee.arguments) (hnone : ∀ id, ¬ answers argument.elementType id) :
    ∃ failure, (callee.argumentTypes types memory).result = .error failure := by
  cases hresult : (callee.argumentTypes types memory).result with
  | error failure => exact ⟨failure, rfl⟩
  | ok ids =>
    -- types that are found are known afterwards, and what is known are answers
    have hlater := Registry.typesFrom_learnsTypes hanswers (argumentTypes_learns hcallee) hmemory
    obtain ⟨other, hother, htyped⟩ := hlater _ _ (types?_argumentTypes hresult)
    obtain rfl := Option.some.inj (hcallee.symm.trans hother)
    obtain ⟨id, _, hid⟩ := exists_mem_left_of_forall₂ htyped.flip hmem
    exact absurd hid (hnone id)

namespace Draft

/-- A context type is an error if the service has no answer to its text. -/
theorem resolveContext_of_unanswered (hnone : ∀ n, types.resolve n text = none) (owner : String)
    (draft : Draft β) :
    (draft.resolveContext types owner (some text)).result =
      .error (.unknownContextType owner text) := by
  rw [resolveContext]
  simp only [hnone]
  rfl

/-- A struct is refused if the service has no answer to the text of its context type. -/
theorem registerStruct_of_unanswered (hnone : ∀ n, types.resolve n text = none)
    {declaration : StructDeclaration} (htext : declaration.contextText = some text)
    (draft : Draft β) :
    (draft.registerStruct types declaration).result =
      .error (.unknownContextType declaration.name text) := by
  have hcontext := draft.resolveContext_of_unanswered hnone declaration.name
  rw [registerStruct, htext, Answer.andThen_of_error hcontext]

/-- A factory is refused if the service has no answer to the text of its context type. -/
theorem registerFactory_of_unanswered (hnone : ∀ n, types.resolve n text = none)
    {factory : Factory β} (htext : factory.contextText = some text) (draft : Draft β) :
    (draft.registerFactory types factory).result =
      .error (.unknownContextType factory.name text) := by
  have hcontext := draft.resolveContext_of_unanswered hnone factory.name
  rw [registerFactory, htext, Answer.andThen_of_error hcontext]

/-- No draft is started if the service has no answer to the text of the default context type. -/
theorem start_of_unanswered {settings : Settings}
    (hnone : ∀ n, types.resolve n settings.defaultContext = none) :
    (start types settings : Except RegistrationError (Draft β)) =
      .error (.unknownContextType "registry config" settings.defaultContext) := by
  rw [start, hnone]

end Draft

end Unanswered

/-! ## Every history -/

namespace Catalog

/-- After every history of requests, refused ones included, a blank text resolves to a type exactly
if a blank text was accepted as an alias of it. If none was, every blank text is unknown; an
argument whose type text is blank or nothing but the mark of a variadic argument is not resolved,
neither when its function is registered nor at any point of any history of a registry over the
catalog; and a blank text for the context type of the settings, of a struct or of a factory is
refused. -/
theorem blank_texts_name_blank_aliases (requests : List Request) (scoring : Scoring) :
    let catalog := empty.applyAll requests
    let aliases := empty.aliases requests
    (∀ text id, Text.IsBlank text → (catalog.resolve text = .ok id ↔ ("", id) ∈ aliases)) ∧
      ((∀ id, ("", id) ∉ aliases) →
        (∀ text, Text.IsBlank text → catalog.resolve text = .error (.unknown text)) ∧
        (∀ argument : Argument,
          Text.trim argument.typeText = "" ∨ Text.trim argument.typeText = "*" →
          (∀ function arguments earlier, argument ∈ arguments → ∃ failure,
            (resolveArguments catalog.service function arguments earlier).result =
              .error failure) ∧
          ∀ (registry : Registry β) opened, registry.Opened catalog.service opened →
            ∀ history : List (TypeService × Query), (∀ step ∈ history, step.1 = catalog.service) →
            ∀ function callee, registry.function? function = some callee →
              argument ∈ callee.arguments → ∃ failure,
                (callee.argumentTypes catalog.service
                  (registry.answerAll scoring history opened).2).result = .error failure) ∧
        ∀ text, Text.IsBlank text →
          (∀ settings : Settings, settings.defaultContext = text →
            (Draft.start catalog.service settings : Except RegistrationError (Draft β)) =
              .error (.unknownContextType "registry config" text)) ∧
          ∀ draft : Draft β,
            (∀ declaration : StructDeclaration, declaration.contextText = some text →
              (draft.registerStruct catalog.service declaration).result =
                .error (.unknownContextType declaration.name text)) ∧
            ∀ factory : Factory β, factory.contextText = some text →
              (draft.registerFactory catalog.service factory).result =
                .error (.unknownContextType factory.name text)) := by
  intro catalog aliases
  have hnamed : catalog.Named aliases := named_applyAll_empty requests
  refine ⟨fun text id hblank => hnamed.resolve_of_blank_iff hblank, fun hnone => ?_⟩
  have hunanswered {text : String} (hblank : Text.IsBlank text) (n : Nat) :
      catalog.service.resolve n text = none := hnamed.find?_of_blank hnone hblank
  refine ⟨?texts, ?arguments, ?contexts⟩
  case texts =>
    intro text hblank
    exact resolve_eq_error (hunanswered hblank 0)
  case arguments =>
    intro argument htext
    have hblank : Text.IsBlank argument.elementType := TypeText.isBlank_element_iff.2 htext
    refine ⟨fun function arguments earlier hmem =>
      exists_error_of_resolveArguments hmem (hunanswered hblank) function earlier, ?_⟩
    intro registry opened hopened history hhistory function callee hcallee hmem
    have hanswers : catalog.service.AnswersWithin fun text _ => ¬ Text.IsBlank text := by
      intro earlier text id hid htext
      rw [hunanswered htext] at hid
      exact absurd hid (by simp)
    have hmemory : (registry.answerAll scoring history opened).2.TypesFrom registry _ :=
      hopened.typesFrom_answerAll hanswers fun step hstep =>
        (hhistory step hstep).symm ▸ hanswers
    exact callee.exists_error_of_argumentTypes hanswers hmemory
      (hopened.wellFormed.registered hcallee) hmem fun _ hno => hno hblank
  case contexts =>
    intro text hblank
    refine ⟨?_, fun draft => ⟨fun declaration htext => ?_, fun factory htext => ?_⟩⟩
    · rintro settings rfl
      exact Draft.start_of_unanswered (hunanswered hblank)
    · exact draft.registerStruct_of_unanswered (hunanswered hblank) htext
    · exact draft.registerFactory_of_unanswered (hunanswered hblank) htext

end Catalog

namespace Sample

/-- A registration of a function whose only argument has nothing but the mark for a type text. -/
def unmarked : List (Registration String) :=
  [.function .nobody ⟨"Any", some (.function "any"), [⟨"items", " * ", .input⟩]⟩]

/-- The draft with that function, in a registry over the sample catalog that resolves argument types
when they are needed and has bytes for its context. -/
def byteDraft : Draft String :=
  (⟨.empty { defaultContext := "Byte", eagerTypes := false } ⟨2⟩, .fresh 1⟩ : Draft String).applyAll
    catalog.service unmarked

end Sample

/-- In the sample catalog, which has an alias but no blank one, a blank text is unknown, an argument
with nothing but the mark for a type text is not resolved, and a blank default context is
refused. -/
theorem blank_texts_unknown_without_blank_alias :
    Catalog.empty.aliases Sample.requests = [("Octet", ⟨2⟩)] ∧
      Sample.catalog.resolve "\t " = .error (.unknown "\t ") ∧
      Sample.byteDraft.registry.Opened Sample.catalog.service Sample.byteDraft.memory ∧
      (∃ callee failure, Sample.byteDraft.registry.function? ⟨0⟩ = some callee ∧
        (callee.argumentTypes Sample.catalog.service Sample.byteDraft.memory).result =
          .error failure) ∧
      (Draft.start Sample.catalog.service { defaultContext := "" } :
        Except RegistrationError (Draft String)) =
          .error (.unknownContextType "registry config" "") := by
  have haliases : Catalog.empty.aliases Sample.requests = [("Octet", ⟨2⟩)] := by decide +kernel
  have hopened : Sample.byteDraft.registry.Opened Sample.catalog.service Sample.byteDraft.memory :=
    ⟨{ defaultContext := "Byte", eagerTypes := false }, _, Sample.unmarked, by rfl, by rfl⟩
  have hfunction : Sample.byteDraft.registry.function? ⟨0⟩ = some ⟨⟨0⟩, "Any", .function "any",
      .nobody, none, [⟨"items", " * ", .input⟩]⟩ := by decide +kernel
  obtain ⟨_, hnone⟩ := Catalog.blank_texts_name_blank_aliases (β := String) Sample.requests
    .jaroWinkler
  obtain ⟨htexts, harguments, hcontexts⟩ := hnone (by simp [haliases])
  have htab : Text.IsBlank "\t " := Text.trim_eq_empty_iff.1 (by decide +kernel)
  have hempty : Text.IsBlank "" := Text.trim_eq_empty_iff.1 (by decide +kernel)
  obtain ⟨failure, hfailure⟩ := (harguments ⟨"items", " * ", .input⟩ (.inr (by decide +kernel))).2
    Sample.byteDraft.registry Sample.byteDraft.memory hopened [] (by simp) ⟨0⟩ _ hfunction
    List.mem_cons_self
  exact ⟨haliases, htexts _ htab, hopened, ⟨_, failure, hfunction, hfailure⟩,
    (hcontexts "" hempty).1 { defaultContext := "" } rfl⟩

/-! ## A blank alias -/

namespace Sample

/-- Requests for integers with a blank alias. -/
def blankRequests : List Catalog.Request := [.declare "Int", .addAlias " " ⟨0⟩]

/-- The catalog of integers with a blank alias. -/
def blankCatalog : Catalog := Catalog.empty.applyAll blankRequests

/-- The draft with the function of an unmarked argument, in a registry over that catalog that has a
blank text for its context. -/
def blankDraft : Draft String :=
  (⟨.empty { defaultContext := "" } ⟨0⟩, .fresh 1⟩ : Draft String).applyAll blankCatalog.service
    unmarked

end Sample

/-- A blank text can name a type: it is refused as the name of a new type but accepted as an alias.
Then every blank text names the type, also as a default context, and a function whose argument has
nothing but the mark for a type text is opened with its types resolved. -/
theorem blank_alias_names_type :
    (Catalog.empty.apply (.declare " ")).1 = .error (.unknown " ") ∧
      Catalog.empty.accepted Sample.blankRequests = Sample.blankRequests ∧
      Text.trim "" = "" ∧ Sample.blankCatalog.resolve "" = .ok ⟨0⟩ ∧
      (Draft.start Sample.blankCatalog.service { defaultContext := "" } :
        Except RegistrationError (Draft String)) =
          .ok ⟨.empty { defaultContext := "" } ⟨0⟩, .fresh 1⟩ ∧
      (Sample.blankDraft.freeze Sample.blankCatalog.service).result =
        .ok Sample.blankDraft.registry ∧
      (Sample.blankDraft.freeze Sample.blankCatalog.service).state.types? ⟨0⟩ = some [⟨0⟩] := by
  refine ⟨by rfl, by decide +kernel, by decide +kernel, by decide +kernel, by rfl, ?_,
    by decide +kernel⟩
  exact congrArg Answer.result (Draft.freeze_eq_of_isOk (by decide +kernel))

end Callsite
