import Callsite.Proofs.Memory.Provenance
import Callsite.Proofs.Text.Closest

/-!
# Suggested names

The name that is suggested for one that no function has is the closest of the names that functions
have, whatever the scores, as long as they are totally ordered. The table of names is a list here,
but nothing depends on its order: two registries with the same names make the same suggestions
(`Registry.WellFormed.suggestBy_congr`).
-/

namespace Callsite

variable {β : Type}

namespace Registry.WellFormed

variable {registry other : Registry β} {σ : Type} [LinearOrder σ]
  {score : String → String → σ} {floor : σ} {query : String}

/-- If names are suggested, the suggestion is the closest in any list of the registered names. -/
theorem suggestBy_eq (h : registry.WellFormed) (hsuggest : registry.settings.suggestNames = true)
    {names : List String} (hnames : ∀ name, name ∈ names ↔ registry.HasName name) :
    registry.suggestBy score floor query = Text.closest (score query) floor names := by
  rw [suggestBy, if_pos hsuggest]
  exact Text.closest_congr fun name => h.mem_names_iff.trans (hnames name).symm

/-- Registries with the same names, however they were drafted, make the same suggestions. -/
theorem suggestBy_congr (h : registry.WellFormed) (hother : other.WellFormed)
    (hsuggest : registry.settings.suggestNames = true)
    (hsuggest_other : other.settings.suggestNames = true)
    (hsame : ∀ name, other.HasName name ↔ registry.HasName name) :
    other.suggestBy score floor query = registry.suggestBy score floor query := by
  rw [h.suggestBy_eq hsuggest fun _ => h.mem_names_iff]
  exact hother.suggestBy_eq hsuggest_other fun name => h.mem_names_iff.trans (hsame name).symm

/-- A name that no function has is answered with the suggestion for it. -/
theorem findBy_eq (h : registry.WellFormed) (hquery : ¬ registry.HasName query) :
    registry.findBy score floor query =
      .error (.notFound query (registry.suggestBy score floor query)) := by
  rw [findBy, h.named?_eq_none_iff.2 hquery]

end Registry.WellFormed

/-- A registry that suggests names answers a name that no function has with the closest of the
names that functions have, among those that score above the floor, and with none exactly if there
are no such names. Neither the order of the table of names nor that of the registrations matters. -/
theorem closest_name_suggested {σ : Type} [LinearOrder σ] {types : TypeService}
    {registry : Registry β} {opened : Memory β} (h : registry.Opened types opened)
    (hsuggest : registry.settings.suggestNames = true) (score : String → String → σ) (floor : σ)
    {query : String} (hquery : ¬ registry.HasName query) :
    ∃ suggestion,
      registry.findBy score floor query = .error (.notFound query suggestion) ∧
      (∀ name, suggestion = some name ↔
        Text.IsClosest (score query) floor registry.HasName name) ∧
      (suggestion = none ↔ ∀ name, registry.HasName name → ¬ floor < score query name) ∧
      (∀ names, names.Perm (registry.names.map (·.1)) →
        Text.closest (score query) floor names = suggestion) ∧
      ∀ {later : TypeService} {other : Registry β} {memory : Memory β},
        other.Opened later memory → other.settings.suggestNames = true →
        (∀ name, other.HasName name ↔ registry.HasName name) →
          other.findBy score floor query = .error (.notFound query suggestion) := by
  have hwf := h.wellFormed
  have hnames : ∀ name, name ∈ registry.names.map (·.1) ↔ registry.HasName name :=
    fun _ => hwf.mem_names_iff
  refine ⟨registry.suggestBy score floor query, hwf.findBy_eq hquery, fun name => ?_, ?_, ?_, ?_⟩
  · rw [hwf.suggestBy_eq hsuggest hnames, Text.closest_eq_some_iff,
      funext fun other => propext (hnames other)]
  · rw [hwf.suggestBy_eq hsuggest hnames, Text.closest_eq_none_iff]
    exact forall_congr' fun name => by rw [hnames name]
  · intro names hperm
    exact (hwf.suggestBy_eq hsuggest fun name => hperm.mem_iff.trans (hnames name)).symm
  · intro later other memory hother hsuggest_other hsame
    rw [hother.wellFormed.findBy_eq ((hsame query).not.2 hquery),
      hwf.suggestBy_congr hother.wellFormed hsuggest hsuggest_other hsame]

namespace Sample

/-- A way of scoring that likes short names best, all of them equally, and then odd lengths. -/
def likesShort (_ name : String) : Nat :=
  if name.length ≤ 4 then 2 else name.length % 2

end Sample

/-- In the sample registry a name that no function has is answered with the first of the two names
that score best. -/
theorem closest_name_suggested_of_tied :
    Sample.draft.registry.findBy Sample.likesShort 1 "Product" =
        .error (.notFound "Product" (some "Pair")) ∧
      Text.IsClosest (Sample.likesShort "Product") 1 Sample.draft.registry.HasName "Pair" := by
  have hunnamed : ¬ Sample.draft.registry.HasName "Product" :=
    Sample.opened_draft.wellFormed.named?_eq_none_iff.1 (by decide +kernel)
  have hfound : Sample.draft.registry.findBy Sample.likesShort 1 "Product" =
      .error (.notFound "Product" (some "Pair")) := by decide +kernel
  obtain ⟨suggestion, hanswer, hclosest, _⟩ :=
    closest_name_suggested Sample.opened_draft (by decide +kernel) Sample.likesShort 1 hunnamed
  refine ⟨hfound, (hclosest "Pair").1 ?_⟩
  have hsame := hanswer.symm.trans hfound
  injection hsame with hsame
  injection hsame

end Callsite
