import Callsite.Proofs.Typing.Order

/-!
# A catalog keeps what it has

Names and aliases share one table, but a new key is always a free one. A catalog that accepts a
request therefore answers as before on every text but those that are trimmed to the new key, and the
types that it has stay as they are, with all that they refine (`Catalog.Grows.retains`). A request
that is refused changes nothing. After a history of requests the texts that have got another answer
are those of the requests that were accepted (`Catalog.resolve_applyAll_ne_iff`).
-/

namespace Callsite

namespace Catalog

/-- Whether a later catalog keeps what a catalog has: the types that texts name, the declarations of
types, and what declared types refine. -/
structure Retains (catalog later : Catalog) : Prop where
  resolve_of_ok : ∀ {text id}, catalog.resolve text = .ok id → later.resolve text = .ok id
  get?_of_some : ∀ {id declared}, catalog.get? id = some declared → later.get? id = some declared
  isSubtype_eq : ∀ {id}, (catalog.get? id).isSome = true → ∀ required,
    later.isSubtype id required = catalog.isSubtype id required

namespace Retains

variable {catalog later last : Catalog}

/-- A catalog keeps what it has as long as it stays the same. -/
theorem refl (catalog : Catalog) : catalog.Retains catalog :=
  ⟨id, id, fun _ _ => rfl⟩

/-- What is kept may be kept for longer. -/
theorem trans (h : catalog.Retains later) (hlater : later.Retains last) :
    catalog.Retains last where
  resolve_of_ok hid := hlater.resolve_of_ok (h.resolve_of_ok hid)
  get?_of_some hid := hlater.get?_of_some (h.get?_of_some hid)
  isSubtype_eq {id} hid required := by
    obtain ⟨declared, hdeclared⟩ := Option.isSome_iff_exists.1 hid
    have hdeclared_later := Option.isSome_of_eq_some (h.get?_of_some hdeclared)
    rw [hlater.isSubtype_eq hdeclared_later, h.isSubtype_eq hid]

end Retains

variable {catalog next later : Catalog} {request : Request} {answer : Option TypeId}

/-! ## Texts -/

/-- A text that names no type is an error. -/
theorem resolve_eq_error {text : String} (h : catalog.named? (Text.trim text) = none) :
    catalog.resolve text = .error (.unknown text) := by
  rw [resolve, find?, h]

namespace Grows

/-- The texts that are trimmed to the key of the request name the type that is meant, and every
other text names what it named before. -/
theorem resolve_eq (h : catalog.Grows request answer next) (text : String) :
    next.resolve text =
      if Text.trim text = request.key then .ok (request.meaning catalog)
      else catalog.resolve text := by
  rw [resolve, find?, h.named?_eq]
  by_cases hkey : Text.trim text = request.key
  · rw [if_pos hkey, if_pos hkey]
  · rw [if_neg hkey, if_neg hkey, resolve, find?]

/-- The texts that are answered otherwise after a step are those that are trimmed to the new key. -/
theorem resolve_ne_iff (h : catalog.Grows request answer next) (text : String) :
    next.resolve text ≠ catalog.resolve text ↔ Text.trim text = request.key := by
  rw [h.resolve_eq]
  by_cases hkey : Text.trim text = request.key
  · have hfree := h.key_free
    rw [← hkey] at hfree
    simp [hkey, resolve_eq_error hfree]
  · simp [hkey]

/-- A text that names a type still does so after a step. -/
theorem resolve_of_ok (h : catalog.Grows request answer next) {text : String} {id : TypeId}
    (hid : catalog.resolve text = .ok id) : next.resolve text = .ok id := by
  by_contra hne
  have hkey := (h.resolve_ne_iff text).1 (hid ▸ hne)
  have hfree := h.key_free
  rw [← hkey] at hfree
  rw [resolve_eq_error hfree] at hid
  exact absurd hid (by simp)

end Grows

/-! ## Refinement -/

/-- A type has the same lineage in a catalog that keeps the declarations. -/
theorem lineage_eq (h : catalog.ParentsFirst) (hlater : later.ParentsFirst)
    (hget : ∀ {id declared}, catalog.get? id = some declared → later.get? id = some declared)
    {id : TypeId} (hid : (catalog.get? id).isSome = true) :
    later.lineage id = catalog.lineage id := by
  induction id using h.induction with
  | hstep id ih =>
    obtain ⟨declared, hdeclared⟩ := Option.isSome_iff_exists.1 hid
    have hsame : later.parent? id = catalog.parent? id := by
      rw [parent?, parent?, hdeclared, hget hdeclared]
    cases hparent : catalog.parent? id with
    | none =>
      rw [lineage_of_parent?_none hparent, lineage_of_parent?_none (hsame.trans hparent)]
    | some parent =>
      -- the parent is declared as well, for its number is smaller than that of a declared type
      have hlt := Nat.lt_trans (h id parent hparent) (number_lt_size_of_parent? hparent)
      have hknown : (catalog.get? parent).isSome = true := by
        rw [get?, List.getElem?_eq_getElem hlt]
        rfl
      rw [lineage_of_parent h hparent, lineage_of_parent hlater (hsame.trans hparent),
        ih parent hparent hknown]

/-- Every step keeps what the catalog has. -/
theorem Grows.retains (hgrows : catalog.Grows request answer next) (h : catalog.ParentsFirst) :
    catalog.Retains next where
  resolve_of_ok := hgrows.resolve_of_ok
  get?_of_some := hgrows.get?_of_some
  isSubtype_eq hid required := by
    rw [isSubtype, isSubtype, lineage_eq h (h.grows hgrows) hgrows.get?_of_some hid]

/-! ## Histories of requests -/

/-- The requests of a history that are accepted, in order. -/
def accepted : Catalog → List Request → List Request
  | _, [] => []
  | catalog, request :: rest =>
    match catalog.apply request with
    | (.ok _, next) => request :: accepted next rest
    | (.error _, next) => accepted next rest

/-- A request that is accepted is followed by those that the next catalog accepts. -/
theorem accepted_of_ok (h : (catalog.apply request).1 = .ok answer) (rest : List Request) :
    catalog.accepted (request :: rest) = request :: (catalog.apply request).2.accepted rest := by
  rw [accepted]
  split
  · rename_i next happly
    rw [happly]
  · rename_i next happly
    rw [happly] at h
    exact absurd h (by simp)

/-- A request that is refused is not among those that are accepted, and changes nothing. -/
theorem accepted_of_error {error : CatalogError} (h : (catalog.apply request).1 = .error error)
    (rest : List Request) : catalog.accepted (request :: rest) = catalog.accepted rest := by
  have hsame := apply_refused h
  rw [accepted]
  split
  · rename_i next happly
    rw [happly] at h
    exact absurd h (by simp)
  · rename_i next happly
    rw [happly] at hsame
    rw [← hsame]

/-- Every history of requests keeps what the catalog has. -/
theorem retains_applyAll (h : catalog.ParentsFirst) (requests : List Request) :
    catalog.Retains (catalog.applyAll requests) := by
  suffices hboth : (catalog.applyAll requests).ParentsFirst ∧
      catalog.Retains (catalog.applyAll requests) from hboth.2
  refine applyAll_induction (motive := fun later => later.ParentsFirst ∧ catalog.Retains later)
    ⟨h, .refl catalog⟩ ?_ requests
  rintro later request answer next hgrows ⟨hlater, hretains⟩
  exact ⟨hlater.grows hgrows, hretains.trans (hgrows.retains hlater)⟩

/-- A history makes one new type for each declaration that is accepted. -/
theorem size_applyAll (catalog : Catalog) (requests : List Request) :
    (catalog.applyAll requests).size =
      catalog.size + (catalog.accepted requests).countP Request.isDeclaration := by
  induction requests generalizing catalog with
  | nil => rfl
  | cons request rest ih =>
    show ((catalog.apply request).2.applyAll rest).size = _
    rw [ih]
    cases hresult : (catalog.apply request).1 with
    | error error => rw [accepted_of_error hresult, apply_refused hresult]
    | ok answer =>
      rw [accepted_of_ok hresult, (apply_grows hresult).size_eq, List.countP_cons]
      omega

/-- The texts that are answered otherwise after a history are those that are trimmed to the key of a
request that was accepted. -/
theorem resolve_applyAll_ne_iff (h : catalog.ParentsFirst) (requests : List Request)
    (text : String) :
    (catalog.applyAll requests).resolve text ≠ catalog.resolve text ↔
      Text.trim text ∈ (catalog.accepted requests).map Request.key := by
  induction requests generalizing catalog with
  | nil => simp [applyAll, accepted]
  | cons request rest ih =>
    show ((catalog.apply request).2.applyAll rest).resolve text ≠ _ ↔ _
    cases hresult : (catalog.apply request).1 with
    | error error => rw [accepted_of_error hresult, apply_refused hresult, ih h]
    | ok answer =>
      have hgrows := apply_grows hresult
      have hnext := h.grows hgrows
      rw [accepted_of_ok hresult, List.map_cons, List.mem_cons]
      by_cases hkey : Text.trim text = request.key
      -- what the new key names it names for ever, and it named nothing before
      · have hnamed := hgrows.resolve_eq text
        rw [if_pos hkey] at hnamed
        have hne := (hgrows.resolve_ne_iff text).2 hkey
        rw [(retains_applyAll hnext rest).resolve_of_ok hnamed, ← hnamed]
        exact iff_of_true hne (.inl hkey)
      · have hsame := hgrows.resolve_eq text
        rw [if_neg hkey] at hsame
        rw [← hsame, ih hnext]
        simp [hkey]

/-! ## Every history -/

/-- A catalog grows and keeps what it has. Whatever requests it has had: a request that is refused
leaves it unchanged. One that is accepted keeps the types that texts name, the declarations of types
and what these refine; it makes one more type if it is a declaration and none if it is an alias; and
the texts that are answered otherwise afterwards are those that are trimmed to its key. The same is
true of every further history of requests, with the keys of those that are accepted. -/
theorem catalogs_keep_what_they_have (past : List Request) :
    let catalog := empty.applyAll past
    (∀ request error, (catalog.apply request).1 = .error error →
        (catalog.apply request).2 = catalog) ∧
      (∀ request answer, (catalog.apply request).1 = .ok answer →
        let next := (catalog.apply request).2
        catalog.Retains next ∧
          next.size = catalog.size + (if request.isDeclaration then 1 else 0) ∧
          ∀ text, next.resolve text ≠ catalog.resolve text ↔ Text.trim text = request.key) ∧
      ∀ further,
        let later := catalog.applyAll further
        catalog.Retains later ∧
          later.size =
            catalog.size + (catalog.accepted further).countP Request.isDeclaration ∧
          ∀ text, later.resolve text ≠ catalog.resolve text ↔
            Text.trim text ∈ (catalog.accepted further).map Request.key := by
  intro catalog
  have h : catalog.ParentsFirst := parentsFirst_applyAll past
  refine ⟨fun request error => apply_refused, fun request answer hanswer => ?_, fun further => ?_⟩
  · have hgrows := apply_grows hanswer
    exact ⟨hgrows.retains h, hgrows.size_eq, hgrows.resolve_ne_iff⟩
  · exact ⟨retains_applyAll h further, catalog.size_applyAll further,
      resolve_applyAll_ne_iff h further⟩

end Catalog

namespace Sample

/-- The catalog after the first two sample requests. -/
def numbers : Catalog := Catalog.empty.applyAll (requests.take 2)

end Sample

/-- The sample catalog of numbers refuses to name another type like one that it has. It goes on with
bytes and their second name, and still answers as before on integers. -/
theorem catalogs_keep_what_they_have_for_bytes :
    Sample.numbers.resolve "\tInt " = .ok ⟨1⟩ ∧
      (Sample.numbers.apply (.refine " Int" ⟨0⟩)).1 = .error (.duplicate "Int") ∧
      (Sample.numbers.apply (.refine " Int" ⟨0⟩)).2 = Sample.numbers ∧
      (Sample.numbers.apply (.refine "Byte" ⟨1⟩)).1 = .ok (some ⟨2⟩) ∧
      (Sample.numbers.apply (.refine "Byte" ⟨1⟩)).2.resolve "\tInt " = .ok ⟨1⟩ ∧
      Sample.numbers.accepted (Sample.requests.drop 2) =
        [.refine "Byte" ⟨1⟩, .addAlias "Octet" ⟨2⟩] ∧
      Sample.catalog.resolve "\tInt " = .ok ⟨1⟩ ∧
      Sample.catalog.size = Sample.numbers.size + 1 ∧
      Sample.catalog.resolve "Octet\n" ≠ Sample.numbers.resolve "Octet\n" := by
  have hint : Sample.numbers.resolve "\tInt " = .ok ⟨1⟩ := by rfl
  have hrefused : (Sample.numbers.apply (.refine " Int" ⟨0⟩)).1 = .error (.duplicate "Int") := by
    rfl
  have hbyte : (Sample.numbers.apply (.refine "Byte" ⟨1⟩)).1 = .ok (some ⟨2⟩) := by rfl
  have haccepted : Sample.numbers.accepted (Sample.requests.drop 2) =
      [.refine "Byte" ⟨1⟩, .addAlias "Octet" ⟨2⟩] := by decide +kernel
  obtain ⟨hrefuse, haccept, hfurther⟩ :=
    Catalog.catalogs_keep_what_they_have (Sample.requests.take 2)
  obtain ⟨hretains, _, _⟩ := haccept _ _ hbyte
  obtain ⟨hretains_later, hsize, htexts⟩ := hfurther (Sample.requests.drop 2)
  rw [← Sample.numbers] at hsize htexts
  rw [haccepted] at hsize htexts
  have hoctet : Text.trim "Octet\n" ∈
      [Catalog.Request.refine "Byte" ⟨1⟩, .addAlias "Octet" ⟨2⟩].map Catalog.Request.key := by
    decide +kernel
  exact ⟨hint, hrefused, hrefuse _ _ hrefused, hbyte, hretains.resolve_of_ok hint, haccepted,
    hretains_later.resolve_of_ok hint, hsize, (htexts "Octet\n").2 hoctet⟩

end Callsite
