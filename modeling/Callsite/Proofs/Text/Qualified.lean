import Callsite.Registry.Entry
import Mathlib.Data.List.Infix

/-!
# The last separator

Separators can overlap: three colons in a row hold two of them, and the later one starts within the
earlier one. That something has no separator is therefore not enough for it to follow the last one.
It must have none even when a colon is put before it (`Chars.afterSeparator?_eq_some_iff`).
-/

namespace Callsite

namespace Text

/-! ## Characters -/

namespace Chars

/-- The characters that separate an owner from what it owns. -/
def separator : List Char := [':', ':']

variable {cs last : List Char}

/-- Characters have a separator with a colon before them exactly if they have one or start with a
colon. -/
theorem separator_infix_colon_cons_iff :
    separator <:+: ':' :: cs ↔ separator <:+: cs ∨ [':'] <+: cs := by
  have hstart : separator <+: ':' :: cs ↔ [':'] <+: cs := by
    rw [separator, List.cons_prefix_cons, and_iff_right rfl]
  rw [List.infix_cons_iff, hstart, or_comm]

/-- With a character in front the last separator stays the last one. If there was none, it is the
one that the character starts, if it starts one. -/
theorem afterSeparator?_cons (c : Char) (cs : List Char) :
    afterSeparator? (c :: cs) =
      (afterSeparator? cs).or (if separator <+: c :: cs then some cs.tail else none) := by
  rw [afterSeparator?.eq_def]
  dsimp only
  cases afterSeparator? cs with
  | some last => rfl
  | none =>
    rw [Option.none_or]
    dsimp only
    split
    · rfl
    · rename_i hstart
      rw [if_neg]
      rintro ⟨after, hafter⟩
      exact hstart after (List.cons.inj hafter).1.symm (List.cons.inj hafter).2.symm

/-- Nothing follows the last separator exactly if there is no separator. -/
theorem afterSeparator?_eq_none_iff : afterSeparator? cs = none ↔ ¬ separator <:+: cs := by
  induction cs with
  | nil => simp [afterSeparator?, separator]
  | cons c rest ih =>
    have hstart : (if separator <+: c :: rest then some rest.tail else none) = none ↔
        ¬ separator <+: c :: rest := by
      simp
    rw [afterSeparator?_cons, Option.or_eq_none_iff, ih, hstart, List.infix_cons_iff, not_or,
      and_comm]

/-- What follows the last separator is what follows some separator and has none even with a colon
before it. -/
theorem afterSeparator?_eq_some_iff : afterSeparator? cs = some last ↔
    (∃ owner, cs = owner ++ separator ++ last) ∧ ¬ separator <:+: ':' :: last := by
  constructor
  · intro h
    induction cs with
    | nil => exact absurd h (by simp [afterSeparator?])
    | cons c rest ih =>
      cases hrest : afterSeparator? rest with
      | some found =>
        rw [afterSeparator?_cons, hrest, Option.some_or] at h
        obtain ⟨⟨owner, howner⟩, hlast⟩ := ih (hrest.trans h)
        exact ⟨⟨c :: owner, congrArg (c :: ·) howner⟩, hlast⟩
      | none =>
        rw [afterSeparator?_cons, hrest, Option.none_or, Option.ite_none_right_eq_some] at h
        obtain ⟨⟨after, hafter⟩, htail⟩ := h
        -- the rest starts with the second colon of the separator
        obtain ⟨rfl, rfl⟩ := List.cons.inj hafter
        obtain rfl : after = last := Option.some.inj htail
        exact ⟨⟨[], rfl⟩, afterSeparator?_eq_none_iff.1 hrest⟩
  · rintro ⟨⟨owner, rfl⟩, hlast⟩
    induction owner with
    | nil =>
      show afterSeparator? (':' :: ':' :: last) = some last
      rw [afterSeparator?_cons, afterSeparator?_eq_none_iff.2 hlast, Option.none_or,
        if_pos ⟨last, rfl⟩, List.tail_cons]
    | cons c owner ih =>
      rw [List.cons_append, List.cons_append, afterSeparator?_cons, ih, Option.some_or]

end Chars

/-! ## Texts -/

/-- Whether a name has a separator somewhere. -/
def IsQualified (name : String) : Prop :=
  Chars.separator <:+: name.toList

/-- Whether a name starts with a colon. -/
def StartsWithColon (name : String) : Prop :=
  [':'] <+: name.toList

instance (name : String) : Decidable (IsQualified name) :=
  inferInstanceAs (Decidable (_ <:+: _))

instance (name : String) : Decidable (StartsWithColon name) :=
  inferInstanceAs (Decidable (_ <+: _))

variable {name : String}

/-- Without a separator the whole name is unqualified. -/
theorem unqualified_of_not_isQualified (h : ¬ IsQualified name) : unqualified name = name := by
  rw [unqualified, Chars.afterSeparator?_eq_none_iff.2 h]

/-- A name with a separator is an owner, a separator and the unqualified name, which has no
separator and does not start with a colon. -/
theorem unqualified_of_isQualified (h : IsQualified name) :
    (∃ owner, name = owner ++ "::" ++ unqualified name) ∧ ¬ IsQualified (unqualified name) ∧
      ¬ StartsWithColon (unqualified name) := by
  obtain ⟨last, hlast⟩ : ∃ last, Chars.afterSeparator? name.toList = some last :=
    Option.ne_none_iff_exists'.1 (mt Chars.afterSeparator?_eq_none_iff.1 (not_not.2 h))
  have hname : (unqualified name).toList = last := by
    rw [unqualified, hlast]
    exact String.toList_ofList
  obtain ⟨⟨owner, howner⟩, hsimple⟩ := Chars.afterSeparator?_eq_some_iff.1 hlast
  rw [Chars.separator_infix_colon_cons_iff, not_or, ← hname] at hsimple
  refine ⟨⟨String.ofList owner, String.ext ?_⟩, hsimple⟩
  rw [howner, String.toList_append, String.toList_append, hname, String.toList_ofList]
  rfl

/-- Whatever has no separator and does not start with a colon is the unqualified name after any
owner and a separator. -/
theorem unqualified_append {method : String} (hmethod : ¬ IsQualified method)
    (hcolon : ¬ StartsWithColon method) (owner : String) :
    unqualified (owner ++ "::" ++ method) = method := by
  have hafter : Chars.afterSeparator? (owner ++ "::" ++ method).toList = some method.toList := by
    refine Chars.afterSeparator?_eq_some_iff.2 ⟨⟨owner.toList, ?_⟩, ?_⟩
    · rw [String.toList_append, String.toList_append]
      rfl
    · rw [Chars.separator_infix_colon_cons_iff, not_or]
      exact ⟨hmethod, hcolon⟩
  rw [unqualified, hafter]
  exact String.ofList_toList

end Text

/-! ## Names of functions -/

variable {β : Type}

/-- The name of a function within its owner is the whole name if that has no separator. Otherwise it
follows some owner and a separator, has no separator and does not start with a colon. Conversely,
whatever has no separator and does not start with a colon is the name within the owner if it follows
an owner and a separator, also where the colons of the owner run into those of the separator. -/
theorem method_name_follows_last_separator (callee : Callee β) :
    (¬ Text.IsQualified callee.name → callee.methodName = callee.name) ∧
      (Text.IsQualified callee.name →
        (∃ owner, callee.name = owner ++ "::" ++ callee.methodName) ∧
          ¬ Text.IsQualified callee.methodName ∧ ¬ Text.StartsWithColon callee.methodName) ∧
      ∀ owner method, callee.name = owner ++ "::" ++ method → ¬ Text.IsQualified method →
        ¬ Text.StartsWithColon method → callee.methodName = method := by
  refine ⟨Text.unqualified_of_not_isQualified, Text.unqualified_of_isQualified, ?_⟩
  intro owner method hname hmethod hcolon
  rw [Callee.methodName, hname]
  exact Text.unqualified_append hmethod hcolon owner

namespace Sample

/-- A function with a name. -/
def named (name : String) : Callee String :=
  ⟨⟨0⟩, name, .function "length", .nobody, none, []⟩

end Sample

/-- Of three colons in a row the last two separate, and the first one belongs to the owner. A single
colon does not separate. -/
theorem method_name_follows_three_colons :
    (Text.IsQualified ":Vector:::Length" ∧ ¬ Text.IsQualified "Length" ∧
        ¬ Text.StartsWithColon "Length" ∧
        (Sample.named ":Vector:::Length").methodName = "Length") ∧
      ¬ Text.IsQualified "Vector:Length:" ∧
      (Sample.named "Vector:Length:").methodName = "Vector:Length:" := by
  have hqualified : Text.IsQualified ":Vector:::Length" := by decide +kernel
  have hmethod : ¬ Text.IsQualified "Length" := by decide +kernel
  have hcolon : ¬ Text.StartsWithColon "Length" := by decide +kernel
  have hsingle : ¬ Text.IsQualified "Vector:Length:" := by decide +kernel
  have hname : ":Vector:::Length" = ":Vector:" ++ "::" ++ "Length" := by decide +kernel
  obtain ⟨_, _, hfollows⟩ := method_name_follows_last_separator (Sample.named ":Vector:::Length")
  obtain ⟨hwhole, _⟩ := method_name_follows_last_separator (Sample.named "Vector:Length:")
  exact ⟨⟨hqualified, hmethod, hcolon, hfollows ":Vector:" "Length" hname hmethod hcolon⟩, hsingle,
    hwhole hsingle⟩

end Callsite
