import Callsite.Text.Blank
import Mathlib.Data.List.DropRight

/-!
# Trimmed texts

A text is its trimmed form between blanks (`Text.exists_padding`), and blanks around a text do not
show in its trimmed form (`Text.trim_padded`). So a trimmed text is not changed by trimming it
again, and it is empty exactly if all of the text is blank. The texts that trimming does not change
are those without a blank at either end (`Text.isTrimmed_iff`).
-/

namespace Callsite

namespace Text

/-! ## Characters -/

namespace Chars

variable {before cs after : List Char} {c : Char}

/-- Blanks at the end of characters do not show when they are trimmed there. -/
theorem trimEnd_append (hafter : ∀ c ∈ after, isBlank c = true) :
    trimEnd (cs ++ after) = trimEnd cs := by
  rw [trimEnd, List.reverse_append, List.dropWhile_append_of_pos, ← trimEnd]
  exact fun c hc => hafter c (List.mem_reverse.1 hc)

/-- Characters that are all blank are trimmed to none. -/
theorem trim_of_blank (h : ∀ c ∈ cs, isBlank c = true) : trim cs = [] := by
  rw [trim, trimStart, List.dropWhile_eq_nil_iff.2 h]
  rfl

/-- Blanks on either side of characters do not show when these are trimmed. -/
theorem trim_padded (hbefore : ∀ c ∈ before, isBlank c = true)
    (hafter : ∀ c ∈ after, isBlank c = true) : trim (before ++ cs ++ after) = trim cs := by
  have hstart : trim (before ++ cs ++ after) = trim (cs ++ after) := by
    rw [trim, trimStart, List.append_assoc, List.dropWhile_append_of_pos hbefore, ← trimStart,
      ← trim]
  rw [hstart]
  by_cases hblank : ∀ c ∈ cs, isBlank c = true
  · rw [trim_of_blank hblank, trim_of_blank]
    exact fun c hc => (List.mem_append.1 hc).elim (hblank c) (hafter c)
  · -- trimming the start ends within the characters, so that the blanks after them stay there
    have hne : cs.dropWhile isBlank ≠ [] := mt List.dropWhile_eq_nil_iff.1 hblank
    rw [trim, trimStart, List.dropWhile_append, if_neg (by simpa using hne),
      trimEnd_append hafter, ← trimStart, ← trim]

/-- Characters are what they are trimmed to at the end, and blanks after it. -/
theorem exists_trimEnd (cs : List Char) :
    ∃ after, cs = trimEnd cs ++ after ∧ ∀ c ∈ after, isBlank c = true :=
  ⟨cs.rtakeWhile isBlank, List.rdropWhile_append_rtakeWhile.symm,
    fun _ => List.mem_rtakeWhile_imp⟩

/-- Characters are their trimmed form between blanks. -/
theorem exists_padding (cs : List Char) : ∃ before after, cs = before ++ trim cs ++ after ∧
    (∀ c ∈ before, isBlank c = true) ∧ ∀ c ∈ after, isBlank c = true := by
  obtain ⟨after, hend, hafter⟩ := exists_trimEnd (trimStart cs)
  refine ⟨cs.takeWhile isBlank, after, ?_, fun _ => List.mem_takeWhile_imp, hafter⟩
  rw [List.append_assoc, trim, ← hend]
  exact List.takeWhile_append_dropWhile.symm

/-- Trimmed characters do not start with a blank. -/
theorem isBlank_of_head?_trim (h : (trim cs).head? = some c) : isBlank c = false := by
  have hhead : (trimStart cs).head? = some c := by
    obtain ⟨rest, hrest⟩ : trim cs <+: trimStart cs := List.rdropWhile_prefix isBlank _
    rw [← hrest, List.head?_append, h, Option.some_or]
  have hfirst := List.head?_dropWhile_not isBlank cs
  rw [← trimStart, hhead] at hfirst
  exact hfirst

/-- Characters that are trimmed at the end do not end in a blank. -/
theorem isBlank_of_getLast?_trimEnd (h : (trimEnd cs).getLast? = some c) : isBlank c = false := by
  unfold trimEnd at h
  rw [List.getLast?_reverse] at h
  have hfirst := List.head?_dropWhile_not isBlank cs.reverse
  rw [h] at hfirst
  exact hfirst

/-- Nothing is trimmed at the end of characters that do not end in a blank. -/
theorem trimEnd_concat (hc : isBlank c = false) : trimEnd (cs ++ [c]) = cs ++ [c] := by
  unfold trimEnd
  rw [List.reverse_concat, List.dropWhile_cons_of_neg (by simp [hc]), List.reverse_cons,
    List.reverse_reverse]

/-- Characters up to one that is no blank, with blanks after it, are only trimmed at their start. -/
theorem trim_concat_append (hc : isBlank c = false) (hafter : ∀ c ∈ after, isBlank c = true) :
    trim (cs ++ [c] ++ after) = trimStart cs ++ [c] := by
  have hstart : trimStart (cs ++ [c]) = trimStart cs ++ [c] := by
    unfold trimStart
    rw [List.dropWhile_append]
    split
    · rename_i hempty
      rw [List.isEmpty_iff.1 hempty, List.dropWhile_cons_of_neg (by simp [hc])]
      rfl
    · rfl
  calc trim (cs ++ [c] ++ after)
    _ = trim ([] ++ (cs ++ [c]) ++ after) := rfl
    _ = trim (cs ++ [c]) := trim_padded (by simp) hafter
    _ = trimStart cs ++ [c] := by rw [trim, hstart, trimEnd_concat hc]

end Chars

/-! ## Texts -/

/-- Whether all characters of a text are blank. -/
def IsBlank (text : String) : Prop :=
  ∀ c ∈ text.toList, isBlank c = true

/-- Blanks on either side of a text do not show when it is trimmed. -/
theorem trim_padded {before after : String} (hbefore : IsBlank before) (hafter : IsBlank after)
    (text : String) : trim (before ++ text ++ after) = trim text := by
  refine String.ext ?_
  rw [toList_trim, toList_trim, String.toList_append, String.toList_append]
  exact Chars.trim_padded hbefore hafter

/-- A text is its trimmed form between blanks. -/
theorem exists_padding (text : String) :
    ∃ before after, text = before ++ trim text ++ after ∧ IsBlank before ∧ IsBlank after := by
  obtain ⟨before, after, htext, hbefore, hafter⟩ := Chars.exists_padding text.toList
  refine ⟨String.ofList before, String.ofList after, String.ext ?_, ?_, ?_⟩
  · simpa using htext
  · simpa [IsBlank] using hbefore
  · simpa [IsBlank] using hafter

/-- A trimmed text is not changed by trimming it. -/
theorem trim_trim (text : String) : trim (trim text) = trim text := by
  obtain ⟨before, after, htext, hbefore, hafter⟩ := exists_padding text
  have hpadded := trim_padded hbefore hafter (trim text)
  rw [← htext] at hpadded
  exact hpadded.symm

/-- A text is trimmed to the empty one exactly if it is blank. -/
theorem trim_eq_empty_iff {text : String} : trim text = "" ↔ IsBlank text := by
  constructor
  · intro h
    obtain ⟨before, after, htext, hbefore, hafter⟩ := exists_padding text
    rw [h, String.append_empty] at htext
    rw [htext, IsBlank, String.toList_append]
    exact fun c hc => (List.mem_append.1 hc).elim (hbefore c) (hafter c)
  · intro h
    refine String.ext ?_
    rw [toList_trim, Chars.trim_of_blank h]
    rfl

/-- Whether a text neither starts nor ends in a blank. -/
structure IsTrimmed (text : String) : Prop where
  head : ∀ c, text.toList.head? = some c → isBlank c = false
  last : ∀ c, text.toList.getLast? = some c → isBlank c = false

/-- Trimming makes a text trimmed. -/
theorem isTrimmed_trim (text : String) : IsTrimmed (trim text) where
  head c hc := by
    rw [toList_trim] at hc
    exact Chars.isBlank_of_head?_trim hc
  last c hc := by
    rw [toList_trim, Chars.trim] at hc
    exact Chars.isBlank_of_getLast?_trimEnd hc

/-- A text is trimmed exactly if trimming does not change it. -/
theorem isTrimmed_iff {text : String} : IsTrimmed text ↔ trim text = text := by
  constructor
  · intro h
    obtain ⟨before, after, htext, hbefore, hafter⟩ := Chars.exists_padding text.toList
    -- a blank at either end would be the first or the last character of the text
    have hbefore_nil : before = [] := by
      cases before with
      | nil => rfl
      | cons c rest =>
        have hc := h.head c (by rw [htext]; rfl)
        rw [hbefore c List.mem_cons_self] at hc
        exact absurd hc (by simp)
    have hafter_nil : after = [] := by
      rcases List.eq_nil_or_concat after with hnil | ⟨rest, c, rfl⟩
      · exact hnil
      · rw [List.concat_eq_append] at htext hafter
        have hc := h.last c (by rw [htext, ← List.append_assoc, List.getLast?_concat])
        rw [hafter c (by simp)] at hc
        exact absurd hc (by simp)
    refine String.ext ?_
    rw [toList_trim]
    simpa [hbefore_nil, hafter_nil] using htext.symm
  · intro h
    rw [← h]
    exact isTrimmed_trim text

instance (text : String) : Decidable (IsTrimmed text) :=
  decidable_of_iff _ isTrimmed_iff.symm

instance (text : String) : Decidable (IsBlank text) :=
  decidable_of_iff (text.toList.all isBlank = true) List.all_eq_true

end Text

end Callsite
