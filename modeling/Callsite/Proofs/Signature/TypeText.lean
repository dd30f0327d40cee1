import Callsite.Proofs.Text.Trimming
import Callsite.Signature.Argument

/-!
# Type texts

Whether a type text has the mark of a variadic argument and what its element type is are read in two
passes, which trim it differently. Both see the same form: a type text with the mark is a body, the
mark and blanks after it (`TypeText.isVariadic_iff`). Its element type is the trimmed body
(`TypeText.element_marked`), so that only one mark is taken away; that of any other type text is the
trimmed text (`TypeText.element_of_not_isVariadic`).
-/

namespace Callsite

/-! ## Marked texts -/

namespace TypeText

variable {text body after : String}

/-- The mark is no blank. -/
theorem isBlank_mark : Text.isBlank mark = false := by decide

/-- The characters of a marked text. -/
theorem toList_marked (body after : String) :
    (body ++ "*" ++ after).toList = body.toList ++ [mark] ++ after.toList := by
  rw [String.toList_append, String.toList_append]
  rfl

/-- A marked text is variadic. -/
theorem isVariadic_marked (hafter : Text.IsBlank after) (body : String) :
    isVariadic (body ++ "*" ++ after) = true := by
  rw [isVariadic, toList_marked, Text.Chars.trimEnd_append hafter,
    Text.Chars.trimEnd_concat isBlank_mark, List.getLast?_concat, beq_self_eq_true]

/-- A type text is variadic exactly if it is a body, the mark and blanks after it. -/
theorem isVariadic_iff :
    isVariadic text = true ↔ ∃ body after, Text.IsBlank after ∧ text = body ++ "*" ++ after := by
  constructor
  · intro h
    rw [isVariadic, beq_iff_eq] at h
    obtain ⟨body, hbody⟩ := List.getLast?_eq_some_iff.1 h
    obtain ⟨after, htext, hafter⟩ := Text.Chars.exists_trimEnd text.toList
    refine ⟨String.ofList body, String.ofList after, ?_, String.ext ?_⟩
    · rwa [Text.IsBlank, String.toList_ofList]
    · rwa [toList_marked, String.toList_ofList, String.toList_ofList, ← hbody]
  · rintro ⟨body, after, hafter, rfl⟩
    exact isVariadic_marked hafter body

/-- A marked text is trimmed to the body without the blanks at its start, and the mark. -/
theorem toList_trim_marked (hafter : Text.IsBlank after) (body : String) :
    (Text.trim (body ++ "*" ++ after)).toList = Text.Chars.trimStart body.toList ++ [mark] := by
  rw [Text.toList_trim, toList_marked, Text.Chars.trim_concat_append isBlank_mark hafter]

/-- A marked text is trimmed to the trimmed body, blanks and the mark. -/
theorem exists_trim_marked (hafter : Text.IsBlank after) (body : String) :
    ∃ gap, Text.IsBlank gap ∧
      Text.trim (body ++ "*" ++ after) = Text.trim body ++ gap ++ "*" := by
  obtain ⟨gap, hbody, hgap⟩ := Text.Chars.exists_trimEnd (Text.Chars.trimStart body.toList)
  refine ⟨String.ofList gap, ?_, String.ext ?_⟩
  · rwa [Text.IsBlank, String.toList_ofList]
  · rw [toList_trim_marked hafter, String.toList_append, String.toList_append, Text.toList_trim,
      String.toList_ofList, hbody]
    rfl

/-- The element type of a marked text is the trimmed body. -/
theorem element_marked (hafter : Text.IsBlank after) (body : String) :
    element (body ++ "*" ++ after) = Text.trim body := by
  rw [element, toList_marked, Text.Chars.trim_concat_append isBlank_mark hafter,
    Text.Chars.dropLast?, if_pos List.getLast?_concat, List.dropLast_concat]
  rfl

/-- The element type of a type text that is not variadic is the trimmed text. -/
theorem element_of_not_isVariadic (h : isVariadic text = false) :
    element text = Text.trim text := by
  have hlast : (Text.Chars.trim text.toList).getLast? ≠ some mark := by
    intro hmark
    obtain ⟨body, hbody⟩ := List.getLast?_eq_some_iff.1 hmark
    obtain ⟨before, after, htext, _, hafter⟩ := Text.exists_padding text
    have htrim : Text.trim text = String.ofList body ++ "*" := by
      refine String.ext ?_
      rw [Text.toList_trim, hbody, String.toList_append, String.toList_ofList]
      rfl
    have hmarked : text = before ++ String.ofList body ++ "*" ++ after := by
      rw [htrim, ← String.append_assoc] at htext
      exact htext
    rw [isVariadic_iff.2 ⟨_, after, hafter, hmarked⟩] at h
    exact absurd h (by simp)
  rw [element, Text.Chars.dropLast?, if_neg hlast]

/-- A type text has a blank element type exactly if it is blank or nothing but the mark, blanks
around it apart. -/
theorem isBlank_element_iff :
    Text.IsBlank (element text) ↔ Text.trim text = "" ∨ Text.trim text = "*" := by
  rw [← Text.trim_eq_empty_iff]
  cases hvariadic : isVariadic text with
  | false =>
    rw [element_of_not_isVariadic hvariadic, Text.trim_trim, iff_self_or]
    intro honly
    obtain ⟨before, after, htext, _, hafter⟩ := Text.exists_padding text
    rw [honly] at htext
    rw [isVariadic_iff.2 ⟨before, after, hafter, htext⟩] at hvariadic
    exact absurd hvariadic (by simp)
  | true =>
    obtain ⟨body, after, hafter, rfl⟩ := isVariadic_iff.1 hvariadic
    have hempty : Text.trim body = "" ↔ Text.Chars.trimStart body.toList = [] :=
      Text.trim_eq_empty_iff.trans List.dropWhile_eq_nil_iff.symm
    have honly : Text.trim (body ++ "*" ++ after) = "*" ↔
        Text.Chars.trimStart body.toList = [] := by
      rw [← String.toList_inj, toList_trim_marked hafter]
      show Text.Chars.trimStart body.toList ++ [mark] = [] ++ [mark] ↔ _
      exact List.append_left_inj [mark]
    have hne : Text.trim (body ++ "*" ++ after) ≠ "" := by
      rw [← String.toList_inj.ne, toList_trim_marked hafter]
      exact List.concat_ne_nil _ _
    rw [element_marked hafter, Text.trim_trim, hempty, honly, or_iff_right hne]

/-- A trimmed text that does not end in the mark is not variadic, whatever blanks are around it. -/
theorem isVariadic_padded {before : String} (htrimmed : Text.IsTrimmed text)
    (hmark : ¬ [mark] <:+ text.toList) (hbefore : Text.IsBlank before)
    (hafter : Text.IsBlank after) : isVariadic (before ++ text ++ after) = false := by
  rw [← Bool.not_eq_true]
  intro hvariadic
  obtain ⟨body, rest, hrest, hmarked⟩ := isVariadic_iff.1 hvariadic
  obtain ⟨gap, _, htrim⟩ := exists_trim_marked hrest body
  -- what the text is trimmed to is the text itself, and it ends in the mark
  rw [← hmarked, Text.trim_padded hbefore hafter, Text.isTrimmed_iff.1 htrimmed] at htrim
  have hend : (Text.trim body ++ gap ++ "*").toList = (Text.trim body ++ gap).toList ++ [mark] :=
    String.toList_append ..
  refine hmark ⟨(Text.trim body ++ gap).toList, ?_⟩
  rw [htrim, hend]

end TypeText

/-- The mark and the element type of an argument agree. The element type is trimmed; it is the
trimmed type text if the argument is not variadic, and otherwise the trimmed type text is the
element type, blanks and the mark. Conversely, a trimmed text with the mark after it, and with
blanks before, between and after them, is the element type of a variadic argument, and one that does
not itself end in the mark is, with blanks around it, that of an argument which is not variadic. -/
theorem marks_and_elements_agree (argument : Argument) :
    Text.IsTrimmed argument.elementType ∧
      (argument.isVariadic = false → argument.elementType = Text.trim argument.typeText) ∧
      (argument.isVariadic = true → ∃ gap, Text.IsBlank gap ∧
        Text.trim argument.typeText = argument.elementType ++ gap ++ "*") ∧
      ∀ element before gap after, Text.IsTrimmed element → Text.IsBlank before →
        Text.IsBlank gap → Text.IsBlank after →
          (argument.typeText = before ++ element ++ gap ++ "*" ++ after →
            argument.isVariadic = true ∧ argument.elementType = element) ∧
          (argument.typeText = before ++ element ++ after → ¬ "*".toList <:+ element.toList →
            argument.isVariadic = false ∧ argument.elementType = element) := by
  obtain ⟨name, text, direction⟩ := argument
  unfold Argument.isVariadic Argument.elementType
  dsimp only
  refine ⟨?trimmed, TypeText.element_of_not_isVariadic, ?marked, ?read⟩
  case trimmed =>
    cases hvariadic : TypeText.isVariadic text with
    | false =>
      rw [TypeText.element_of_not_isVariadic hvariadic]
      exact Text.isTrimmed_trim text
    | true =>
      obtain ⟨body, after, hafter, rfl⟩ := TypeText.isVariadic_iff.1 hvariadic
      rw [TypeText.element_marked hafter]
      exact Text.isTrimmed_trim body
  case marked =>
    intro hvariadic
    obtain ⟨body, after, hafter, rfl⟩ := TypeText.isVariadic_iff.1 hvariadic
    rw [TypeText.element_marked hafter]
    exact TypeText.exists_trim_marked hafter body
  case read =>
    intro element before gap after helement hbefore hgap hafter
    have htrim := Text.isTrimmed_iff.1 helement
    constructor
    · rintro rfl
      refine ⟨TypeText.isVariadic_marked hafter _, ?_⟩
      rw [TypeText.element_marked hafter, Text.trim_padded hbefore hgap, htrim]
    · rintro rfl hmark
      have hplain := TypeText.isVariadic_padded helement hmark hbefore hafter
      refine ⟨hplain, ?_⟩
      rw [TypeText.element_of_not_isVariadic hplain, Text.trim_padded hbefore hafter, htrim]

namespace Sample

/-- An argument with two marks, blanks around the second one. -/
def starred : Argument := ⟨"items", " Float* \t* ", .input⟩

/-- An argument with blanks around its type text. -/
def spaced : Argument := ⟨"result", "\u00a0Float\n", .output⟩

end Sample

/-- Only the second of two marks makes an argument variadic; the first one belongs to its element
type. An argument with blanks but no mark is not variadic. -/
theorem marks_and_elements_agree_on_two_marks :
    (Text.IsTrimmed "Float*" ∧ Text.IsBlank " " ∧ Text.IsBlank " \t" ∧
        Sample.starred.typeText = " " ++ "Float*" ++ " \t" ++ "*" ++ " " ∧
        Sample.starred.isVariadic = true ∧ Sample.starred.elementType = "Float*" ∧
        ∃ gap, Text.IsBlank gap ∧
          Text.trim Sample.starred.typeText = Sample.starred.elementType ++ gap ++ "*") ∧
      Text.IsTrimmed "Float" ∧ Text.IsBlank "\u00a0" ∧ Text.IsBlank "\n" ∧
      Sample.spaced.typeText = "\u00a0" ++ "Float" ++ "\n" ∧ ¬ "*".toList <:+ "Float".toList ∧
      Sample.spaced.isVariadic = false ∧ Sample.spaced.elementType = "Float" ∧
      Sample.spaced.elementType = Text.trim Sample.spaced.typeText := by
  have htrimmed : Text.IsTrimmed "Float*" := by decide +kernel
  have hspace : Text.IsBlank " " := by decide +kernel
  have htab : Text.IsBlank " \t" := by decide +kernel
  have hfloat : Text.IsTrimmed "Float" := by decide +kernel
  have hwide : Text.IsBlank "\u00a0" := by decide +kernel
  have hline : Text.IsBlank "\n" := by decide +kernel
  have hmark : ¬ "*".toList <:+ "Float".toList := by decide +kernel
  have hstarred : Sample.starred.typeText = " " ++ "Float*" ++ " \t" ++ "*" ++ " " := by
    decide +kernel
  have hspaced : Sample.spaced.typeText = "\u00a0" ++ "Float" ++ "\n" := by decide +kernel
  obtain ⟨_, _, hgap, hread⟩ := marks_and_elements_agree Sample.starred
  obtain ⟨_, hplain, _, hread_spaced⟩ := marks_and_elements_agree Sample.spaced
  obtain ⟨hvariadic, helement⟩ :=
    (hread "Float*" " " " \t" " " htrimmed hspace htab hspace).1 hstarred
  obtain ⟨hfixed, hwhole⟩ :=
    (hread_spaced "Float" "\u00a0" " " "\n" hfloat hwide hspace hline).2 hspaced hmark
  exact ⟨⟨htrimmed, hspace, htab, hstarred, hvariadic, helement, hgap hvariadic⟩, hfloat, hwide,
    hline, hspaced, hmark, hfixed, hwhole, hplain hfixed⟩

end Callsite
