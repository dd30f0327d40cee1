import Mathlib.Data.String.Basic

/-!
# Texts in the order of their bytes

Texts are compared character by character. This is the order of their bytes in UTF-8
(`Text.bytes_lt_iff`): the bytes of a character are its digits in base 64 below a first byte that
tells how many there are, so that a smaller character has the smaller byte where two first differ.
-/

namespace Callsite.Text

/-- The bytes of a text in UTF-8. -/
def bytes (text : String) : List UInt8 :=
  text.toList.flatMap String.utf8EncodeChar

/-- These are the bytes that the text is made of. -/
theorem toByteArray_bytes (text : String) : (bytes text).toByteArray = text.toByteArray := by
  rw [← String.utf8Encode_toList]
  rfl

/-! ## Characters -/

/-- The number of a character is below 1114112. -/
theorem toNat_lt (c : Char) : c.val.toNat < 1114112 := by
  have hvalid : c.val.toNat < 0xd800 ∨ 0xdfff < c.val.toNat ∧ c.val.toNat < 0x110000 := c.valid
  omega

/-- Bytes come before others if the first of them is not greater, and the rest comes before the
other rest in case they begin alike. -/
theorem cons_lt_cons_of_le {m n : Nat} {rest others : List UInt8} (hm : m < 256) (hn : n < 256)
    (hle : m ≤ n) (hrest : m = n → rest < others) :
    UInt8.ofNat m :: rest < UInt8.ofNat n :: others := by
  rw [List.cons_lt_cons_iff]
  rcases Nat.lt_or_eq_of_le hle with hlt | rfl
  · left
    rwa [UInt8.lt_iff_toNat_lt, UInt8.toNat_ofNat_of_lt' hm, UInt8.toNat_ofNat_of_lt' hn]
  · exact .inr ⟨rfl, hrest rfl⟩

/-- The bytes of a smaller character come before those of a greater one, whatever follows them. -/
theorem encode_append_lt {c d : Char} (h : c < d) (rest others : List UInt8) :
    String.utf8EncodeChar c ++ rest < String.utf8EncodeChar d ++ others := by
  have hlt : c.val.toNat < d.val.toNat := h
  have hc := toNat_lt c
  have hd := toNat_lt d
  unfold String.utf8EncodeChar
  generalize c.val.toNat = m at hlt hc ⊢
  generalize d.val.toNat = n at hlt hd ⊢
  dsimp only
  -- one case for each pair of lengths; two numbers with the same bytes would be the same
  split_ifs
  all_goals
    simp only [List.cons_append, List.nil_append]
    repeat refine cons_lt_cons_of_le (by omega) (by omega) (by omega) fun _ => ?_
    omega

/-! ## Texts -/

/-- The bytes of characters are in the order of the characters. -/
theorem flatMap_encode_lt {cs ds : List Char} (h : cs < ds) :
    cs.flatMap String.utf8EncodeChar < ds.flatMap String.utf8EncodeChar := by
  induction h with
  | nil =>
    rename_i d ds
    obtain ⟨first, rest, hbytes⟩ :=
      List.exists_cons_of_ne_nil (String.utf8EncodeChar_ne_nil (c := d))
    rw [List.flatMap_cons, hbytes]
    exact List.nil_lt_cons _ _
  | rel hlt => exact encode_append_lt hlt _ _
  | cons _ ih => exact List.append_left_lt ih

/-- A text is smaller than another one exactly if its bytes come first. -/
theorem bytes_lt_iff {text other : String} : bytes text < bytes other ↔ text < other := by
  have hmono : ∀ {text other : String}, text < other → bytes text < bytes other :=
    fun h => flatMap_encode_lt h
  refine ⟨fun h => ?_, hmono⟩
  rcases lt_trichotomy text other with hlt | rfl | hgt
  · exact hlt
  · exact absurd h (List.lt_irrefl _)
  · exact absurd (hmono hgt) (List.lt_asymm h)

end Callsite.Text
