/-!
# Blank characters and trimming

A character is blank if it has the Unicode property White_Space. `trim` removes the blanks at both
ends of a text and `trimEnd` those at its end; both are computed on the list of characters, where
`trimStart` and `trimEnd` are `dropWhile` from the one side and from the other.
-/

namespace Callsite.Text

/-- Whether a character is white space: U+0009 to U+000D, U+0020, U+0085, U+00A0, U+1680, U+2000 to
U+200A, U+2028, U+2029, U+202F, U+205F and U+3000. -/
def isBlank (c : Char) : Bool :=
  let n := c.toNat
  (0x09 ≤ n && n ≤ 0x0D) || n == 0x20 || n == 0x85 || n == 0xA0 || n == 0x1680 ||
    (0x2000 ≤ n && n ≤ 0x200A) || n == 0x2028 || n == 0x2029 || n == 0x202F || n == 0x205F ||
    n == 0x3000

namespace Chars

/-- The characters from the first one that is not blank on. -/
def trimStart (cs : List Char) : List Char :=
  cs.dropWhile isBlank

/-- The characters up to the last one that is not blank. -/
def trimEnd (cs : List Char) : List Char :=
  (cs.reverse.dropWhile isBlank).reverse

/-- The characters between the blanks at both ends. -/
def trim (cs : List Char) : List Char :=
  trimEnd (trimStart cs)

/-- The characters before a final `last`, if the list ends in it. -/
def dropLast? (last : Char) (cs : List Char) : Option (List Char) :=
  if cs.getLast? = some last then some cs.dropLast else none

end Chars

/-- The text without the blanks at its end. -/
def trimEnd (text : String) : String :=
  String.ofList (Chars.trimEnd text.toList)

/-- The text without the blanks at both ends. -/
def trim (text : String) : String :=
  String.ofList (Chars.trim text.toList)

@[simp]
theorem toList_trimEnd (text : String) : (trimEnd text).toList = Chars.trimEnd text.toList := by
  simp [trimEnd]

@[simp]
theorem toList_trim (text : String) : (trim text).toList = Chars.trim text.toList := by
  simp [trim]

/-- Every character that core counts as white space is blank. -/
theorem isBlank_of_isWhitespace {c : Char} (h : c.isWhitespace = true) : isBlank c = true := by
  simp only [Char.isWhitespace, Bool.or_eq_true, decide_eq_true_eq] at h
  rcases h with ((rfl | rfl) | rfl) | rfl <;> decide

end Callsite.Text
