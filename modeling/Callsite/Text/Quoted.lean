import Callsite.Text.Unprintable

/-!
# Quoted text

Messages show a name between double quotes, with every character escaped that could be misread: the
quote and the backslash get a backslash, U+0000, tab, line feed and carriage return their letter,
and a character without a visible form is written by its code point in braces.
-/

namespace Callsite.Text

namespace Chars

/-- The written form of a code point: `u`, then the hexadecimal digits in braces. -/
def codePoint (c : Char) : List Char :=
  'u' :: '\x7b' :: Nat.toDigits 16 c.toNat ++ ['\x7d']

/-- What stands for one character between the quotes. -/
def escape (c : Char) : List Char :=
  if c = '"' ∨ c = '\\' then ['\\', c]
  else if c = '\x00' then ['\\', '0']
  else if c = '\t' then ['\\', 't']
  else if c = '\n' then ['\\', 'n']
  else if c = '\r' then ['\\', 'r']
  else if isUnprintable c then '\\' :: codePoint c
  else [c]

end Chars

/-- The text between double quotes, with its characters escaped. -/
def quoted (text : String) : String :=
  String.ofList ('"' :: text.toList.flatMap Chars.escape ++ ['"'])

/-- The texts in brackets, separated by commas. -/
def bracketed (texts : List String) : String :=
  "[" ++ ", ".intercalate texts ++ "]"

end Callsite.Text
