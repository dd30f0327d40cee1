/-!
# Settings documents

A settings document is a sequence of lines `key = value`, with blank lines and comments between
them. It is the flat part of TOML 1.1: keys are bare or quoted, values are texts or flags, and a key
occurs once. `read?` reads such a document and refuses every other, also those that TOML gives a
meaning which no setting has: dotted keys, tables, arrays, numbers and dates.

A text is written in one of four styles: between quotes, where a backslash starts an escape, or
between apostrophes, where nothing is escaped; and on one line, or, with the mark tripled, on
several. The reader works on the list of characters, and every step returns what it leaves unread.
-/

namespace Callsite.Settings

/-- A value in a settings document. -/
inductive Value where
  | text (content : String)
  | flag (on : Bool)
deriving DecidableEq

/-- The keys of a document with their values, in order. -/
abbrev Document := List (String × Value)

namespace Document

/-! ## Characters -/

/-- Whether a character separates words within a line. -/
def isSpace (c : Char) : Bool :=
  c == ' ' || c == '\t'

/-- Whether a character may stand in a comment or, unless it ends it, in a text: a tab or any
character that is no ASCII control. -/
def isText (c : Char) : Bool :=
  c == '\t' || (0x20 ≤ c.toNat && c.toNat != 0x7f)

/-- Whether a character may stand in a key without quotes. -/
def isBare (c : Char) : Bool :=
  c.isAlphanum || c == '_' || c == '-'

/-- What follows a line break, if one comes next. -/
def afterBreak? : List Char → Option (List Char)
  | '\n' :: rest => some rest
  | '\r' :: '\n' :: rest => some rest
  | _ => none

/-- What follows the spaces and line breaks that come next. -/
def skipBlanks : List Char → List Char
  | ' ' :: rest => skipBlanks rest
  | '\t' :: rest => skipBlanks rest
  | '\n' :: rest => skipBlanks rest
  | '\r' :: '\n' :: rest => skipBlanks rest
  | cs => cs

/-- What follows the end of a line, before which only spaces and a comment may stand. -/
def afterLine? (cs : List Char) : Option (List Char) :=
  let cs := cs.dropWhile isSpace
  let cs := match cs with
    | '#' :: rest => rest.dropWhile isText
    | cs => cs
  if cs.isEmpty then some [] else afterBreak? cs

/-! ## Escapes -/

/-- The value of a hexadecimal digit. -/
def hexDigit? (c : Char) : Option Nat :=
  if c.isDigit then some (c.toNat - '0'.toNat)
  else if 'a' ≤ c ∧ c ≤ 'f' then some (c.toNat - 'a'.toNat + 10)
  else if 'A' ≤ c ∧ c ≤ 'F' then some (c.toNat - 'A'.toNat + 10)
  else none

/-- The character with a code point, if there is one. -/
def character? (codePoint : Nat) : Option Char :=
  if codePoint.isValidChar then some (Char.ofNat codePoint) else none

/-- The character whose code point is written in exactly `width` hexadecimal digits. -/
def hexEscape? (width : Nat) (cs : List Char) : Option (Char × List Char) := do
  let digits ← (cs.take width).mapM hexDigit?
  guard (digits.length = width)
  let c ← character? (digits.foldl (fun value digit => value * 16 + digit) 0)
  return (c, cs.drop width)

/-- The character that an escape stands for, read after its backslash. -/
def escape? : List Char → Option (Char × List Char)
  | 'b' :: rest => some ('\x08', rest)
  | 't' :: rest => some ('\t', rest)
  | 'n' :: rest => some ('\n', rest)
  | 'f' :: rest => some ('\x0c', rest)
  | 'r' :: rest => some ('\r', rest)
  | 'e' :: rest => some ('\x1b', rest)
  | '"' :: rest => some ('"', rest)
  | '\\' :: rest => some ('\\', rest)
  | 'x' :: rest => hexEscape? 2 rest
  | 'u' :: rest => hexEscape? 4 rest
  | 'U' :: rest => hexEscape? 8 rest
  | _ => none

/-! ## Texts -/

/-- A way to write a text. -/
structure Style where
  /-- The character that opens and closes the text. -/
  mark : Char
  /-- Whether a backslash starts an escape. -/
  escapes : Bool
  /-- Whether the text may have several lines and its mark is tripled. -/
  multiline : Bool

/-- The characters of the text that the closing mark brings with it, and what follows it; `none` if
the text does not end here. A text on several lines may end in up to two marks of its own. -/
def Style.close? (style : Style) (cs : List Char) : Option (List Char × List Char) :=
  let marks := (cs.takeWhile (· == style.mark)).take (if style.multiline then 5 else 1)
  let closing := if style.multiline then 3 else 1
  if closing ≤ marks.length then some (marks.drop closing, cs.drop marks.length) else none

/-- What follows a backslash that only continues the line: spaces, a line break, and all blanks
after it. -/
def continued? (cs : List Char) : Option (List Char) :=
  (afterBreak? (cs.dropWhile isSpace)).map skipBlanks

/-- The characters of a text up to its closing mark, and what follows it. Each step reads at least
one character, so `steps` need not be more than there are characters. -/
def body? (style : Style) : (steps : Nat) → List Char → Option (List Char × List Char)
  | 0, _ => none
  | _, [] => none
  | steps + 1, c :: rest =>
    match style.close? (c :: rest) with
    | some closed => some closed
    | none =>
      if c = '\\' ∧ style.escapes then
        match continued? rest with
        | some rest =>
          if style.multiline then body? style steps rest else none
        | none => do
          let (c, rest) ← escape? rest
          let (cs, rest) ← body? style steps rest
          return (c :: cs, rest)
      else do
        guard (isText c || (style.multiline && (afterBreak? (c :: rest)).isSome))
        let (cs, rest) ← body? style steps rest
        return (c :: cs, rest)

/-- A text on one line, opened by the mark that comes next. -/
def singleLine? : List Char → Option (List Char × List Char)
  | '"' :: rest => body? ⟨'"', true, false⟩ (rest.length + 1) rest
  | '\x27' :: rest => body? ⟨'\x27', false, false⟩ (rest.length + 1) rest
  | _ => none

/-- A text of any style, opened by the marks that come next. A line break right after a tripled
mark is no part of the text. -/
def text? (cs : List Char) : Option (List Char × List Char) :=
  let several (style : Style) (rest : List Char) :=
    let rest := (afterBreak? rest).getD rest
    body? style (rest.length + 1) rest
  match cs with
  | '"' :: '"' :: '"' :: rest => several ⟨'"', true, true⟩ rest
  | '\x27' :: '\x27' :: '\x27' :: rest => several ⟨'\x27', false, true⟩ rest
  | cs => singleLine? cs

/-! ## Lines -/

/-- A key and what follows it. -/
def key? (cs : List Char) : Option (List Char × List Char) :=
  match singleLine? cs with
  | some read => some read
  | none =>
    let word := cs.takeWhile isBare
    if word.isEmpty then none else some (word, cs.dropWhile isBare)

/-- A value and what follows it. -/
def value? : List Char → Option (Value × List Char)
  | 't' :: 'r' :: 'u' :: 'e' :: rest => some (.flag true, rest)
  | 'f' :: 'a' :: 'l' :: 's' :: 'e' :: rest => some (.flag false, rest)
  | cs => (text? cs).map fun (content, rest) => (.text (String.ofList content), rest)

/-- A key with its value, up to the end of the line. -/
def entry? (cs : List Char) : Option ((String × Value) × List Char) := do
  let (key, rest) ← key? cs
  match rest.dropWhile isSpace with
  | '=' :: rest =>
    let (value, rest) ← value? (rest.dropWhile isSpace)
    let rest ← afterLine? rest
    return ((String.ofList key, value), rest)
  | _ => none

/-- The entries of the lines that come next. Each line has at least one character, so `steps` need
not be more than there are characters. -/
def entries? : (steps : Nat) → List Char → Option Document
  | _, [] => some []
  | 0, _ => none
  | steps + 1, cs =>
    match afterLine? cs with
    | some rest => entries? steps rest
    | none => do
      let (entry, rest) ← entry? (cs.dropWhile isSpace)
      let entries ← entries? steps rest
      return entry :: entries

/-- Whether no key occurs twice. -/
def distinctKeys (document : Document) : Bool :=
  document.map (·.1) |>.Nodup

/-- The document written in a text; a byte order mark at its start is skipped. -/
def read? (text : String) : Option Document := do
  let cs := match text.toList with
    | '\ufeff' :: rest => rest
    | cs => cs
  let document ← entries? (cs.length + 1) cs
  guard document.distinctKeys
  return document

end Document

end Callsite.Settings
