/-!
# Qualified names

A name may be qualified: what follows its last `::` is the name within the owner.
-/

namespace Callsite.Text

namespace Chars

/-- What follows the last `::`, if there is one. -/
def afterSeparator? : List Char → Option (List Char)
  | [] => none
  | c :: rest =>
    match afterSeparator? rest with
    | some last => some last
    | none =>
      match c, rest with
      | ':', ':' :: last => some last
      | _, _ => none

end Chars

/-- The name without its qualification: what follows the last `::`, or the whole name. -/
def unqualified (name : String) : String :=
  match Chars.afterSeparator? name.toList with
  | some last => String.ofList last
  | none => name

end Callsite.Text
