/-!
# The text of a record

Values are inspected in one line: a tagged value is its tag and its content in parentheses, an
absent value is `None`, and a record is its name followed by its fields in braces. A record that
keeps some of its fields back ends in two dots.
-/

namespace Callsite.Text

/-- A tag with its content in parentheses. -/
def tagged (tag content : String) : String :=
  tag ++ "(" ++ content ++ ")"

/-- An optional value: `None`, or the value tagged as present. -/
def optional : Option String → String
  | none => "None"
  | some content => tagged "Some" content

/-- One field of a record: its name, then its value. -/
def field (name value : String) : String :=
  name ++ ": " ++ value

/-- A record that shows all its fields. -/
def record (name : String) (fields : List String) : String :=
  name ++ " \x7b " ++ ", ".intercalate fields ++ " \x7d"

/-- A record that shows only the given fields of those it has. -/
def openRecord (name : String) (fields : List String) : String :=
  record name (fields ++ [".."])

end Callsite.Text
