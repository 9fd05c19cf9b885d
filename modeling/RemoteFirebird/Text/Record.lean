import RemoteFirebird.Text.Quoted

/-!
# Texts of records

The text of a value with named fields, for diagnostics: the name of its type, and its fields in
braces.
-/

namespace RemoteFirebird.Text

/-- The texts of the fields, each behind its name. -/
def fieldTexts (fields : List (String × String)) : List String :=
  fields.map fun f => f.1 ++ ": " ++ f.2

def record (name : String) (fields : List (String × String)) : String :=
  name ++ " \x7b " ++ ", ".intercalate (fieldTexts fields) ++ " \x7d"

/-- The text of a record that has more fields than are shown. -/
def openRecord (name : String) (fields : List (String × String)) : String :=
  name ++ " \x7b " ++ ", ".intercalate (fieldTexts fields ++ [".."]) ++ " \x7d"

/-- The text of an optional string. -/
def optional : Option String → String
  | some s => "Some(" ++ quoted s ++ ")"
  | none => "None"

/-- The text of a truth value. -/
def truth (b : Bool) : String :=
  if b then "true" else "false"

end RemoteFirebird.Text
