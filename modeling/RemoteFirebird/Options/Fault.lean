import RemoteFirebird.Options.Catalogue

/-!
# Faults of an option list

Why an option list is refused, with the text and the SQLSTATE code that the user is shown.
-/

namespace RemoteFirebird.Options

inductive Fault
  /-- The kind of object does not know the option. -/
  | unknown (name : String) (scope : Scope)
  /-- The option occurs twice. The value is left out where it is a secret. -/
  | repeated (name : String) (value : Option String)
  | queryWithTableName
  | updatableQuery
  | notInteger (name value : String)
  | notFlag (name value : String)
  | portOutOfRange
  | batchSizeTooSmall
  /-- An option that is needed was not given. -/
  | missing (name : String)
  deriving DecidableEq

namespace Fault

def message : Fault → String
  | unknown name scope =>
    "invalid option \"" ++ name ++ "\", valid options in this context are: " ++
      ", ".intercalate scope.names
  | repeated name none => "conflicting or redundant options: " ++ name
  | repeated name (some value) =>
    "conflicting or redundant options: " ++ name ++ " (" ++ value ++ ")"
  | queryWithTableName => "conflicting options: \"query\" cannot be used with \"table_name\""
  | updatableQuery =>
    "foreign tables defined with the \"query\" option cannot be set as \"updatable\""
  | notInteger name value =>
    "an error was encountered when parsing the provided \"" ++ name ++ "\" value: " ++ value
  | notFlag name value => "\"" ++ name ++ "\" requires a Boolean value, got \"" ++ value ++ "\""
  | portOutOfRange => "\"port\" must have a value between 1 and 65535"
  | batchSizeTooSmall => "\"batch_size\" must have a value of 1 or greater"
  | missing name => "missing required option \"" ++ name ++ "\""

def sqlState : Fault → String
  | unknown .. => "HV00D"
  | missing _ => "HV000"
  | _ => "42601"

end Fault

end RemoteFirebird.Options
