/-!
# Option catalogue

Options are attached to four kinds of catalogue object. Each kind has its own list of known
options, in the order in which messages show them, and each option its kind of value.
-/

namespace RemoteFirebird.Options

/-- One option as it is written in a CREATE or ALTER command. -/
structure Pair where
  name : String
  value : String
  deriving DecidableEq

/-- The kind of catalogue object that an option list is attached to. -/
inductive Scope
  | server
  | userMapping
  | table
  | column
  deriving DecidableEq

/-- What the text of an option's value has to denote. -/
inductive Kind
  | text
  | flag
  | port
  | batchSize
  | rowCount
  deriving DecidableEq

namespace Scope

def title : Scope → String
  | server => "server"
  | userMapping => "user mapping"
  | table => "foreign table"
  | column => "column"

/-- The options known to a kind of object. -/
def catalogue : Scope → List (String × Kind)
  | server =>
    [("address", .text), ("port", .port), ("database", .text), ("disable_pushdowns", .flag),
      ("updatable", .flag), ("quote_identifiers", .flag), ("implicit_bool_type", .flag),
      ("batch_size", .batchSize), ("truncatable", .flag)]
  | userMapping => [("username", .text), ("password", .text)]
  | table =>
    [("query", .text), ("table_name", .text), ("updatable", .flag),
      ("estimated_row_count", .rowCount), ("quote_identifier", .flag), ("batch_size", .batchSize),
      ("truncatable", .flag)]
  | column => [("column_name", .text), ("quote_identifier", .flag), ("implicit_bool_type", .flag)]

/-- The names of the known options, in catalogue order. -/
def names (scope : Scope) : List String :=
  scope.catalogue.map Prod.fst

/-- The kind of value that an option holds, if the option is known. -/
def kind? (scope : Scope) (name : String) : Option Kind :=
  scope.catalogue.lookup name

end Scope

end RemoteFirebird.Options
