import RemoteFirebird.Attribute

/-!
# Faults of a foreign table

Why a table cannot be described or a statement cannot be generated. All of them are internal
errors, since a caller that asks for what exists meets none.
-/

namespace RemoteFirebird.ForeignTable

/-- What is wrong with a list of columns. -/
inductive ColumnDefect
  | notPositive (name : String) (number : Int)
  | usedTwice (number : Int)
  deriving DecidableEq

def ColumnDefect.message : ColumnDefect → String
  | notPositive name number =>
    "column \"" ++ name ++ "\" has attribute number " ++ toString number
  | usedTwice number => "attribute number " ++ toString number ++ " used more than once"

inductive Fault
  | missingAttribute (table : String) (number : Int)
  | droppedAttribute (table : String) (number : Int)
  | unsupportedSystemAttribute (number : Int)
  | invalidColumns (table : String) (defect : ColumnDefect)
  /-- The rows of a query cannot be modified. -/
  | definedByQuery (table : String)
  | emptyUpdate (table : String)
  deriving DecidableEq

namespace Fault

def message : Fault → String
  | missingAttribute table number =>
    "attribute number " ++ toString number ++ " does not exist in relation \"" ++ table ++ "\""
  | droppedAttribute table number =>
    "attribute number " ++ toString number ++ " of relation \"" ++ table ++
      "\" is a dropped column"
  | unsupportedSystemAttribute number =>
    "unsupported system attribute number " ++ toString number
  | invalidColumns table defect =>
    "invalid column list for relation \"" ++ table ++ "\": " ++ defect.message
  | definedByQuery table =>
    "relation \"" ++ table ++ "\" is defined by a query and cannot be modified"
  | emptyUpdate table => "UPDATE of relation \"" ++ table ++ "\" has no target columns"

def sqlState (_ : Fault) : String := "XX000"

end Fault

end RemoteFirebird.ForeignTable
