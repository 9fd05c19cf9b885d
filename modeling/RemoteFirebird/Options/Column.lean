import RemoteFirebird.Options.View

/-!
# Column options

The remote name of a single column and how it is written.
-/

namespace RemoteFirebird.Options

structure Column where
  columnName : Option String := none
  quoteIdentifier : Option Bool := none
  implicitBoolType : Bool := false
  deriving DecidableEq

def Column.put (c : Column) (p : Pair) : Except Fault Column := do
  match p.name with
  | "column_name" => return { c with columnName := some p.value }
  | "quote_identifier" => return { c with quoteIdentifier := some (← Value.flag p.name p.value) }
  | "implicit_bool_type" => return { c with implicitBoolType := ← Value.flag p.name p.value }
  | _ => return c

instance : View Column where
  scope := .column
  defaults := {}
  put := Column.put

end RemoteFirebird.Options
