import RemoteFirebird.Attribute
import RemoteFirebird.Sql.Identifier

/-!
# Target lists

What a SELECT or a RETURNING clause fetches: some columns, and behind them the row identity if it
is wanted. A list that fetches nothing is written as NULL, which keeps the statement valid.
-/

namespace RemoteFirebird.Sql

structure TargetList where
  columns : List (Int × Identifier)
  rowIdentity : Bool
  deriving DecidableEq

namespace TargetList

/-- The attribute numbers of what is fetched, in the order of the expressions. -/
def retrieved (t : TargetList) : List Int :=
  t.columns.map Prod.fst ++ if t.rowIdentity then [Attribute.rowIdentity] else []

/-- The expressions of the list. -/
def expressions (t : TargetList) : List String :=
  t.columns.map (fun c => c.2.sql) ++ if t.rowIdentity then [Attribute.rowIdentityColumn] else []

def sql (t : TargetList) : String :=
  match t.expressions with
  | [] => "NULL"
  | es => ", ".intercalate es

end TargetList

end RemoteFirebird.Sql
