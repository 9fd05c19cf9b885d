import RemoteFirebird.Options.Server

/-!
# Table options

What a foreign table stands for on the remote side: a table, under its own or another name, or the
rows of a query.
-/

namespace RemoteFirebird.Options

structure Table where
  query : Option String := none
  tableName : Option String := none
  updatable : Option Bool := none
  estimatedRowCount : Option Int64 := none
  quoteIdentifier : Option Bool := none
  batchSize : Option UInt32 := none
  truncatable : Option Bool := none
  deriving DecidableEq

namespace Table

def put (t : Table) (p : Pair) : Except Fault Table := do
  match p.name with
  | "query" => return { t with query := some p.value }
  | "table_name" => return { t with tableName := some p.value }
  | "updatable" => return { t with updatable := some (← Value.flag p.name p.value) }
  | "estimated_row_count" => return { t with estimatedRowCount := some (← Value.rowCount p.value) }
  | "quote_identifier" => return { t with quoteIdentifier := some (← Value.flag p.name p.value) }
  | "batch_size" => return { t with batchSize := some (← Value.batchSize p.value) }
  | "truncatable" => return { t with truncatable := some (← Value.flag p.name p.value) }
  | _ => return t

instance : View Table where
  scope := .table
  defaults := {}
  put := put

/-- Whether rows of the table may be inserted, changed and deleted. The table's own setting wins
over the server's, and the rows of a query cannot be modified at all. -/
def isUpdatable (t : Table) (server : Server) : Bool :=
  match t.query with
  | some _ => false
  | none => (t.updatable <|> server.updatable).getD true

end Table

end RemoteFirebird.Options
