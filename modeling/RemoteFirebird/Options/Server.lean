import RemoteFirebird.Options.View

/-!
# Server options

Where the remote database is, and the settings that its foreign tables fall back on.
-/

namespace RemoteFirebird.Options

/-- The port that a Firebird server listens on unless it is told otherwise. -/
def defaultPort : UInt16 := 3050

structure Server where
  address : Option String := none
  port : UInt16 := defaultPort
  database : Option String := none
  disablePushdowns : Bool := false
  updatable : Option Bool := none
  quoteIdentifiers : Bool := false
  implicitBoolType : Bool := false
  batchSize : Option UInt32 := none
  truncatable : Option Bool := none
  deriving DecidableEq

def Server.put (s : Server) (p : Pair) : Except Fault Server := do
  match p.name with
  | "address" => return { s with address := some p.value }
  | "port" => return { s with port := ← Value.port p.value }
  | "database" => return { s with database := some p.value }
  | "disable_pushdowns" => return { s with disablePushdowns := ← Value.flag p.name p.value }
  | "updatable" => return { s with updatable := some (← Value.flag p.name p.value) }
  | "quote_identifiers" => return { s with quoteIdentifiers := ← Value.flag p.name p.value }
  | "implicit_bool_type" => return { s with implicitBoolType := ← Value.flag p.name p.value }
  | "batch_size" => return { s with batchSize := some (← Value.batchSize p.value) }
  | "truncatable" => return { s with truncatable := some (← Value.flag p.name p.value) }
  | _ => return s

instance : View Server where
  scope := .server
  defaults := {}
  put := Server.put

end RemoteFirebird.Options
