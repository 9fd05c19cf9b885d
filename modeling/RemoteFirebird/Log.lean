import RemoteFirebird.ForeignTable.Statements
import RemoteFirebird.Options.View
import RemoteFirebird.Session.Endpoint

/-!
# Log

The events that are reported while the library works. An event holds what it is about; its message
and its fields are texts made from that. A password is in no field.
-/

namespace RemoteFirebird.Log

open Options Session

/-- How grave an event is. -/
inductive Severity
  | warn
  | debug
  | trace
  deriving DecidableEq

namespace Severity

def label : Severity → String
  | warn => "warn"
  | debug => "debug"
  | trace => "trace"

/-- Whether a log that is kept at a threshold holds events of a severity. -/
def reaches (s threshold : Severity) : Bool :=
  s.ctorIdx ≤ threshold.ctorIdx

end Severity

inductive Event
  | validatingOption (scope : Scope) (name : String)
  | builtTargetList (table : String) (retrieved : List Int)
  | generated (verb sql : String)
  | databasePath (path : String)
  | initializingPool
  | establishing (server : String) (key : Key)
  | connecting (login : Login)
  | connected (path : String)
  | stillBorrowed (key : Key)
  | closed (path : String)
  | releasedAfterBorrow (path : String)
  deriving DecidableEq

namespace Event

def severity : Event → Severity
  | validatingOption .. => .trace
  | builtTargetList .. => .trace
  | generated .. => .debug
  | databasePath _ => .trace
  | initializingPool => .debug
  | establishing .. => .debug
  | connecting _ => .debug
  | connected _ => .debug
  | stillBorrowed _ => .warn
  | closed _ => .debug
  | releasedAfterBorrow _ => .trace

def message : Event → String
  | validatingOption .. => "validating option"
  | builtTargetList .. => "built target list"
  | generated verb _ => "deparsed " ++ verb
  | databasePath _ => "database path"
  | initializingPool => "initializing connection cache"
  | establishing .. => "establishing new session"
  | connecting _ => "connecting to remote database"
  | connected _ => "remote connection ready"
  | stillBorrowed _ => "closing session that is still borrowed"
  | closed _ => "closed session"
  | releasedAfterBorrow _ => "releasing connection closed during borrow"

/-- The two identifiers of a key. -/
def keyFields (key : Key) : List (String × String) :=
  [("server_id", toString key.serverId.toNat), ("user_id", toString key.userId.toNat)]

def fields : Event → List (String × String)
  | validatingOption scope name => [("context", scope.title), ("name", name)]
  | builtTargetList table retrieved =>
    [("relation", table),
      ("retrieved_attrs", "[" ++ ", ".intercalate (retrieved.map toString) ++ "]")]
  | generated _ sql => [("sql", sql)]
  | databasePath path => [("path", path)]
  | initializingPool => []
  | establishing server key => ("server", server) :: keyFields key
  | connecting login => [("params", login.describe)]
  | connected path => [("db_path", path)]
  | stillBorrowed key => keyFields key
  | closed path => [("db_path", path)]
  | releasedAfterBorrow path => [("db_path", path)]

end Event

/-- What the check of an option list reports. -/
def ofCheck (scope : Scope) (pairs : List Pair) : List Event :=
  (examined scope [] pairs).map fun p => .validatingOption scope p.name

/-- What reading a typed view reports. -/
def ofSource {α : Type} [View α] : Source α → List Event
  | .pairs list => ofCheck (View.scope α) list
  | .known _ => []

/-- What looking up the path of a database reports. -/
def ofPath (server : Server) : List Event :=
  match Session.databasePath server with
  | .ok path => [.databasePath path]
  | .error _ => []

/-- What building a target list reports. -/
def ofTargetList (table : ForeignTable) (list : Sql.TargetList) : List Event :=
  [.builtTargetList table.localName list.retrieved]

/-- What generating a statement reports. -/
def ofStatement (table : ForeignTable) (statement : Sql.Statement) : List Event :=
  (statement.targetList?.map (ofTargetList table)).getD [] ++
    [.generated statement.verb statement.sql]

end RemoteFirebird.Log
