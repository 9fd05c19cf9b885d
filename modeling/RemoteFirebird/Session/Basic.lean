import RemoteFirebird.Session.MessageLevel
import RemoteFirebird.Text.Record

/-!
# Sessions

A session owns the connection that was opened for it. Statements borrow the connection; only the
session gives it up, when it is closed or when nobody holds the session any more.
-/

namespace RemoteFirebird.Session

/-- What a fresh connection says about itself. -/
structure Condition where
  ready : Bool
  message : String
  deriving DecidableEq

/-- An open connection, known by the number of the attempt that opened it. -/
structure Connection where
  id : Nat
  condition : Condition
  deriving DecidableEq

/-- What a client can see of a session. -/
structure Snapshot where
  path : String
  autocommit : Bool
  level : MessageLevel
  closed : Bool
  deriving DecidableEq

/-- The text of a session, for diagnostics. -/
def Snapshot.describe (s : Snapshot) : String :=
  Text.record "Session"
    [("db_path", Text.quoted s.path), ("autocommit", Text.truth s.autocommit),
      ("message_level", s.level.title), ("closed", Text.truth s.closed)]

end Session

structure Session extends Session.Snapshot where
  /-- Whether a borrow is running. -/
  borrowed : Bool
  connection : Option Session.Connection
  /-- How many parties hold the session. -/
  holders : Nat
  deriving DecidableEq

/-- The session on a connection that has been set up, held by whoever asked for it. -/
def Session.fresh (path : String) (connection : Session.Connection) : Session where
  path
  autocommit := true
  level := .ofSessions
  closed := false
  borrowed := false
  connection := some connection
  holders := 1

end RemoteFirebird
