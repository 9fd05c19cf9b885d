import RemoteFirebird.Options.Server
import RemoteFirebird.Options.UserMapping

/-!
# Endpoints

Where a session leads and on whose behalf it is opened.
-/

namespace RemoteFirebird.Session

/-- The foreign server and the local user that a session belongs to. -/
structure Key where
  serverId : UInt32
  userId : UInt32
  deriving DecidableEq

/-- The path by which the client library finds the database: the database alone where there is no
address, and behind the address otherwise, which names the port only if it is not the usual one. -/
def databasePath (server : Options.Server) : Except Options.Fault String :=
  match server.database with
  | none => .error (.missing "database")
  | some database =>
    match server.address with
    | none => .ok database
    | some address =>
      if server.port = Options.defaultPort then .ok (address ++ ":" ++ database)
      else .ok (address ++ "/" ++ toString server.port.toNat ++ ":" ++ database)

/-- What the remote side is told when a connection is opened. -/
structure Login where
  path : String
  user : Option String
  password : Option String
  encoding : String
  deriving DecidableEq

/-- The text of the login, without the password. -/
def Login.describe (l : Login) : String :=
  Text.record "ConnectParams"
    [("db_path", Text.quoted l.path), ("user", Text.optional l.user),
      ("password", Text.optional (l.password.map fun _ => Options.UserMapping.mask)),
      ("client_encoding", Text.quoted l.encoding)]

end RemoteFirebird.Session
