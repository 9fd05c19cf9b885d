import RemoteFirebird.Options.Fault

/-!
# Faults of a session

Why a session cannot be had or used.
-/

namespace RemoteFirebird.Session

inductive Fault
  /-- The options do not describe a session. -/
  | options (fault : Options.Fault)
  /-- The handshake failed. -/
  | notEstablished (path message : String)
  | closed (path : String)
  /-- The session is in use further up. -/
  | busy (path : String)
  /-- The session is being established further up. -/
  | inProgress (server : String)
  deriving DecidableEq

namespace Fault

def message : Fault → String
  | options fault => fault.message
  | notEstablished path message =>
    "Unable to connect to foreign server \"" ++ path ++ "\": " ++ message
  | closed path => "Session for \"" ++ path ++ "\" has been closed"
  | busy path => "Session for \"" ++ path ++ "\" is already borrowed by this operation"
  | inProgress server =>
    "Session for foreign server \"" ++ server ++ "\" is being established by this operation"

def sqlState : Fault → String
  | options fault => fault.sqlState
  | notEstablished .. => "HV00N"
  | closed _ => "08003"
  | busy _ => "55006"
  | inProgress _ => "55006"

end Fault

end RemoteFirebird.Session
