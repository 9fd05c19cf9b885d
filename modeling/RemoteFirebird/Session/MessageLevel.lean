/-!
# Message levels

The severities of diagnostics that the client library forwards, the least severe first.
-/

namespace RemoteFirebird.Session

inductive MessageLevel
  | debug5
  | debug4
  | debug3
  | debug2
  | debug1
  | log
  | info
  | notice
  | warning
  | error
  deriving DecidableEq

namespace MessageLevel

/-- The level as it is shown to users. -/
def label : MessageLevel → String
  | debug5 => "debug5"
  | debug4 => "debug4"
  | debug3 => "debug3"
  | debug2 => "debug2"
  | debug1 => "debug1"
  | log => "log"
  | info => "info"
  | notice => "notice"
  | warning => "warning"
  | error => "error"

/-- The level as it is shown in the texts of records. -/
def title : MessageLevel → String
  | debug5 => "Debug5"
  | debug4 => "Debug4"
  | debug3 => "Debug3"
  | debug2 => "Debug2"
  | debug1 => "Debug1"
  | log => "Log"
  | info => "Info"
  | notice => "Notice"
  | warning => "Warning"
  | error => "Error"

/-- All levels in ascending order. -/
def all : List MessageLevel :=
  [debug5, debug4, debug3, debug2, debug1, log, info, notice, warning, error]

def ofTitle? (s : String) : Option MessageLevel :=
  all.find? fun l => l.title == s

instance : Ord MessageLevel where
  compare a b := compare a.ctorIdx b.ctorIdx

/-- The level that every session is switched to. -/
def ofSessions : MessageLevel := debug2

end MessageLevel

end RemoteFirebird.Session
