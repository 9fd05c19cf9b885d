import RemoteFirebird.Options.View
import RemoteFirebird.Text.Record

/-!
# User mapping options

The remote account of a local user. The password never shows in the text of the mapping.
-/

namespace RemoteFirebird.Options

structure UserMapping where
  username : Option String := none
  password : Option String := none
  deriving DecidableEq

namespace UserMapping

def put (u : UserMapping) (p : Pair) : Except Fault UserMapping :=
  match p.name with
  | "username" => .ok { u with username := some p.value }
  | "password" => .ok { u with password := some p.value }
  | _ => .ok u

instance : View UserMapping where
  scope := .userMapping
  defaults := {}
  put := put

/-- What is shown in place of a password. -/
def mask : String := "********"

/-- The text of the mapping, for diagnostics. -/
def describe (u : UserMapping) : String :=
  Text.record "UserOptions"
    [("username", Text.optional u.username),
      ("password", Text.optional (u.password.map fun _ => mask))]

end UserMapping

end RemoteFirebird.Options
