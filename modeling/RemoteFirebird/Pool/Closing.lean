import RemoteFirebird.Pool.Basic

/-!
# Closing all sessions

The sessions that the pool keeps are closed and their keys become vacant. Keys that are pending are
left alone. A session that others hold as well is closed with a warning, and if it is borrowed its
connection lasts until that borrow ends.
-/

namespace RemoteFirebird

/-- Closes a session, with what happens meanwhile. A borrowed connection is left to its borrow. -/
def Session.close (x : Session) : Session × List Pool.Occurrence :=
  if x.borrowed then ({ x with closed := true }, [.logged (.closed x.path)])
  else
    ({ x with closed := true, connection := none },
      x.connection.toList.map (fun c => .drop c.id) ++ [.logged (.closed x.path)])

namespace Pool

open Session

/-- Closes the session that is kept for a key, unless it has been closed before. The result also
holds what happens meanwhile and how many sessions were closed. -/
def closeOne (p : Pool) (key : Key) (s : Nat) : Pool × List Occurrence × Nat :=
  let p := p.setSlot key .vacant
  match p.session? s with
  | none => (p, [], 0)
  | some x =>
    let x := { x with holders := x.holders - 1 }
    let warning := if 0 < x.holders then [.logged (.stillBorrowed key)] else []
    if x.closed then (p.modifySession s fun _ => x, warning, 0)
    else
      let (x, os) := x.close
      (p.modifySession s fun _ => x, warning ++ os, 1)

def closeEach (p : Pool) : List (Key × Nat) → Pool × List Occurrence × Nat
  | [] => (p, [], 0)
  | (key, s) :: rest =>
    let (p, os, n) := p.closeOne key s
    let (p, os', n') := p.closeEach rest
    (p, os ++ os', n + n')

/-- Closes all sessions that the pool keeps, and says how many there were. -/
def closeAll (p : Pool) : Pool × Nat :=
  let (p, os, n) := p.closeEach p.kept
  ({ p with history := .together os :: p.history }, n)

end Pool

end RemoteFirebird
