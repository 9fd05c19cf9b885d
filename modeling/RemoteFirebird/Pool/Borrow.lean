import RemoteFirebird.Pool.Basic

/-!
# Borrowing connections

A session that is kept under a handle lends its connection to one borrow at a time. Sessions may be
closed while they are borrowed; the connection is dropped when that borrow ends.
-/

namespace RemoteFirebird.Pool

open Session

/-- Starts a borrow, if the handle exists and its session has a connection to lend. -/
def beginBorrow (p : Pool) (handle : String) : Option (Except Fault Pool) :=
  (p.handles.lookup handle).bind fun s => (p.session? s).map fun x =>
    if x.closed then .error (.closed x.path)
    else if x.borrowed then .error (.busy x.path)
    else if x.connection.isNone then .error (.closed x.path)
    else
      .ok <| { p with calls := .borrowing s :: p.calls }.modifySession s fun x =>
        { x with borrowed := true, holders := x.holders + 1 }

/-- Ends the latest borrow. -/
def endBorrow (p : Pool) : Pool :=
  match p.calls with
  | .borrowing s :: calls =>
    let p := { p with calls }.modifySession s fun x => { x with borrowed := false }
    let p := match p.session? s with
      | some x => if x.closed then (p.log (.releasedAfterBorrow x.path)).dropConnection s else p
      | none => p
    p.letGo s
  | _ => p

/-- What a borrower can ask of a connection. -/
inductive Use
  | isReady
  | errorMessage
  | setAutocommit (on : Bool)
  | setMessageLevel (level : MessageLevel)
  deriving DecidableEq

def Use.occurrence (id : Nat) : Use → Occurrence
  | isReady => .isReady id
  | errorMessage => .errorMessage id
  | setAutocommit on => .setAutocommit id on
  | setMessageLevel level => .setMessageLevel id level

/-- Uses the connection of the latest borrow, and says what the connection says about itself. -/
def use (p : Pool) (u : Use) : Option (Pool × Condition) :=
  match p.calls with
  | .borrowing s :: _ =>
    ((p.session? s).bind Session.connection).map fun c =>
      (p.record (u.occurrence c.id), c.condition)
  | _ => none

end RemoteFirebird.Pool
