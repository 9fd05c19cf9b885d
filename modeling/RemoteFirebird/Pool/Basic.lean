import RemoteFirebird.Options.UserMapping
import RemoteFirebird.Pool.History
import RemoteFirebird.Session.Fault

/-!
# Session pools

A pool keeps one session for each pair of a foreign server and a local user. Calls to the pool may
be made while other calls wait for an answer from the outside, so the calls that are under way form
a stack, the latest first. This module holds the state and what concerns single sessions: who holds
them, and when a connection is dropped.
-/

namespace RemoteFirebird

open Session

namespace Pool

/-- What the pool knows of a key. -/
inductive Slot
  | vacant
  /-- A session is being established. -/
  | pending
  | live (session : Nat)
  deriving DecidableEq

/-- A call that waits for the outside. Its owner is the key that a session is established for, if
the pool is to keep it. -/
inductive Call
  | askingServer (key : Key) (server : String)
  | askingUser (key : Key) (server : String) (options : Options.Server)
  | connecting (owner : Option Key) (id : Nat) (login : Login)
  /-- The connection is open and has yet to be set up. -/
  | opened (owner : Option Key) (login : Login) (connection : Connection)
  | borrowing (session : Nat)
  deriving DecidableEq

end Pool

/-- Sessions are known by their position in `sessions`. A pool is initialized by its first use. -/
structure Pool where
  /-- The client encoding of all sessions. -/
  encoding : String
  slots : Option (List (Key × Pool.Slot)) := none
  sessions : List Session := []
  handles : List (String × Nat) := []
  calls : List Pool.Call := []
  /-- How many connections have been asked for. -/
  attempts : Nat := 0
  /-- What has happened, the latest first. -/
  history : List Pool.Entry := []
  deriving DecidableEq

namespace Pool

/-- Changes the value at a key, or adds it behind the others. -/
def assign {κ β : Type} [BEq κ] (k : κ) (v : β) : List (κ × β) → List (κ × β)
  | [] => [(k, v)]
  | (k', v') :: rest => if k' == k then (k, v) :: rest else (k', v') :: assign k v rest

def record (p : Pool) (o : Occurrence) : Pool :=
  { p with history := .single o :: p.history }

def log (p : Pool) (e : Log.Event) : Pool :=
  p.record (.logged e)

def logAll (p : Pool) (es : List Log.Event) : Pool :=
  es.foldl log p

/-- The keys that have been looked up, with what is known of them. -/
def entries (p : Pool) : List (Key × Slot) :=
  p.slots.getD []

def slot (p : Pool) (key : Key) : Slot :=
  (p.entries.lookup key).getD .vacant

def setSlot (p : Pool) (key : Key) (slot : Slot) : Pool :=
  { p with slots := p.slots.map (assign key slot) }

/-- The sessions that the pool keeps, with their keys. -/
def kept (p : Pool) : List (Key × Nat) :=
  p.entries.filterMap fun e =>
    match e.2 with
    | .live s => some (e.1, s)
    | _ => none

def isInitialized (p : Pool) : Bool :=
  p.slots.isSome

/-- How many sessions the pool keeps. -/
def count (p : Pool) : Nat :=
  p.kept.length

def session? (p : Pool) (s : Nat) : Option Session :=
  p.sessions[s]?

def modifySession (p : Pool) (s : Nat) (f : Session → Session) : Pool :=
  { p with sessions := p.sessions.modify s f }

/-- Drops the connection of a session, if it still has one. -/
def dropConnection (p : Pool) (s : Nat) : Pool :=
  match (p.session? s).bind Session.connection with
  | some c => (p.modifySession s fun x => { x with connection := none }).record (.drop c.id)
  | none => p

/-- One more party holds the session. -/
def retain (p : Pool) (s : Nat) : Pool :=
  p.modifySession s fun x => { x with holders := x.holders + 1 }

/-- One party less holds the session. When the last one lets go, the connection is dropped. -/
def letGo (p : Pool) (s : Nat) : Pool :=
  let p := p.modifySession s fun x => { x with holders := x.holders - 1 }
  if (p.session? s).any fun x => x.holders == 0 then p.dropConnection s else p

/-- Passes a hold on a session on to a handle, in place of what the handle held before. Without a
handle the hold is given up. -/
def stow (p : Pool) (s : Nat) : Option String → Pool
  | none => p.letGo s
  | some handle =>
    let before := p.handles.lookup handle
    let p := { p with handles := assign handle s p.handles }
    before.elim p p.letGo

/-- Gives a handle up, and says whether there was one. -/
def release (p : Pool) (handle : String) : Pool × Bool :=
  match p.handles.lookup handle with
  | some s => ({ p with handles := p.handles.filter (·.1 != handle) }.letGo s, true)
  | none => (p, false)

end Pool

end RemoteFirebird
