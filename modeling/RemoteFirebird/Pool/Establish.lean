import RemoteFirebird.Pool.Basic

/-!
# Establishing sessions

A look-up of a key finds the session that is kept for it, or establishes one. That takes several
steps, between which the outside is asked: for the options of the server, for those of the user
mapping, and for a connection. Whatever step fails, the key is vacant again afterwards and the next
look-up starts anew. While a key is pending, further look-ups of it are refused.

Each function here is one step. An answer that no call waits for changes nothing.
-/

namespace RemoteFirebird.Pool

open Session

/-- How far a step has brought the call that it belongs to. An outcome that is a session comes with
a hold on it, which the caller passes on or gives up. -/
inductive Progress
  | waiting
  | finished (outcome : Except Fault Nat)

/-- Takes the mark of an establishment off its key. -/
def vacate (p : Pool) : Option Key → Pool
  | some key => p.setSlot key .vacant
  | none => p

/-- Asks for a connection, if the options say where it leads. -/
def connect (p : Pool) (owner : Option Key) (server : Options.Server)
    (user : Options.UserMapping) : Pool × Progress :=
  match databasePath server with
  | .error fault => (p.vacate owner, .finished (.error (.options fault)))
  | .ok path =>
    let login : Login := ⟨path, user.username, user.password, p.encoding⟩
    let id := p.attempts + 1
    let p := (p.log (.databasePath path)).log (.connecting login)
    ({ p with attempts := id, calls := .connecting owner id login :: p.calls }.record
      (.connect id login), .waiting)

/-- Makes the pool ready for its first use. -/
def prepare (p : Pool) : Pool :=
  match p.slots with
  | some _ => p
  | none => { p.log .initializingPool with slots := some [] }

/-- Looks a key up. -/
def lookup (p : Pool) (key : Key) (server : String) : Pool × Progress :=
  let p := p.prepare
  match p.slot key with
  | .pending => (p, .finished (.error (.inProgress server)))
  | .live s => (p.retain s, .finished (.ok s))
  | .vacant =>
    let p := (p.setSlot key .pending).log (.establishing server key)
    ({ p with calls := .askingServer key server :: p.calls }.record (.serverOptions server),
      .waiting)

/-- Establishes a session that the pool does not keep. -/
def establish (p : Pool) (server : Options.Server) (user : Options.UserMapping) :
    Pool × Progress :=
  p.connect none server user

/-- Takes in the options of the server. -/
def answerServer (p : Pool) (answer : Except Fault Options.Server) : Pool × Progress :=
  match p.calls with
  | .askingServer key server :: calls =>
    match answer with
    | .error fault => ({ p with calls }.setSlot key .vacant, .finished (.error fault))
    | .ok options =>
      ({ p with calls := .askingUser key server options :: calls }.record (.userOptions server),
        .waiting)
  | _ => (p, .waiting)

/-- Takes in the options of the user mapping. -/
def answerUser (p : Pool) (answer : Except Fault Options.UserMapping) : Pool × Progress :=
  match p.calls with
  | .askingUser key _ options :: calls =>
    match answer with
    | .error fault => ({ p with calls }.setSlot key .vacant, .finished (.error fault))
    | .ok user => { p with calls }.connect (some key) options user
  | _ => (p, .waiting)

/-- Takes in the connection, or the reason why there is none. -/
def answerConnect (p : Pool) (answer : Except String Condition) : Pool × Progress :=
  match p.calls with
  | .connecting owner id login :: calls =>
    match answer with
    | .error message =>
      ({ p with calls }.vacate owner, .finished (.error (.notEstablished login.path message)))
    | .ok condition => ({ p with calls := .opened owner login ⟨id, condition⟩ :: calls }, .waiting)
  | _ => (p, .waiting)

/-- Adds a session, and keeps it for its owner. -/
def addSession (p : Pool) (owner : Option Key) (session : Session) : Pool × Nat :=
  let s := p.sessions.length
  let p := { p with sessions := p.sessions ++ [session] }
  match owner with
  | some key => ((p.setSlot key (.live s)).retain s, s)
  | none => (p, s)

/-- Sets a fresh connection up, or drops it if it is not ready. -/
def settle (p : Pool) : Pool × Progress :=
  match p.calls with
  | .opened owner login c :: calls =>
    let p := { p with calls }.record (.isReady c.id)
    if c.condition.ready then
      let p := (p.record (.setAutocommit c.id true)).record (.setMessageLevel c.id .ofSessions)
      let (p, s) := (p.log (.connected login.path)).addSession owner (.fresh login.path c)
      (p, .finished (.ok s))
    else
      let p := (p.record (.errorMessage c.id)).record (.drop c.id)
      (p.vacate owner, .finished (.error (.notEstablished login.path c.condition.message)))
  | _ => (p, .waiting)

end RemoteFirebird.Pool
