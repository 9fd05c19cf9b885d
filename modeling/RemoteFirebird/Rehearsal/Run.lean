import RemoteFirebird.Pool.Closing
import RemoteFirebird.Pool.Establish
import RemoteFirebird.Rehearsal.Step
import RemoteFirebird.Session.Encoding

/-!
# Rehearsals

A rehearsal takes the steps of a script against a pool. Option lists are handed over as the script
gives them, and requests for connections are answered as planned, the oldest plan first.
-/

namespace RemoteFirebird.Rehearsal

open Session Pool

structure State where
  pool : Pool
  plans : List Plan := []

/-- The start of a rehearsal with a local database of the given encoding. -/
def State.start (encoding : String) : State where
  pool := { encoding := clientEncoding encoding }

namespace State

def sight? (st : State) (s : Nat) : Option Sight :=
  (st.pool.session? s).map fun x => ⟨s + 1, x.toSnapshot⟩

/-- The typed view of a source, with what reading it reports. -/
def read {α : Type} [Options.View α] (st : State) (source : Options.Source α) :
    State × Except Fault α :=
  ({ st with pool := st.pool.logAll (Log.ofSource source) }, source.read.mapError .options)

/-- Ends a step with the outcome of its call. The session is kept under the handle that the step
names, if it names one. -/
def finish (st : State) (progress : Progress) (keep : Option String)
    (onServer onUser onConnect : Option (List Reply)) : State × Reply :=
  match progress with
  | .finished (.ok s) =>
    let st := { st with pool := st.pool.stow s keep }
    match st.sight? s with
    | some sight => (st, .session (.ok sight) onServer onUser onConnect)
    | none => (st, .misplaced)
  | .finished (.error fault) => (st, .session (.error fault) onServer onUser onConnect)
  | .waiting => (st, .misplaced)

/-- Answers a request for a connection as planned. -/
def dial (st : State) : State × Progress :=
  let answer : Except String Condition :=
    match st.plans with
    | .refuse message :: _ => .error message
    | .notReady message :: _ => .ok ⟨false, message⟩
    | [] => .ok ⟨true, ""⟩
  match st.pool.answerConnect answer with
  | (pool, .waiting) =>
    let (pool, progress) := pool.settle
    ({ pool, plans := st.plans.tail }, progress)
  | (pool, progress) => ({ pool, plans := st.plans.tail }, progress)

def lastLogin (st : State) : Option Login :=
  st.pool.history.findSome? fun e =>
    e.occurrences.findSome? fun
      | .connect _ login => some login
      | _ => none

def stats (st : State) : Stats where
  attempts := st.pool.attempts
  dropped :=
    (st.pool.history.flatMap Entry.occurrences).countP fun
      | .drop _ => true
      | _ => false
  encoding := st.pool.encoding
  lastLogin := st.lastLogin

end State

mutual

/-- Takes one step. -/
def take (st : State) : Step → State × Reply
  | .get key name server user keep onServer onUser onConnect =>
    match st.pool.lookup key name with
    | (pool, .waiting) =>
      let (st, atServer) := takeFromInside { st with pool } onServer
      let (st, answer) := st.read (.pairs server)
      match st.pool.answerServer answer with
      | (pool, .waiting) =>
        let (st, atUser) := takeFromInside { st with pool } onUser
        let (st, answer) := st.read (.pairs user)
        match st.pool.answerUser answer with
        | (pool, .waiting) =>
          let (st, atConnect) := takeFromInside { st with pool } onConnect
          let (st, progress) := st.dial
          st.finish progress keep atServer atUser atConnect
        | (pool, progress) => { st with pool }.finish progress keep atServer atUser none
      | (pool, progress) => { st with pool }.finish progress keep atServer none none
    | (pool, progress) => { st with pool }.finish progress keep none none none
  | .establish server user keep onConnect =>
    let (st, server) := st.read server
    let (st, user) := st.read user
    match server, user with
    | .error fault, _ => (st, .session (.error fault) none none none)
    | _, .error fault => (st, .session (.error fault) none none none)
    | .ok server, .ok user =>
      match st.pool.establish server user with
      | (pool, .waiting) =>
        let (st, atConnect) := takeFromInside { st with pool } onConnect
        let (st, progress) := st.dial
        st.finish progress keep none none atConnect
      | (pool, progress) => { st with pool }.finish progress keep none none none
  | .borrow handle body =>
    match st.pool.beginBorrow handle with
    | none => (st, .noHandle)
    | some (.error fault) => (st, .refused fault)
    | some (.ok pool) =>
      let (st, replies) := takeAll { st with pool } body
      ({ st with pool := st.pool.endBorrow }, .borrowed replies)
  | .use u =>
    match st.pool.use u with
    | none => (st, .misplaced)
    | some (pool, condition) =>
      ({ st with pool },
        match u with
        | .isReady => .flag condition.ready
        | .errorMessage => .text condition.message
        | .setAutocommit _ => .done
        | .setMessageLevel _ => .done)
  | .look handle =>
    match (st.pool.handles.lookup handle).bind st.sight? with
    | some sight => (st, .session (.ok sight) none none none)
    | none => (st, .noHandle)
  | .release handle =>
    let (pool, existed) := st.pool.release handle
    ({ st with pool }, .flag existed)
  | .plan plan => ({ st with plans := st.plans ++ [plan] }, .done)
  | .count => (st, .number st.pool.count)
  | .isInitialized => (st, .flag st.pool.isInitialized)
  | .closeAll =>
    let (pool, n) := st.pool.closeAll
    ({ st with pool }, .number n)
  | .stats => (st, .stats st.stats)

/-- Takes steps one after the other. -/
def takeAll (st : State) : List Step → State × List Reply
  | [] => (st, [])
  | step :: rest =>
    let (st, reply) := take st step
    let (st, replies) := takeAll st rest
    (st, reply :: replies)

/-- Takes the steps from inside a call, if there are any to take. -/
def takeFromInside (st : State) : Option (List Step) → State × Option (List Reply)
  | none => (st, none)
  | some steps =>
    let (st, replies) := takeAll st steps
    (st, some replies)

end

/-- Takes the steps of a script, each with what happens meanwhile, in order. -/
def run (st : State) : List Step → List (Reply × List Entry)
  | [] => []
  | step :: rest =>
    let (st', reply) := take st step
    let added := st'.pool.history.length - st.pool.history.length
    (reply, (st'.pool.history.take added).reverse) :: run st' rest

end RemoteFirebird.Rehearsal
