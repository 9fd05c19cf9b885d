import RemoteFirebird.Pool.Borrow
import RemoteFirebird.Pool.Closing
import RemoteFirebird.Pool.Establish

/-!
# Runs of a pool

A run is a list of moves: what clients do, and what the outside answers. An answer goes to the
latest call that waits, and clients may move at any time, so the runs cover calls that are made
from inside other calls, to any depth and in any order. Nothing is assumed about the answers.
-/

namespace RemoteFirebird.Pool

open Session

/-- A move of a client or of the outside. A move that may end a call names the handle under which
the client keeps the session, if it keeps it. -/
inductive Move
  | lookup (key : Key) (server : String) (keep : Option String)
  | establish (server : Options.Server) (user : Options.UserMapping)
  | answerServer (answer : Except Fault Options.Server)
  | answerUser (answer : Except Fault Options.UserMapping)
  | answerConnect (answer : Except String Condition)
  | settle (keep : Option String)
  | beginBorrow (handle : String)
  | endBorrow
  | use (u : Use)
  | release (handle : String)
  | closeAll
  /-- Counts the sessions that the pool keeps. -/
  | count
  /-- Logs what is reported from outside the pool, such as the check of options. -/
  | report (event : Log.Event)

/-- The handle for the session with which a move ends a call. -/
def Move.keep : Move → Option String
  | lookup _ _ keep => keep
  | settle keep => keep
  | _ => none

/-- What a move does, up to the point where its call returns. -/
def act (p : Pool) : Move → Pool × Progress
  | .lookup key server _ => p.lookup key server
  | .establish server user => p.establish server user
  | .answerServer answer => p.answerServer answer
  | .answerUser answer => p.answerUser answer
  | .answerConnect answer => p.answerConnect answer
  | .settle _ => p.settle
  | .beginBorrow handle =>
    match p.beginBorrow handle with
    | some (.ok q) => (q, .waiting)
    | _ => (p, .waiting)
  | .endBorrow => (p.endBorrow, .waiting)
  | .use u => (((p.use u).map Prod.fst).getD p, .waiting)
  | .release handle => ((p.release handle).1, .waiting)
  | .closeAll => (p.closeAll.1, .waiting)
  | .count => (p, .waiting)
  | .report event => (p.log event, .waiting)

/-- The session of a call that is at its end. -/
def Progress.session? : Progress → Option Nat
  | finished (.ok s) => some s
  | _ => none

/-- The session with which a move ends a call, if it ends one and there is one. -/
def result (p : Pool) (m : Move) : Option Nat :=
  (p.act m).2.session?

/-- The pool after a move. The client has taken over the session, if there is one. -/
def step (p : Pool) (m : Move) : Pool :=
  match p.result m with
  | some s => (p.act m).1.stow s m.keep
  | none => (p.act m).1

def after (p : Pool) (ms : List Move) : Pool :=
  ms.foldl step p

/-- The pool that a move of a run meets, by the position of the move. -/
def before (p : Pool) (ms : List Move) (n : Nat) : Pool :=
  p.after (ms.take n)

/-- A pool that has not been used. -/
def start (encoding : String) : Pool where
  encoding

@[simp] theorem after_append (p : Pool) (ms ns : List Move) :
    p.after (ms ++ ns) = (p.after ms).after ns := by
  simp [after]

@[simp] theorem after_singleton (p : Pool) (m : Move) : p.after [m] = p.step m := rfl

theorem before_succ {p : Pool} {ms : List Move} {n : Nat} {m : Move} (h : ms[n]? = some m) :
    p.before ms (n + 1) = (p.before ms n).step m := by
  rw [before, List.take_add_one, h, Option.toList_some, after_append, after_singleton, before]

theorem before_succ_of_none {p : Pool} {ms : List Move} {n : Nat} (h : ms[n]? = none) :
    p.before ms (n + 1) = p.before ms n := by
  rw [before, List.take_add_one, h, Option.toList_none, List.append_nil, before]

/-- What is gathered from the moves of a run, each together with the pool that it meets. -/
def gather {α : Type} (f : Pool → Move → List α) (p : Pool) : List Move → List α
  | [] => []
  | m :: ms => f p m ++ gather f (p.step m) ms

theorem gather_append {α : Type} (f : Pool → Move → List α) (p : Pool) (ms ns : List Move) :
    gather f p (ms ++ ns) = gather f p ms ++ gather f (p.after ms) ns := by
  induction ms generalizing p with
  | nil => rfl
  | cons m ms ih => simp [gather, ih, after]

theorem mem_gather {α : Type} {f : Pool → Move → List α} {p : Pool} {ms : List Move} {a : α} :
    a ∈ gather f p ms ↔ ∃ n m, ms[n]? = some m ∧ a ∈ f (p.before ms n) m := by
  induction ms generalizing p with
  | nil => simp [gather]
  | cons m ms ih =>
    rw [gather, List.mem_append, ih]
    constructor
    · intro ha
      rcases ha with ha | ⟨n, m', hm, ha⟩
      · exact ⟨0, m, rfl, ha⟩
      · exact ⟨n + 1, m', hm, ha⟩
    · intro hex
      obtain ⟨n, m', hm, ha⟩ := hex
      cases n with
      | zero =>
        obtain rfl : m = m' := by simpa using hm
        exact .inl ha
      | succ n => exact .inr ⟨n, m', hm, ha⟩

/-- Whatever is gathered from the moves before a position is gathered from the run. -/
theorem gather_take_subset {α : Type} (f : Pool → Move → List α) (p : Pool) (ms : List Move)
    (n : Nat) : gather f p (ms.take n) ⊆ gather f p ms := by
  intro a ha
  rw [← List.take_append_drop n ms, gather_append]
  exact List.mem_append_left _ ha

/-- The connections that the outside opens with a move, by the numbers of their attempts. -/
def opens (p : Pool) (m : Move) : List Nat :=
  match m, p.calls with
  | .answerConnect (.ok _), .connecting _ id _ :: _ => [id]
  | _, _ => []

/-- A session that has been made: on which connection, and for which key if the pool is to keep
it. -/
structure Made where
  connection : Nat
  session : Nat
  owner : Option Key
  deriving DecidableEq

/-- The sessions that a move makes. -/
def makes (p : Pool) (m : Move) : List Made :=
  match m, p.calls with
  | .settle _, .opened owner _ c :: _ =>
    if c.condition.ready then [⟨c.id, p.sessions.length, owner⟩] else []
  | _, _ => []

/-- The sessions that a move takes from the pool to close them. -/
def takes (p : Pool) (m : Move) : List Nat :=
  match m with
  | .closeAll => p.kept.map Prod.snd
  | _ => []

/-- What a run has done so far with connections and sessions. -/
structure Ledger where
  opened : List Nat := []
  made : List Made := []
  taken : List Nat := []

def Ledger.enter (l : Ledger) (p : Pool) (m : Move) : Ledger where
  opened := l.opened ++ p.opens m
  made := l.made ++ p.makes m
  taken := l.taken ++ p.takes m

/-- The ledger of a run. -/
def ledger (p : Pool) (ms : List Move) : Ledger where
  opened := gather opens p ms
  made := gather makes p ms
  taken := gather takes p ms

theorem ledger_snoc (p : Pool) (ms : List Move) (m : Move) :
    p.ledger (ms ++ [m]) = (p.ledger ms).enter (p.after ms) m := by
  simp [ledger, Ledger.enter, gather_append, gather]

/-- The connections that are dropped by what happens. -/
def drops (os : List Occurrence) : List Nat :=
  os.filterMap fun
    | .drop id => some id
    | _ => none

/-- The connections that have been dropped, the latest first. -/
def dropped (p : Pool) : List Nat :=
  drops (p.history.flatMap Entry.occurrences)

def Occurrence.asks : Occurrence → Bool
  | serverOptions _ => true
  | userOptions _ => true
  | connect .. => true
  | _ => false

/-- What the outside has been asked for: options and connections, the latest first. -/
def asked (p : Pool) : List Occurrence :=
  (p.history.flatMap Entry.occurrences).filter Occurrence.asks

/-- The look-up of `key` that begins with move `i` returns the session `s` with move `j`. Until
then its call is on the stack, above those that were there before. -/
structure Returned (p : Pool) (ms : List Move) (i j : Nat) (key : Key) (s : Nat) : Prop where
  begins : ∃ server keep, ms[i]? = some (.lookup key server keep)
  le : i ≤ j
  waits : ∀ n, i < n → n ≤ j → (p.before ms i).calls.length < (p.before ms n).calls.length
  returns : ∃ m, ms[j]? = some m ∧ (p.before ms j).result m = some s
  ends : (p.before ms (j + 1)).calls.length ≤ (p.before ms i).calls.length

/-- A run closes all sessions after move `j` and before move `i`. -/
def ClosedBetween (ms : List Move) (j i : Nat) : Prop :=
  ∃ n, j < n ∧ n < i ∧ ms[n]? = some .closeAll

end RemoteFirebird.Pool
