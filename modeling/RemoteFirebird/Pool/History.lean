import RemoteFirebird.Log
import RemoteFirebird.Session.Basic

/-!
# History of a pool

What a pool asks of the outside, what it does to connections and what it logs, in the order in
which it happens. Closing all sessions goes through them in no particular order, so what happens
meanwhile is kept together as one entry.
-/

namespace RemoteFirebird.Pool

open Session

inductive Occurrence
  /-- The options of the named server are asked for. -/
  | serverOptions (server : String)
  /-- The options of the user mapping at the named server are asked for. -/
  | userOptions (server : String)
  | connect (id : Nat) (login : Login)
  | isReady (id : Nat)
  | errorMessage (id : Nat)
  | setAutocommit (id : Nat) (on : Bool)
  | setMessageLevel (id : Nat) (level : MessageLevel)
  | drop (id : Nat)
  | logged (event : Log.Event)
  deriving DecidableEq

inductive Entry
  | single (occurrence : Occurrence)
  | together (occurrences : List Occurrence)
  deriving DecidableEq

def Entry.occurrences : Entry → List Occurrence
  | single o => [o]
  | together os => os

end RemoteFirebird.Pool
