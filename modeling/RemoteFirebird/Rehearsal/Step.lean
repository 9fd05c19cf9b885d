import RemoteFirebird.Options.View
import RemoteFirebird.Pool.Borrow

/-!
# Scripts

A script is a list of steps that a client takes. A step that waits for the outside may hold further
steps, which are taken from inside: before the options of a server or a user mapping are handed
over, before a connection is opened, or while a connection is borrowed.
-/

namespace RemoteFirebird.Rehearsal

open Session

/-- How the remote side answers the request for a connection. -/
inductive Plan
  | refuse (message : String)
  | notReady (message : String)
  deriving DecidableEq

inductive Step
  /-- Looks up the session of a key. -/
  | get (key : Key) (name : String) (server user : List Options.Pair) (keep : Option String)
      (onServer onUser onConnect : Option (List Step))
  /-- Establishes a session outside the pool. -/
  | establish (server : Options.Source Options.Server) (user : Options.Source Options.UserMapping)
      (keep : Option String) (onConnect : Option (List Step))
  | borrow (handle : String) (body : List Step)
  | use (u : Pool.Use)
  | look (handle : String)
  | release (handle : String)
  /-- Plans the answer to a later request for a connection. Without a plan a request succeeds. -/
  | plan (plan : Plan)
  | count
  | isInitialized
  | closeAll
  | stats

/-- A session as a client sees it. Sessions are numbered in the order in which they come up. -/
structure Sight where
  number : Nat
  snapshot : Snapshot
  deriving DecidableEq

/-- What has been asked of the remote side so far. -/
structure Stats where
  attempts : Nat
  dropped : Nat
  encoding : String
  lastLogin : Option Login
  deriving DecidableEq

/-- The text of what opens the sessions, for diagnostics. -/
def Stats.describe (s : Stats) : String :=
  Text.openRecord "SessionEstablisher" [("client_encoding", Text.quoted s.encoding)]

/-- What a step answers. The answers of the steps that were taken from inside it are part of its
own; where nothing was asked of the outside there are none. -/
inductive Reply
  | session (outcome : Except Fault Sight) (onServer onUser onConnect : Option (List Reply))
  | borrowed (replies : List Reply)
  | refused (fault : Fault)
  | noHandle
  | done
  | flag (value : Bool)
  | text (value : String)
  | number (value : Nat)
  | stats (value : Stats)
  /-- The step makes no sense where it stands. -/
  | misplaced

end RemoteFirebird.Rehearsal
