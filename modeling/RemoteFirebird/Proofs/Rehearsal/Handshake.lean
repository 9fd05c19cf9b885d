import Mathlib.Tactic.IntervalCases
import RemoteFirebird.Proofs.Pool.Handshake
import RemoteFirebird.Proofs.Rehearsal.Runs

/-!
# Handshakes in rehearsals

A rehearsal begins with a pool that has the remote name of the local encoding, and its steps make a
run of that pool. So the look-ups, connections and sessions of all scripts are as in all runs, and
every connection is asked for in that encoding.
-/

namespace RemoteFirebird.Rehearsal

open Session Pool

/-- What holds of look-ups that find no session, of connections and of sessions in every rehearsal
and every run of its pool, whatever is made from inside of what. -/
theorem handshake_in_order (encoding : String) :
    -- the steps of a script make a run
    (∀ steps, ∃ ms, (takeAll (.start encoding) steps).1.pool =
      (State.start encoding).pool.after ms) ∧
    ∀ ms,
      let charset := clientEncoding encoding
      let p := (State.start encoding).pool
      -- a look-up goes through the stages in their order
      (∀ i n key, Establishing p ms i n key → ∃ server c,
        (∃ keep, ms[i]? = some (.lookup key server keep)) ∧
        Stage charset server key ((p.answers ms i n).map Prod.snd) (p.ownDeeds ms i n) c) ∧
      -- and ends with the first failure, or with a session on a connection that has been set up
      (∀ i j key outcome, Ended p ms i j key outcome → (p.before ms i).slot key = .vacant →
        ∃ server m, (∃ keep, ms[i]? = some (.lookup key server keep)) ∧ ms[j]? = some m ∧
          Course charset server ((p.before ms j).act m).1
            ((p.answers ms i (j + 1)).map Prod.snd) (p.ownDeeds ms i (j + 1)) outcome) ∧
      -- nothing reaches a connection before it has been set up, or ever if it was not ready
      (∀ id, Recorded id ((p.after ms).about id)) ∧
      -- every session is on a connection that has been set up, and is as it was set up
      ∀ s x, (p.after ms).session? s = some x → ∃ id owner login,
        ⟨id, s, owner⟩ ∈ (p.ledger ms).made ∧ (p.after ms).Furnished id login x ∧
          login.encoding = charset := by
  refine ⟨exists_run_of_rehearsal encoding, fun ms => ?_⟩
  intro charset p
  refine ⟨fun i n key h => ?_, fun i j key outcome h hs => h.course hs,
    (chronicled_after charset ms).recorded, fun s x hx => exists_furnished hx⟩
  obtain ⟨server, keep, hbegin⟩ := h.1
  obtain ⟨fs, c, -, hstage⟩ := Establishing.stage h ⟨keep, hbegin⟩
  exact ⟨server, c, ⟨keep, hbegin⟩, hstage⟩

/-- A run in which a look-up gets a session, and one that is made from inside of it gets a
connection that is not ready. -/
def overlappingRun : List Move :=
  [.lookup ⟨1, 1⟩ "remote" none, .answerServer (.ok { database := some "employee" }),
    .lookup ⟨1, 2⟩ "local" none, .answerServer (.ok { database := some "employee" }),
    .answerUser (.ok {}), .answerConnect (.ok ⟨false, "not yet"⟩), .settle none,
    .answerUser (.ok {}), .answerConnect (.ok ⟨true, ""⟩), .settle none]

theorem handshake_in_order_overlappingRun :
    let p := (State.start "EUC_JP").pool
    clientEncoding "EUC_JP" = "EUJC_0208" ∧ Ended p overlappingRun 0 9 ⟨1, 1⟩ (.ok 0) ∧
      (p.before overlappingRun 0).slot ⟨1, 1⟩ = .vacant ∧
      (∃ server q ns, Course "EUJC_0208" server q ns (p.ownDeeds overlappingRun 0 10) (.ok 0)) ∧
      p.ownDeeds overlappingRun 0 10 = [.serverOptions "remote", .userOptions "remote",
        .connect 2 ⟨"employee", none, none, "EUJC_0208"⟩, .isReady 2, .setAutocommit 2 true,
        .setMessageLevel 2 .debug2] ∧
      Recorded 1 ((p.after overlappingRun).about 1) := by
  intro p
  have returned : Returned p overlappingRun 0 9 ⟨1, 1⟩ 0 :=
    ⟨⟨_, _, rfl⟩, by decide, fun n hi hj => by interval_cases n <;> decide,
      ⟨.settle none, rfl, by decide⟩, by decide⟩
  obtain ⟨-, hruns⟩ := handshake_in_order "EUC_JP"
  obtain ⟨-, hcourse, hrecorded, -⟩ := hruns overlappingRun
  obtain ⟨server, m, -, -, hcourse⟩ := hcourse 0 9 ⟨1, 1⟩ (.ok 0) returned.ended rfl
  exact ⟨rfl, returned.ended, rfl, ⟨server, _, _, hcourse⟩, by decide, hrecorded 1⟩

end RemoteFirebird.Rehearsal
