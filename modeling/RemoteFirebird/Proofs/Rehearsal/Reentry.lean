import Mathlib.Tactic.IntervalCases
import RemoteFirebird.Proofs.Pool.Reentry
import RemoteFirebird.Proofs.Rehearsal.Balance

/-!
# Look-ups from inside, in runs and in scripts

A look-up is refused just if it is made from inside of the establishment of a session for its key.
In a run it can fail in that way for one more reason, which is that its own provider does. The steps
of a script hand over option lists, which fail in other ways, so there the refusals are exact.
-/

namespace RemoteFirebird.Rehearsal

open Session Pool

variable {p : Pool} {st : State} {progress : Progress}

/-- A call does not end with the fault of a refused look-up. -/
def Unrefused (progress : Progress) : Prop :=
  ∀ name, progress ≠ .finished (.error (.inProgress name))

/-- A step answers that its look-up has been refused. -/
def Refused (reply : Reply) : Prop :=
  ∃ name onServer onUser onConnect,
    reply = .session (.error (.inProgress name)) onServer onUser onConnect

/-! ### Faults of a call -/

private theorem read_ne_inProgress {α : Type} [Options.View α] (st : State)
    (source : Options.Source α)
    (name : String) : (st.read source).2 ≠ .error (.inProgress name) := by
  simp only [State.read]
  cases source.read <;> simp [Except.mapError]

private theorem unrefused_connect (p : Pool) (owner : Option Key) (server : Options.Server)
    (user : Options.UserMapping) : Unrefused (p.connect owner server user).2 := by
  intro name
  simp only [connect]
  split <;> simp

private theorem unrefused_answerServer {answer : Except Fault Options.Server}
    (h : ∀ name, answer ≠ .error (.inProgress name)) : Unrefused (p.answerServer answer).2 := by
  intro name
  simp only [answerServer]
  split
  next =>
    cases answer with
    | error fault => simpa using h name
    | ok options => simp
  next => simp

private theorem unrefused_answerUser {answer : Except Fault Options.UserMapping}
    (h : ∀ name, answer ≠ .error (.inProgress name)) : Unrefused (p.answerUser answer).2 := by
  intro name
  simp only [answerUser]
  split
  next =>
    cases answer with
    | error fault => simpa using h name
    | ok user => exact unrefused_connect _ _ _ _ name
  next => simp

private theorem unrefused_answerConnect (answer : Except String Condition) :
    Unrefused (p.answerConnect answer).2 := by
  intro name
  simp only [answerConnect]
  split
  next => cases answer <;> simp
  next => simp

private theorem unrefused_settle (p : Pool) : Unrefused p.settle.2 := by
  intro name
  simp only [settle]
  split
  next => split <;> simp
  next => simp

private theorem unrefused_dial (st : State) : Unrefused st.dial.2 := by
  obtain ⟨answer, hdial⟩ := exists_dial_eq st
  rw [hdial]
  have hanswer := unrefused_answerConnect (p := st.pool) answer
  generalize st.pool.answerConnect answer = r at hanswer
  obtain ⟨pool, progress⟩ := r
  cases progress with
  | waiting => exact unrefused_settle pool
  | finished outcome => exact hanswer

private theorem not_refused_finish (h : Unrefused progress) (keep : Option String)
    (onServer onUser onConnect : Option (List Reply)) :
    ¬Refused (st.finish progress keep onServer onUser onConnect).2 := by
  intro hrefused
  obtain ⟨name, atServer, atUser, atConnect, hreply⟩ := hrefused
  cases progress with
  | waiting => simp [State.finish] at hreply
  | finished outcome =>
    cases outcome with
    | error fault =>
      simp only [State.finish, Reply.session.injEq, Except.error.injEq] at hreply
      exact h name (congrArg (Progress.finished ∘ Except.error) hreply.1)
    | ok s =>
      simp only [State.finish] at hreply
      split at hreply <;> simp at hreply

/-! ### Steps -/

section

variable {key : Key} {name : String} {server user : List Options.Pair} {keep : Option String}
  {onServer onUser onConnect : Option (List Step)}

private theorem take_get_of_pending (hs : st.pool.slot key = .pending) :
    take st (.get key name server user keep onServer onUser onConnect) =
      (st, .session (.error (.inProgress name)) none none none) := by
  simp only [take, lookup_of_pending name hs]
  rfl

private theorem not_refused_take_get (hs : st.pool.slot key ≠ .pending) :
    ¬Refused (take st (.get key name server user keep onServer onUser onConnect)).2 := by
  have hlookup : Unrefused (st.pool.lookup key name).2 := by
    intro name'
    cases hslot : st.pool.slot key with
    | pending => exact (hs hslot).elim
    | live s =>
      have hact : st.pool.lookup key name = _ := act_lookup_of_live name none hslot
      simp [hact]
    | vacant =>
      obtain ⟨history, hact⟩ := act_lookup_of_vacant name none hslot
      have hact : st.pool.lookup key name = _ := hact
      simp [hact]
  simp only [take]
  generalize st.pool.lookup key name = r at hlookup
  obtain ⟨pool, progress⟩ := r
  cases progress with
  | finished outcome => exact not_refused_finish hlookup _ _ _ _
  | waiting =>
    dsimp only
    generalize takeFromInside { st with pool } onServer = inside
    obtain ⟨st₁, atServer⟩ := inside
    have hread := read_ne_inProgress st₁ (.pairs server : Options.Source Options.Server)
    generalize st₁.read (.pairs server : Options.Source Options.Server) = options at hread
    obtain ⟨st₁, answer⟩ := options
    have hserver := unrefused_answerServer (p := st₁.pool) hread
    dsimp only at hserver ⊢
    generalize st₁.pool.answerServer answer = r at hserver
    obtain ⟨pool, progress⟩ := r
    cases progress with
    | finished outcome => exact not_refused_finish hserver _ _ _ _
    | waiting =>
      dsimp only
      generalize takeFromInside { st₁ with pool } onUser = inside
      obtain ⟨st₂, atUser⟩ := inside
      have hread := read_ne_inProgress st₂ (.pairs user : Options.Source Options.UserMapping)
      generalize st₂.read (.pairs user : Options.Source Options.UserMapping) = options at hread
      obtain ⟨st₂, answer⟩ := options
      have huser := unrefused_answerUser (p := st₂.pool) hread
      dsimp only at huser ⊢
      generalize st₂.pool.answerUser answer = r at huser
      obtain ⟨pool, progress⟩ := r
      cases progress with
      | finished outcome => exact not_refused_finish huser _ _ _ _
      | waiting => exact not_refused_finish (unrefused_dial _) _ _ _ _

end

private theorem pending_take_iff {encoding : String} {ms : List Move}
    (hst : (Pool.start encoding).after ms = st.pool) (step : Step) (key : Key) :
    (take st step).1.pool.slot key = .pending ↔ st.pool.slot key = .pending := by
  obtain ⟨ns, hns⟩ := reaches_take st step
  have hbefore := sound_after encoding ms
  have hafter := sound_after encoding (ms ++ ns)
  rw [after_append, hst, hns] at hafter
  rw [hst] at hbefore
  rw [hafter.pending_iff, hbefore.pending_iff, calls_take]

/-- A look-up is refused just if it is made from inside of the establishment of a session for its
key, at whatever depth, and a refused look-up does nothing at all. When it has returned, its key is
marked only if it was made from inside, so no mark stays behind. -/
theorem refused_iff_from_inside (encoding : String) :
    -- in every run, and for no other reason unless the provider of the look-up fails in this way
    (∀ ms i key server keep, ms[i]? = some (.lookup key server keep) →
      let p := (Pool.start encoding).before ms
      let inside := ∃ n, Establishing (Pool.start encoding) ms n i key
      (((p i).act (.lookup key server keep)).2 = .finished (.error (.inProgress server)) ↔ inside) ∧
      (inside → p (i + 1) = p i) ∧
      ∀ j outcome, Ended (Pool.start encoding) ms i j key outcome →
        (∀ name, outcome = .error (.inProgress name) ↔ (inside ∧ name = server) ∨
          ms[j]? = some (.answerServer (.error (.inProgress name))) ∨
          ms[j]? = some (.answerUser (.error (.inProgress name)))) ∧
        ((p (j + 1)).slot key = .pending ↔ inside)) ∧
    -- in every script, whatever is done from inside of the look-up
    ∀ ms plans key name server user keep onServer onUser onConnect,
      let st : State := ⟨(Pool.start encoding).after ms, plans⟩
      let result := take st (.get key name server user keep onServer onUser onConnect)
      let inside := ∃ n, Establishing (Pool.start encoding) ms n ms.length key
      (Refused result.2 ↔ inside) ∧
      (inside → result = (st, .session (.error (.inProgress name)) none none none)) ∧
      ∀ k, result.1.pool.slot k = .pending ↔ st.pool.slot k = .pending := by
  refine ⟨?_, ?_⟩
  · intro ms i key server keep hbegin p inside
    refine ⟨refused_iff.trans pending_iff_establishing, ?_, ?_⟩
    · intro hinside
      obtain ⟨n, hinside⟩ := hinside
      exact before_succ_of_establishing hbegin hinside
    · intro j outcome hended
      exact ⟨fun name => hended.inProgress_iff_inside hbegin, hended.pending_iff⟩
  · intro ms plans key name server user keep onServer onUser onConnect st result inside
    have hmark : inside ↔ st.pool.slot key = .pending := by
      have hiff : ((Pool.start encoding).before ms ms.length).slot key = .pending ↔ inside :=
        pending_iff_establishing
      rw [before, List.take_length] at hiff
      exact hiff.symm
    have hresult : inside → result = (st, .session (.error (.inProgress name)) none none none) :=
      fun hinside => take_get_of_pending (hmark.mp hinside)
    refine ⟨⟨fun hrefused => ?_, fun hinside => ?_⟩, hresult, fun k => pending_take_iff rfl _ k⟩
    · by_contra hout
      exact not_refused_take_get (fun hs => hout (hmark.mpr hs)) hrefused
    · rw [hresult hinside]
      exact ⟨name, none, none, none, rfl⟩

/-- A run in which a key is looked up again while a session for it is being established: during
the look-up of another key, and during a borrow. Then the first look-up fails. -/
def reentrantRun : List Move :=
  [.lookup ⟨1, 1⟩ "outer" none,
    .lookup ⟨1, 2⟩ "other" (some "other"), .answerServer (.ok { database := some "employee" }),
    .lookup ⟨1, 1⟩ "again" none,
    .answerUser (.ok {}), .answerConnect (.ok ⟨true, ""⟩), .settle (some "other"),
    .beginBorrow "other", .lookup ⟨1, 1⟩ "again" none, .endBorrow,
    .answerServer (.error (.options (.missing "database"))),
    .lookup ⟨1, 1⟩ "later" none]

theorem refused_iff_from_inside_reentrantRun :
    let p := (Pool.start "UTF8").before reentrantRun
    ((p 3).act (.lookup ⟨1, 1⟩ "again" none)).2 = .finished (.error (.inProgress "again")) ∧
      p 9 = p 8 ∧
      Ended (Pool.start "UTF8") reentrantRun 0 10 ⟨1, 1⟩
        (.error (.options (.missing "database"))) ∧
      (p 11).slot ⟨1, 1⟩ ≠ .pending := by
  intro p
  have underWay : ∀ n, 0 < n → n ≤ 10 → UnderWay (Pool.start "UTF8") reentrantRun 0 n := by
    intro n hn hle
    refine ⟨hn, fun k hk hkn => ?_⟩
    have hk' : k ≤ 10 := Nat.le_trans hkn hle
    clear hn hle hkn
    interval_cases k <;> decide
  have inside : ∀ n, 0 < n → n ≤ 10 →
      Establishing (Pool.start "UTF8") reentrantRun 0 n ⟨1, 1⟩ :=
    fun n hn hle => ⟨⟨_, _, rfl⟩, underWay n hn hle⟩
  have ended : Ended (Pool.start "UTF8") reentrantRun 0 10 ⟨1, 1⟩
      (.error (.options (.missing "database"))) :=
    ⟨⟨_, _, rfl⟩, by decide, fun hlt => underWay 10 hlt (Nat.le_refl 10), ⟨_, rfl, rfl⟩, by decide⟩
  have outer := (refused_iff_from_inside "UTF8").1 reentrantRun 0 ⟨1, 1⟩ "outer" none rfl
  have again := (refused_iff_from_inside "UTF8").1 reentrantRun 3 ⟨1, 1⟩ "again" none rfl
  have borrowed := (refused_iff_from_inside "UTF8").1 reentrantRun 8 ⟨1, 1⟩ "again" none rfl
  refine ⟨again.1.mpr ⟨0, inside 3 (by decide) (by decide)⟩,
    borrowed.2.1 ⟨0, inside 8 (by decide) (by decide)⟩, ended, fun hpending => ?_⟩
  obtain ⟨n, -, hway⟩ := (outer.2.2 10 _ ended).2.mp hpending
  exact Nat.not_lt_zero n hway.lt

/-- A run in which a provider looks its own key up again, and hands on that this is refused. -/
def handedOnRun : List Move :=
  [.lookup ⟨1, 1⟩ "outer" none, .lookup ⟨1, 1⟩ "again" none,
    .answerServer (.error (.inProgress "again"))]

/-- A look-up from outside of every call fails like a refused one if its provider does, so what a
look-up fails with does not tell where it is made. -/
theorem inProgress_from_outside :
    let p := Pool.start "UTF8"
    ((p.before handedOnRun 1).act (.lookup ⟨1, 1⟩ "again" none)).2 =
        .finished (.error (.inProgress "again")) ∧
      Ended p handedOnRun 0 2 ⟨1, 1⟩ (.error (.inProgress "again")) ∧
      (p.before handedOnRun 0).calls = [] ∧
      ¬∀ ms i j key outcome, Ended p ms i j key outcome →
        ((∃ name, outcome = .error (.inProgress name)) ↔ ∃ n, Establishing p ms n i key) := by
  intro p
  have underWay : UnderWay p handedOnRun 0 2 := by
    refine ⟨by decide, fun k hk hle => ?_⟩
    interval_cases k <;> decide
  have ended : Ended p handedOnRun 0 2 ⟨1, 1⟩ (.error (.inProgress "again")) :=
    ⟨⟨_, _, rfl⟩, by decide, fun _ => underWay, ⟨_, rfl, rfl⟩, by decide⟩
  refine ⟨rfl, ended, rfl, ?_⟩
  intro claimed
  obtain ⟨n, hinside⟩ := (claimed handedOnRun 0 2 ⟨1, 1⟩ _ ended).mp ⟨"again", rfl⟩
  exact Nat.not_lt_zero n hinside.2.lt

end RemoteFirebird.Rehearsal
