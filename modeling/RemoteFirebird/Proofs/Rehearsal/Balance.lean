import RemoteFirebird.Proofs.Rehearsal.Runs

/-!
# Steps and the stack of calls

The call that a step of a script makes goes from one stage to the next and is off the stack at the
end, whatever the answers are. The steps inside of it leave the stack as they find it, and so does
every step.
-/

namespace RemoteFirebird

open Session

namespace Pool

variable {p : Pool} {key : Key} {server : String} {calls : List Call}

/-- A call ends, or waits on the stack at a further stage. -/
inductive Onward (stage : Call → Prop) (calls : List Call) : Pool × Progress → Prop
  | waits {q : Pool} {c : Call} (hstage : stage c) (hcalls : q.calls = c :: calls) :
    Onward stage calls (q, .waiting)
  | ends {q : Pool} {outcome : Except Fault Nat} (hcalls : q.calls = calls) :
    Onward stage calls (q, .finished outcome)

private theorem onward_lookup (p : Pool) (key : Key) (server : String) :
    Onward (fun c => ∃ key server, c = .askingServer key server) p.calls (p.lookup key server) := by
  simp only [lookup]
  split
  next => exact .ends (calls_prepare p)
  next => exact .ends (calls_prepare p)
  next =>
    refine .waits ⟨key, server, rfl⟩ ?_
    show _ :: p.prepare.calls = _
    rw [calls_prepare]

private theorem onward_connect (p : Pool) (owner : Option Key) (server : Options.Server)
    (user : Options.UserMapping) :
    Onward (fun c => ∃ owner id login, c = .connecting owner id login) p.calls
      (p.connect owner server user) := by
  simp only [connect]
  split
  next => exact .ends (calls_vacate p owner)
  next => exact .waits ⟨_, _, _, rfl⟩ rfl

private theorem onward_answerServer (answer : Except Fault Options.Server)
    (hcalls : p.calls = .askingServer key server :: calls) :
    Onward (fun c => ∃ key server options, c = .askingUser key server options) calls
      (p.answerServer answer) := by
  simp only [answerServer, hcalls]
  cases answer with
  | error fault => exact .ends rfl
  | ok options => exact .waits ⟨_, _, _, rfl⟩ rfl

private theorem onward_answerUser {options : Options.Server}
    (answer : Except Fault Options.UserMapping)
    (hcalls : p.calls = .askingUser key server options :: calls) :
    Onward (fun c => ∃ owner id login, c = .connecting owner id login) calls
      (p.answerUser answer) := by
  simp only [answerUser, hcalls]
  cases answer with
  | error fault => exact .ends rfl
  | ok user => exact onward_connect { p with calls } (some key) options user

private theorem onward_answerConnect {owner : Option Key} {id : Nat} {login : Login}
    (answer : Except String Condition) (hcalls : p.calls = .connecting owner id login :: calls) :
    Onward (fun c => ∃ owner login connection, c = .opened owner login connection) calls
      (p.answerConnect answer) := by
  simp only [answerConnect, hcalls]
  cases answer with
  | error message => exact .ends (calls_vacate _ owner)
  | ok condition => exact .waits ⟨_, _, _, rfl⟩ rfl

private theorem onward_settle {owner : Option Key} {login : Login} {connection : Connection}
    (hcalls : p.calls = .opened owner login connection :: calls) :
    Onward (fun _ => False) calls p.settle := by
  simp only [settle, hcalls]
  split
  next => exact .ends (calls_addSession _ _ _)
  next => exact .ends (calls_vacate _ owner)

@[simp] theorem calls_logAll (p : Pool) (es : List Log.Event) : (p.logAll es).calls = p.calls := by
  induction es generalizing p with
  | nil => rfl
  | cons e es ih => exact ih (p.log e)

end Pool

namespace Rehearsal

open Pool

variable {st : State} {calls : List Call}

private theorem calls_read {α : Type} [Options.View α] (st : State) (source : Options.Source α) :
    (st.read source).1.pool.calls = st.pool.calls :=
  calls_logAll st.pool _

private theorem calls_finish (st : State) (progress : Progress) (keep : Option String)
    (onServer onUser onConnect : Option (List Reply)) :
    (st.finish progress keep onServer onUser onConnect).1.pool.calls = st.pool.calls := by
  cases progress with
  | waiting => rfl
  | finished outcome =>
    cases outcome with
    | error fault => rfl
    | ok s =>
      simp only [State.finish]
      split <;> exact calls_stow st.pool s keep

private theorem calls_dial (h : ∃ c, (∃ owner id login, c = .connecting owner id login) ∧
    st.pool.calls = c :: calls) : st.dial.1.pool.calls = calls := by
  obtain ⟨c, ⟨owner, id, login, rfl⟩, hcalls⟩ := h
  obtain ⟨answer, hdial⟩ := exists_dial_eq st
  rw [hdial]
  have hanswer := onward_answerConnect answer hcalls
  generalize st.pool.answerConnect answer = r at hanswer
  cases hanswer with
  | ends hcalls => exact hcalls
  | waits hstage hopened =>
    obtain ⟨owner, login, connection, rfl⟩ := hstage
    have hsettle := onward_settle hopened
    dsimp only
    generalize Pool.settle _ = r at hsettle
    cases hsettle with
    | ends hcalls => exact hcalls
    | waits hstage => exact hstage.elim

mutual

theorem calls_take (st : State) : (step : Step) → (take st step).1.pool.calls = st.pool.calls
  | .get key name server user keep onServer onUser onConnect => by
    simp only [take]
    have hlookup := onward_lookup st.pool key name
    generalize st.pool.lookup key name = r at hlookup
    cases hlookup with
    | ends hcalls => exact (calls_finish _ _ _ _ _ _).trans hcalls
    | @waits q c hstage hcalls =>
      obtain ⟨k, server', rfl⟩ := hstage
      dsimp only
      have hinside := calls_takeFromInside { st with pool := q } onServer
      generalize takeFromInside { st with pool := q } onServer = inside at hinside
      obtain ⟨st₁, atServer⟩ := inside
      have hread := calls_read st₁ (.pairs server : Options.Source Options.Server)
      generalize st₁.read (.pairs server : Options.Source Options.Server) = options at hread
      obtain ⟨st₁, answer⟩ := options
      have hserver := onward_answerServer answer (hread.trans (hinside.trans hcalls))
      dsimp only
      generalize st₁.pool.answerServer answer = r at hserver
      cases hserver with
      | ends hcalls => exact (calls_finish _ _ _ _ _ _).trans hcalls
      | @waits q c hstage hcalls =>
        obtain ⟨k, server', options, rfl⟩ := hstage
        dsimp only
        have hinside := calls_takeFromInside { st₁ with pool := q } onUser
        generalize takeFromInside { st₁ with pool := q } onUser = inside at hinside
        obtain ⟨st₂, atUser⟩ := inside
        have hread := calls_read st₂ (.pairs user : Options.Source Options.UserMapping)
        generalize st₂.read (.pairs user : Options.Source Options.UserMapping) = options at hread
        obtain ⟨st₂, answer⟩ := options
        have huser := onward_answerUser answer (hread.trans (hinside.trans hcalls))
        dsimp only
        generalize st₂.pool.answerUser answer = r at huser
        cases huser with
        | ends hcalls => exact (calls_finish _ _ _ _ _ _).trans hcalls
        | @waits q c hstage hcalls =>
          dsimp only
          have hinside := calls_takeFromInside { st₂ with pool := q } onConnect
          generalize takeFromInside { st₂ with pool := q } onConnect = inside at hinside
          obtain ⟨st₃, atConnect⟩ := inside
          exact (calls_finish _ _ _ _ _ _).trans
            (calls_dial ⟨c, hstage, hinside.trans hcalls⟩)
  | .establish server user keep onConnect => by
    simp only [take]
    have hserver := calls_read st server
    generalize st.read server = options at hserver
    obtain ⟨st₁, server⟩ := options
    have huser := calls_read st₁ user
    generalize st₁.read user = options at huser
    obtain ⟨st₂, user⟩ := options
    have hread := huser.trans hserver
    dsimp only
    split
    next => exact hread
    next => exact hread
    next server user =>
      have hconnect := onward_connect st₂.pool none server user
      simp only [establish]
      generalize st₂.pool.connect none server user = r at hconnect
      cases hconnect with
      | ends hcalls => exact (calls_finish _ _ _ _ _ _).trans (hcalls.trans hread)
      | @waits q c hstage hcalls =>
        dsimp only
        have hinside := calls_takeFromInside { st₂ with pool := q } onConnect
        generalize takeFromInside { st₂ with pool := q } onConnect = inside at hinside
        obtain ⟨st₃, atConnect⟩ := inside
        have hdial := calls_dial ⟨c, hstage, hinside.trans hcalls⟩
        exact (calls_finish _ _ _ _ _ _).trans (hdial.trans hread)
  | .borrow handle body => by
    simp only [take]
    split
    next => rfl
    next => rfl
    next q hbegin =>
      obtain ⟨s, x, -, -, -, -, -, rfl⟩ := beginBorrow_eq_some hbegin
      exact calls_endBorrow (calls_takeAll _ body)
  | .use u => by
    simp only [take]
    split
    next => rfl
    next q condition huse =>
      simp only [use] at huse
      split at huse
      next =>
        obtain ⟨c, -, heq⟩ := Option.map_eq_some_iff.mp huse
        obtain ⟨rfl, -⟩ := Prod.mk.inj heq
        rfl
      next => simp at huse
  | .look handle => by
    simp only [take]
    split <;> rfl
  | .release handle => calls_release st.pool handle
  | .plan plan => rfl
  | .count => rfl
  | .isInitialized => rfl
  | .closeAll => calls_closeAll st.pool
  | .stats => rfl

private theorem calls_takeAll (st : State) :
    (steps : List Step) → (takeAll st steps).1.pool.calls = st.pool.calls
  | [] => rfl
  | step :: rest => (calls_takeAll (take st step).1 rest).trans (calls_take st step)

private theorem calls_takeFromInside (st : State) :
    (steps : Option (List Step)) → (takeFromInside st steps).1.pool.calls = st.pool.calls
  | none => rfl
  | some steps => calls_takeAll st steps

end

end Rehearsal

end RemoteFirebird
