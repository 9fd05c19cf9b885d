import RemoteFirebird.Proofs.Pool.Step
import RemoteFirebird.Rehearsal.Run

/-!
# Rehearsals are runs

Taking a step of a script, with all the steps inside it, makes some moves of the pool and nothing
else. So what holds after every run of a fresh pool holds at every point of every rehearsal.
-/

namespace RemoteFirebird

open Session

namespace Pool

variable {p q r : Pool}

def Reaches (p q : Pool) : Prop :=
  ∃ ms : List Move, p.after ms = q

theorem Reaches.refl (p : Pool) : Reaches p p :=
  ⟨[], rfl⟩

theorem Reaches.trans (hpq : Reaches p q) (hqr : Reaches q r) : Reaches p r := by
  obtain ⟨ms, rfl⟩ := hpq
  obtain ⟨ns, rfl⟩ := hqr
  exact ⟨ms ++ ns, after_append p ms ns⟩

theorem Reaches.step (p : Pool) (m : Move) : Reaches p (p.step m) :=
  ⟨[m], after_singleton p m⟩

theorem Reaches.act {m : Move} (h : p.result m = none) : Reaches p (p.act m).1 := by
  have hstep : p.step m = (p.act m).1 := by simp only [Pool.step, h]
  rw [← hstep]
  exact Reaches.step p m

private theorem reaches_logAll (p : Pool) (es : List Log.Event) : Reaches p (p.logAll es) := by
  induction es generalizing p with
  | nil => exact .refl p
  | cons e es ih =>
    have hlog : Reaches p (p.log e) := Reaches.act (m := .report e) rfl
    exact hlog.trans (ih (p.log e))

private theorem result_eq_none {m : Move} (hlookup : ∀ key server keep, m ≠ .lookup key server keep)
    (hsettle : ∀ keep, m ≠ .settle keep) : p.result m = none := by
  cases h : p.result m with
  | none => rfl
  | some s =>
    rcases result_eq_some h with ⟨key, server, keep, hm, -⟩ | ⟨⟨keep, hm⟩, -⟩
    · exact (hlookup key server keep hm).elim
    · exact (hsettle keep hm).elim

private theorem reaches_of_waiting {m : Move} (h : p.act m = (q, .waiting)) : Reaches p q := by
  have hnone : p.result m = none := by
    rw [result, h]
    rfl
  have hact := Reaches.act hnone
  rw [h] at hact
  exact hact

end Pool

namespace Rehearsal

open Pool

variable {st : State}

private theorem reaches_read {α : Type} [Options.View α] (st : State) (source : Options.Source α) :
    Reaches st.pool (st.read source).1.pool :=
  reaches_logAll st.pool _

private theorem reaches_finish {m : Move} {q : Pool} {progress : Progress} (st : State)
    (keep : Option String) (h : st.pool.act m = (q, progress))
    (hkeep : m.keep = keep ∨ st.pool.result m = none)
    (onServer onUser onConnect : Option (List Reply)) :
    Reaches st.pool
      (({ st with pool := q } : State).finish progress keep onServer onUser onConnect).1.pool := by
  have hstep := Reaches.step st.pool m
  rw [result, h] at hkeep
  rw [Pool.step, result, h] at hstep
  cases progress with
  | waiting => exact hstep
  | finished outcome =>
    cases outcome with
    | error fault => exact hstep
    | ok s =>
      have heq : m.keep = keep := hkeep.resolve_right (by simp [Progress.session?])
      simp only [Progress.session?, heq] at hstep
      simp only [State.finish]
      split <;> exact hstep

theorem exists_dial_eq (st : State) : ∃ answer, st.dial =
    match st.pool.answerConnect answer with
    | (pool, .waiting) => (⟨pool.settle.1, st.plans.tail⟩, pool.settle.2)
    | (pool, progress) => (⟨pool, st.plans.tail⟩, progress) :=
  ⟨_, rfl⟩

private theorem reaches_dial (st : State) (keep : Option String)
    (onServer onUser onConnect : Option (List Reply)) :
    Reaches st.pool (st.dial.1.finish st.dial.2 keep onServer onUser onConnect).1.pool := by
  obtain ⟨answer, hdial⟩ := exists_dial_eq st
  rw [hdial]
  cases hconnect : st.pool.answerConnect answer with
  | mk q progress =>
    cases progress with
    | waiting =>
      have hopen : Reaches st.pool q := reaches_of_waiting (m := .answerConnect answer) hconnect
      apply hopen.trans
      exact reaches_finish (m := .settle keep) ⟨q, st.plans.tail⟩ keep rfl (.inl rfl)
        onServer onUser onConnect
    | finished outcome =>
      exact reaches_finish (m := .answerConnect answer) ⟨st.pool, st.plans.tail⟩ keep
        hconnect (.inr (result_eq_none (by simp) (by simp))) onServer onUser onConnect

mutual

theorem reaches_take (st : State) : (step : Step) → Reaches st.pool (take st step).1.pool
  | .get key name server user keep onServer onUser onConnect => by
    simp only [take]
    split
    next q hlookup =>
      apply (reaches_of_waiting (m := .lookup key name keep) hlookup).trans
      apply (reaches_takeFromInside { st with pool := q } onServer).trans
      generalize takeFromInside { st with pool := q } onServer = inside
      obtain ⟨st, atServer⟩ := inside
      apply (reaches_read st (.pairs server : Options.Source Options.Server)).trans
      generalize st.read (.pairs server : Options.Source Options.Server) = options
      obtain ⟨st, answer⟩ := options
      dsimp only
      split
      next q hserver =>
        apply (reaches_of_waiting (m := .answerServer answer) hserver).trans
        apply (reaches_takeFromInside { st with pool := q } onUser).trans
        generalize takeFromInside { st with pool := q } onUser = inside
        obtain ⟨st, atUser⟩ := inside
        apply (reaches_read st (.pairs user : Options.Source Options.UserMapping)).trans
        generalize st.read (.pairs user : Options.Source Options.UserMapping) = options
        obtain ⟨st, answer⟩ := options
        dsimp only
        split
        next q huser =>
          apply (reaches_of_waiting (m := .answerUser answer) huser).trans
          apply (reaches_takeFromInside { st with pool := q } onConnect).trans
          exact reaches_dial _ keep _ _ _
        next q progress _ huser =>
          exact reaches_finish (m := .answerUser answer) _ keep huser
            (.inr (result_eq_none (by simp) (by simp))) _ _ _
      next q progress _ hserver =>
        exact reaches_finish (m := .answerServer answer) _ keep hserver
          (.inr (result_eq_none (by simp) (by simp))) _ _ _
    next q progress _ hlookup =>
      exact reaches_finish (m := .lookup key name keep) _ keep hlookup (.inl rfl) _ _ _
  | .establish server user keep onConnect => by
    simp only [take]
    apply (reaches_read st server).trans
    generalize st.read server = options
    obtain ⟨st, server⟩ := options
    apply (reaches_read st user).trans
    generalize st.read user = options
    obtain ⟨st, user⟩ := options
    dsimp only
    split
    next => exact .refl _
    next => exact .refl _
    next server user =>
      split
      next q hestablish =>
        apply (reaches_of_waiting (m := .establish server user) hestablish).trans
        apply (reaches_takeFromInside { st with pool := q } onConnect).trans
        exact reaches_dial _ keep _ _ _
      next q progress _ hestablish =>
        exact reaches_finish (m := .establish server user) _ keep hestablish
          (.inr (result_eq_none (by simp) (by simp))) _ _ _
  | .borrow handle body => by
    simp only [take]
    split
    next => exact .refl _
    next => exact .refl _
    next q hbegin =>
      have hact : st.pool.act (.beginBorrow handle) = (q, .waiting) := by
        simp only [act, hbegin]
      apply (reaches_of_waiting hact).trans
      apply (reaches_takeAll { st with pool := q } body).trans
      exact Reaches.act (m := .endBorrow) rfl
  | .use u => by
    simp only [take]
    split
    next => exact .refl _
    next q condition huse =>
      have hact := Reaches.act (p := st.pool) (m := .use u) rfl
      simpa only [act, huse, Option.map_some, Option.getD_some] using hact
  | .look handle => by
    simp only [take]
    split <;> exact .refl _
  | .release handle => Reaches.act (m := .release handle) rfl
  | .plan plan => .refl _
  | .count => .refl _
  | .isInitialized => .refl _
  | .closeAll => Reaches.act (m := .closeAll) rfl
  | .stats => .refl _

private theorem reaches_takeAll (st : State) :
    (steps : List Step) → Reaches st.pool (takeAll st steps).1.pool
  | [] => .refl _
  | step :: rest => (reaches_take st step).trans (reaches_takeAll (take st step).1 rest)

private theorem reaches_takeFromInside (st : State) :
    (steps : Option (List Step)) → Reaches st.pool (takeFromInside st steps).1.pool
  | none => .refl _
  | some steps => reaches_takeAll st steps

end

/-- A rehearsal leaves its pool as a run leaves a fresh pool. -/
theorem exists_run_of_rehearsal (encoding : String) (steps : List Step) :
    ∃ ms, (takeAll (.start encoding) steps).1.pool =
      (Pool.start (clientEncoding encoding)).after ms := by
  obtain ⟨ms, hms⟩ := reaches_takeAll (.start encoding) steps
  exact ⟨ms, hms.symm⟩

end Rehearsal

end RemoteFirebird
