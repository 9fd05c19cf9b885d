import RemoteFirebird.Proofs.Pool.Secrets
import RemoteFirebird.Rehearsal.Run

/-!
# Secrets in rehearsals

Two scripts that differ only in passwords are answered alike, step by step and from inside of steps,
and the same happens meanwhile, but for the passwords that the remote side is told.
-/

namespace RemoteFirebird.Rehearsal

open Session Pool

mutual

/-- The step with all passwords in it masked, those in the steps inside of it included. -/
def Step.masked : Step → Step
  | .get key name server user keep onServer onUser onConnect =>
    .get key name (server.map Options.Pair.masked) (user.map Options.Pair.masked) keep
      (maskedInside onServer) (maskedInside onUser) (maskedInside onConnect)
  | .establish server user keep onConnect =>
    .establish (server.masked id) (user.masked Options.UserMapping.masked) keep
      (maskedInside onConnect)
  | .borrow handle body => .borrow handle (maskedAll body)
  | .use u => .use u
  | .look handle => .look handle
  | .release handle => .release handle
  | .plan plan => .plan plan
  | .count => .count
  | .isInitialized => .isInitialized
  | .closeAll => .closeAll
  | .stats => .stats

def maskedAll : List Step → List Step
  | [] => []
  | step :: rest => step.masked :: maskedAll rest

def maskedInside : Option (List Step) → Option (List Step)
  | none => none
  | some steps => some (maskedAll steps)

end

def Stats.masked (s : Stats) : Stats :=
  { s with lastLogin := s.lastLogin.map Login.masked }

mutual

/-- The reply with the password masked in all logins that it tells. -/
def Reply.masked : Reply → Reply
  | .session outcome onServer onUser onConnect =>
    .session outcome (maskedRepliesInside onServer) (maskedRepliesInside onUser)
      (maskedRepliesInside onConnect)
  | .borrowed replies => .borrowed (maskedReplies replies)
  | .stats stats => .stats stats.masked
  | .refused fault => .refused fault
  | .noHandle => .noHandle
  | .done => .done
  | .flag value => .flag value
  | .text value => .text value
  | .number value => .number value
  | .misplaced => .misplaced

def maskedReplies : List Reply → List Reply
  | [] => []
  | reply :: rest => reply.masked :: maskedReplies rest

def maskedRepliesInside : Option (List Reply) → Option (List Reply)
  | none => none
  | some replies => some (maskedReplies replies)

end

def State.masked (st : State) : State :=
  { st with pool := st.pool.masked }

/-! ### Parts of a step -/

private theorem logAll_masked (p : Pool) (es : List Log.Event) :
    p.masked.logAll (es.map Log.Event.masked) = (p.logAll es).masked := by
  induction es generalizing p with
  | nil => rfl
  | cons e es ih => exact ih (p.log e)

private theorem map_masked_ofSource {α : Type} [Options.View α] (source : Options.Source α) :
    (Log.ofSource source).map Log.Event.masked = Log.ofSource source := by
  cases source with
  | known view => rfl
  | pairs list =>
    simp only [Log.ofSource, Log.ofCheck, List.map_map]
    rfl

theorem read_masked {α : Type} [Options.View α] {f : α → α} {source : Options.Source α}
    (hread : (source.masked f).read = source.read.map f) (st : State) :
    st.masked.read (source.masked f) = ((st.read source).1.masked, (st.read source).2.map f) := by
  have hlog := logAll_masked st.pool (Log.ofSource source)
  rw [map_masked_ofSource] at hlog
  simp only [State.read, hread, Log.ofSource_masked]
  refine Prod.ext (congrArg (State.mk · st.plans) hlog) ?_
  cases source.read <;> rfl

theorem read_masked_server (st : State) (source : Options.Source Options.Server) :
    st.masked.read (source.masked id) = ((st.read source).1.masked, (st.read source).2) := by
  have hread : (source.masked id).read = source.read.map id := by
    rw [Options.read_masked_server, Except.map_id, id]
  rw [read_masked hread, Except.map_id, id]

theorem read_masked_userMapping (st : State) (source : Options.Source Options.UserMapping) :
    st.masked.read (source.masked Options.UserMapping.masked) =
      ((st.read source).1.masked, (st.read source).2.map Options.UserMapping.masked) :=
  read_masked (Options.read_masked_userMapping source) st

private theorem sight?_masked (st : State) (s : Nat) : st.masked.sight? s = st.sight? s := rfl

private theorem finish_masked (st : State) (progress : Progress) (keep : Option String)
    (onServer onUser onConnect : Option (List Reply)) :
    st.masked.finish progress keep (maskedRepliesInside onServer) (maskedRepliesInside onUser)
        (maskedRepliesInside onConnect) =
      ((st.finish progress keep onServer onUser onConnect).1.masked,
        (st.finish progress keep onServer onUser onConnect).2.masked) := by
  cases progress with
  | waiting => rfl
  | finished outcome =>
    cases outcome with
    | error fault => rfl
    | ok s =>
      have hstow : ({ st.masked with pool := st.masked.pool.stow s keep } : State) =
          State.masked { st with pool := st.pool.stow s keep } :=
        congrArg (State.mk · st.plans) (stow_masked st.pool s keep)
      simp only [State.finish, hstow, sight?_masked]
      cases ({ st with pool := st.pool.stow s keep } : State).sight? s <;> rfl

private theorem dial_masked (st : State) : st.masked.dial = (st.dial.1.masked, st.dial.2) := by
  obtain ⟨pool, plans⟩ := st
  simp only [State.dial, State.masked, answerConnect_masked]
  generalize pool.answerConnect _ = r
  obtain ⟨pool, progress⟩ := r
  cases progress with
  | finished outcome => rfl
  | waiting => simp only [maskedResult, settle_masked]

private theorem lastLogin_masked (st : State) :
    st.masked.lastLogin = st.lastLogin.map Login.masked := by
  simp only [State.lastLogin, State.masked, masked, List.findSome?_map, List.map_findSome?]
  congr 1
  funext e
  simp only [Function.comp_apply, occurrences_masked, List.findSome?_map, List.map_findSome?]
  congr 1
  funext o
  cases o <;> rfl

private theorem stats_masked (st : State) : st.masked.stats = st.stats.masked := by
  have hall : st.masked.pool.history.flatMap Entry.occurrences =
      (st.pool.history.flatMap Entry.occurrences).map Occurrence.masked := by
    simp [State.masked, masked, List.flatMap_map, List.map_flatMap]
  have hdropped : st.masked.stats.dropped = st.stats.dropped := by
    simp only [State.stats, hall, List.countP_map]
    refine List.countP_congr fun o _ => ?_
    cases o <;> rfl
  have hlogin : st.masked.stats.lastLogin = st.stats.lastLogin.map Login.masked :=
    lastLogin_masked st
  exact congr (congrArg (fun n l => Stats.mk st.pool.attempts n st.pool.encoding l) hdropped) hlogin

/-! ### Steps -/

mutual

private theorem take_masked (st : State) : (step : Step) →
    take st.masked step.masked = ((take st step).1.masked, (take st step).2.masked)
  | .get key name server user keep onServer onUser onConnect => by
    have hlookup : st.masked.pool.lookup key name = maskedResult (st.pool.lookup key name) :=
      lookup_masked st.pool key name
    simp only [Step.masked, take, hlookup]
    generalize st.pool.lookup key name = r
    obtain ⟨pool, progress⟩ := r
    cases progress with
    | finished outcome => exact finish_masked { st with pool } _ keep none none none
    | waiting =>
      have hinside : takeFromInside { st.masked with pool := pool.masked } (maskedInside onServer) =
        _ := takeFromInside_masked { st with pool } onServer
      simp only [maskedResult, hinside]
      generalize takeFromInside { st with pool } onServer = inside
      obtain ⟨st₁, atServer⟩ := inside
      have hread : st₁.masked.read (.pairs (server.map Options.Pair.masked)) = _ :=
        read_masked_server st₁ (.pairs server)
      simp only [hread]
      generalize st₁.read (.pairs server : Options.Source Options.Server) = options
      obtain ⟨st₁, answer⟩ := options
      have hserver : st₁.masked.pool.answerServer answer = _ :=
        answerServer_masked st₁.pool answer
      simp only [hserver]
      generalize st₁.pool.answerServer answer = r
      obtain ⟨pool, progress⟩ := r
      cases progress with
      | finished outcome => exact finish_masked { st₁ with pool } _ keep atServer none none
      | waiting =>
        have hinside :
            takeFromInside { st₁.masked with pool := pool.masked } (maskedInside onUser) = _ :=
          takeFromInside_masked { st₁ with pool } onUser
        simp only [maskedResult, hinside]
        generalize takeFromInside { st₁ with pool } onUser = inside
        obtain ⟨st₂, atUser⟩ := inside
        have hread : st₂.masked.read (.pairs (user.map Options.Pair.masked)) = _ :=
          read_masked_userMapping st₂ (.pairs user)
        simp only [hread]
        generalize st₂.read (.pairs user : Options.Source Options.UserMapping) = options
        obtain ⟨st₂, answer⟩ := options
        have huser : st₂.masked.pool.answerUser (answer.map Options.UserMapping.masked) = _ :=
          answerUser_masked st₂.pool answer
        simp only [huser]
        generalize st₂.pool.answerUser answer = r
        obtain ⟨pool, progress⟩ := r
        cases progress with
        | finished outcome => exact finish_masked { st₂ with pool } _ keep atServer atUser none
        | waiting =>
          have hinside : takeFromInside { st₂.masked with pool := pool.masked }
            (maskedInside onConnect) = _ := takeFromInside_masked { st₂ with pool } onConnect
          simp only [maskedResult, hinside]
          generalize takeFromInside { st₂ with pool } onConnect = inside
          obtain ⟨st₃, atConnect⟩ := inside
          simp only [dial_masked]
          exact finish_masked st₃.dial.1 st₃.dial.2 keep atServer atUser atConnect
  | .establish server user keep onConnect => by
    simp only [Step.masked, take, read_masked_server]
    generalize st.read server = options
    obtain ⟨st₁, server⟩ := options
    simp only [read_masked_userMapping]
    generalize st₁.read user = options
    obtain ⟨st₂, user⟩ := options
    cases server with
    | error fault => rfl
    | ok server =>
      cases user with
      | error fault => rfl
      | ok user =>
        have hestablish : st₂.masked.pool.establish server user.masked =
          maskedResult (st₂.pool.establish server user) := connect_masked st₂.pool none server user
        simp only [Except.map, hestablish]
        generalize st₂.pool.establish server user = r
        obtain ⟨pool, progress⟩ := r
        cases progress with
        | finished outcome => exact finish_masked { st₂ with pool } _ keep none none none
        | waiting =>
          have hinside : takeFromInside { st₂.masked with pool := pool.masked }
            (maskedInside onConnect) = _ := takeFromInside_masked { st₂ with pool } onConnect
          simp only [maskedResult, hinside]
          generalize takeFromInside { st₂ with pool } onConnect = inside
          obtain ⟨st₃, atConnect⟩ := inside
          simp only [dial_masked]
          exact finish_masked st₃.dial.1 st₃.dial.2 keep none none atConnect
  | .borrow handle body => by
    have hbegin : st.masked.pool.beginBorrow handle = _ := beginBorrow_masked st.pool handle
    simp only [Step.masked, take, hbegin]
    cases st.pool.beginBorrow handle with
    | none => rfl
    | some begun =>
      cases begun with
      | error fault => rfl
      | ok pool =>
        have hbody : takeAll { st.masked with pool := pool.masked } (maskedAll body) = _ :=
          takeAll_masked { st with pool } body
        have hend := endBorrow_masked (takeAll { st with pool } body).1.pool
        simp only [Option.map_some, Except.map, hbody]
        exact Prod.ext (congrArg (State.mk · _) hend) rfl
  | .use u => by
    simp only [Step.masked, take, State.masked, use_masked]
    cases st.pool.use u with
    | none => rfl
    | some r => cases u <;> rfl
  | .look handle => by
    have hlook : ((st.masked.pool.handles.lookup handle).bind st.masked.sight?) =
      (st.pool.handles.lookup handle).bind st.sight? := rfl
    simp only [Step.masked, take, hlook]
    cases (st.pool.handles.lookup handle).bind st.sight? <;> rfl
  | .release handle => by
    simp only [Step.masked, take, State.masked, release_masked]
    rfl
  | .plan plan => rfl
  | .count => rfl
  | .isInitialized => rfl
  | .closeAll => by
    simp only [Step.masked, take, State.masked, closeAll_masked]
    rfl
  | .stats => by
    simp only [Step.masked, take, stats_masked]
    rfl

private theorem takeAll_masked (st : State) : (steps : List Step) →
    takeAll st.masked (maskedAll steps) =
      ((takeAll st steps).1.masked, maskedReplies (takeAll st steps).2)
  | [] => rfl
  | step :: rest => by
    simp only [maskedAll, takeAll, take_masked st step, takeAll_masked (take st step).1 rest]
    rfl

private theorem takeFromInside_masked (st : State) : (steps : Option (List Step)) →
    takeFromInside st.masked (maskedInside steps) =
      ((takeFromInside st steps).1.masked, maskedRepliesInside (takeFromInside st steps).2)
  | none => rfl
  | some steps => by
    simp only [maskedInside, takeFromInside, takeAll_masked st steps]
    rfl

end

/-! ### Scripts -/

/-- The reply of a step and what has happened meanwhile, with all passwords masked. -/
def maskedAnswer (a : Reply × List Entry) : Reply × List Entry :=
  (a.1.masked, a.2.map Entry.masked)

private theorem run_masked (st : State) (steps : List Step) :
    run st.masked (maskedAll steps) = (run st steps).map maskedAnswer := by
  induction steps generalizing st with
  | nil => rfl
  | cons step rest ih =>
    have hlength : ∀ st : State, st.masked.pool.history.length = st.pool.history.length :=
      fun st => List.length_map Entry.masked
    simp only [maskedAll, run, take_masked, hlength, List.map_cons, ih]
    congr 1
    simp only [maskedAnswer, List.map_reverse, List.map_take]
    rfl

/-- Passwords do not show. Wherever two things are compared, they are the same once all passwords
are masked, and so they differ in passwords only. -/
theorem passwords_hidden :
    -- in the check of an option list and what it reports
    (∀ scope (pairs pairs' : List Options.Pair),
      pairs.map Options.Pair.masked = pairs'.map Options.Pair.masked →
        Options.check scope pairs = Options.check scope pairs' ∧
          Log.ofCheck scope pairs = Log.ofCheck scope pairs') ∧
    -- in the replies to a script, in what happens meanwhile and in what logs show of it
    (∀ encoding steps steps', maskedAll steps = maskedAll steps' →
      (run (.start encoding) steps).map maskedAnswer =
          (run (.start encoding) steps').map maskedAnswer ∧
        (run (.start encoding) steps).map (fun a => a.2.flatMap Entry.shown) =
          (run (.start encoding) steps').map fun a => a.2.flatMap Entry.shown) ∧
    -- at any time of a run, whatever the outside answers
    (∀ encoding (ms ms' : List Move), ms.map Move.masked = ms'.map Move.masked → ∀ n,
      ((Pool.start encoding).before ms n).masked = ((Pool.start encoding).before ms' n).masked ∧
        Alike ((Pool.start encoding).before ms n) ((Pool.start encoding).before ms' n)) ∧
    -- in the texts of options and logins
    (∀ u u' : Options.UserMapping, u.masked = u'.masked → u.describe = u'.describe) ∧
    ∀ l l' : Login, l.masked = l'.masked → l.describe = l'.describe := by
  refine ⟨?_, ?_, ?_, ?_, ?_⟩
  · intro scope pairs pairs' h
    rw [← Options.check_masked, ← Log.ofCheck_masked, h, Options.check_masked, Log.ofCheck_masked]
    exact ⟨rfl, rfl⟩
  · intro encoding steps steps' h
    have hanswers : (run (.start encoding) steps).map maskedAnswer =
        (run (.start encoding) steps').map maskedAnswer := by
      have hrun := run_masked (.start encoding) steps
      rw [h] at hrun
      exact hrun.symm.trans (run_masked (.start encoding) steps')
    refine ⟨hanswers, ?_⟩
    have hshown : ∀ answers : List (Reply × List Entry),
        answers.map (fun a => a.2.flatMap Entry.shown) =
          (answers.map maskedAnswer).map fun a => a.2.flatMap Entry.shown := by
      intro answers
      simp [maskedAnswer, List.flatMap_map, Function.comp_def]
    rw [hshown, hanswers, ← hshown]
  · intro encoding ms ms' h n
    have hpools : ((Pool.start encoding).before ms n).masked =
        ((Pool.start encoding).before ms' n).masked := by
      rw [← before_masked, h, before_masked]
    exact ⟨hpools, alike_of_masked_eq hpools⟩
  · intro u u' h
    rw [← Options.describe_masked u, h, Options.describe_masked]
  · intro l l' h
    rw [← Session.describe_masked l, h, Session.describe_masked]

/-- A script that looks a session up with a password. -/
def loginScript (password : String) : List Step :=
  [.get ⟨1, 1⟩ "server" [⟨"database", "employee"⟩]
    [⟨"username", "sysdba"⟩, ⟨"password", password⟩] none none none none, .stats]

theorem passwords_hidden_loginScript :
    (run (.start "UTF8") (loginScript "first")).map maskedAnswer =
        (run (.start "UTF8") (loginScript "second")).map maskedAnswer ∧
      (takeAll (.start "UTF8") (loginScript "first")).1.lastLogin ≠
        (takeAll (.start "UTF8") (loginScript "second")).1.lastLogin :=
  ⟨(passwords_hidden.2.1 "UTF8" (loginScript "first") (loginScript "second") rfl).1,
    by decide +kernel⟩

end RemoteFirebird.Rehearsal
