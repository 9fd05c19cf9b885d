import RemoteFirebird.Proofs.Options.Secrets
import RemoteFirebird.Proofs.Pool.Operations

/-!
# Secrets in a pool

A pool holds a password in the logins of the connections that it asks for, and nowhere else. No step
of a pool depends on it: masking what a move brings in and masking what the move makes of the pool
come to the same, and the outcomes of calls are the same outright.
-/

namespace RemoteFirebird

open Session

def Session.Login.masked (l : Login) : Login :=
  { l with password := l.password.map fun _ => Options.UserMapping.mask }

@[simp] theorem Session.describe_masked (l : Login) : l.masked.describe = l.describe := by
  simp [Login.describe, Login.masked, Option.map_map, Function.comp_def]

namespace Log

def Event.masked : Event → Event
  | connecting login => connecting login.masked
  | e => e

/-- What a log shows of an event. -/
def Event.shown (e : Event) : Severity × String × List (String × String) :=
  (e.severity, e.message, e.fields)

/-- A log shows nothing of the passwords in events. -/
@[simp] theorem shown_masked (e : Event) : e.masked.shown = e.shown := by
  cases e with
  | connecting login =>
    simp [Event.masked, Event.shown, Event.severity, Event.message, Event.fields]
  | _ => rfl

end Log

namespace Pool

def Occurrence.masked : Occurrence → Occurrence
  | connect id login => connect id login.masked
  | logged e => logged e.masked
  | o => o

def Entry.masked : Entry → Entry
  | single o => single o.masked
  | together os => together (os.map Occurrence.masked)

/-- What logs show of an entry. -/
def Entry.shown (e : Entry) : List (Log.Severity × String × List (String × String)) :=
  e.occurrences.filterMap fun
    | .logged event => some event.shown
    | _ => none

def Call.masked : Call → Call
  | connecting owner id login => connecting owner id login.masked
  | opened owner login connection => opened owner login.masked connection
  | c => c

def masked (p : Pool) : Pool :=
  { p with calls := p.calls.map Call.masked, history := p.history.map Entry.masked }

def Move.masked : Move → Move
  | establish server user => establish server user.masked
  | answerUser answer => answerUser (answer.map Options.UserMapping.masked)
  | report event => report event.masked
  | m => m

@[simp] theorem occurrences_masked (e : Entry) :
    e.masked.occurrences = e.occurrences.map Occurrence.masked := by
  cases e <;> rfl

@[simp] theorem shown_masked (e : Entry) : e.masked.shown = e.shown := by
  rw [Entry.shown, Entry.shown, occurrences_masked, List.filterMap_map]
  refine List.filterMap_congr fun o _ => ?_
  cases o with
  | logged event => exact congrArg some (Log.shown_masked event)
  | _ => rfl

/-! ### Operations -/

@[simp] theorem session?_masked (p : Pool) (s : Nat) : p.masked.session? s = p.session? s := rfl

@[simp] theorem slot_masked (p : Pool) (key : Key) : p.masked.slot key = p.slot key := rfl

@[simp] theorem handles_masked (p : Pool) : p.masked.handles = p.handles := rfl

@[simp] theorem calls_masked (p : Pool) : p.masked.calls = p.calls.map Call.masked := rfl

private theorem with_calls_masked (p : Pool) (calls : List Call) :
    { p.masked with calls := calls.map Call.masked } = masked { p with calls } := rfl

private theorem setSlot_masked (p : Pool) (key : Key) (v : Slot) :
    p.masked.setSlot key v = (p.setSlot key v).masked := rfl

private theorem modifySession_masked (p : Pool) (s : Nat) (f : Session → Session) :
    p.masked.modifySession s f = (p.modifySession s f).masked := rfl

private theorem dropConnection_masked (p : Pool) (s : Nat) :
    p.masked.dropConnection s = (p.dropConnection s).masked := by
  simp only [dropConnection, session?_masked]
  cases (p.session? s).bind Session.connection <;> rfl

private theorem letGo_masked (p : Pool) (s : Nat) : p.masked.letGo s = (p.letGo s).masked := by
  simp only [letGo, modifySession_masked, session?_masked, dropConnection_masked]
  split <;> rfl

theorem stow_masked (p : Pool) (s : Nat) (keep : Option String) :
    p.masked.stow s keep = (p.stow s keep).masked := by
  cases keep with
  | none => exact letGo_masked p s
  | some handle =>
    simp only [stow, handles_masked]
    cases p.handles.lookup handle with
    | none => rfl
    | some t => exact letGo_masked { p with handles := assign handle s p.handles } t

theorem release_masked (p : Pool) (handle : String) :
    p.masked.release handle = ((p.release handle).1.masked, (p.release handle).2) := by
  simp only [release, handles_masked]
  cases p.handles.lookup handle with
  | none => rfl
  | some s =>
    exact Prod.ext (letGo_masked { p with handles := p.handles.filter (·.1 != handle) } s) rfl

private theorem prepare_masked (p : Pool) : p.masked.prepare = p.prepare.masked := by
  obtain ⟨_, slots, _, _, _, _, _⟩ := p
  cases slots <;> rfl

private theorem vacate_masked (p : Pool) (owner : Option Key) :
    p.masked.vacate owner = (p.vacate owner).masked := by
  cases owner <;> rfl

/-- What a step has come to, with the passwords in the pool masked. -/
def maskedResult (r : Pool × Progress) : Pool × Progress :=
  (r.1.masked, r.2)

theorem lookup_masked (p : Pool) (key : Key) (server : String) :
    p.masked.lookup key server = maskedResult (p.lookup key server) := by
  simp only [lookup, prepare_masked, slot_masked]
  cases p.prepare.slot key <;> rfl

theorem connect_masked (p : Pool) (owner : Option Key) (server : Options.Server)
    (user : Options.UserMapping) :
    p.masked.connect owner server user.masked = maskedResult (p.connect owner server user) := by
  simp only [connect]
  cases databasePath server with
  | error fault => exact Prod.ext (vacate_masked p owner) rfl
  | ok path => rfl

theorem answerServer_masked (p : Pool) (answer : Except Fault Options.Server) :
    p.masked.answerServer answer = maskedResult (p.answerServer answer) := by
  obtain ⟨_, _, _, _, calls, _, _⟩ := p
  rcases calls with _ | ⟨c, calls⟩
  · rfl
  · cases c <;> cases answer <;> rfl

theorem answerUser_masked (p : Pool) (answer : Except Fault Options.UserMapping) :
    p.masked.answerUser (answer.map Options.UserMapping.masked) =
      maskedResult (p.answerUser answer) := by
  obtain ⟨encoding, slots, sessions, handles, calls, attempts, history⟩ := p
  rcases calls with _ | ⟨c, calls⟩
  · rfl
  · cases c with
    | askingUser key server options =>
      cases answer with
      | error fault => rfl
      | ok user =>
        exact connect_masked ⟨encoding, slots, sessions, handles, calls, attempts, history⟩
          (some key) options user
    | _ => rfl

theorem answerConnect_masked (p : Pool) (answer : Except String Condition) :
    p.masked.answerConnect answer = maskedResult (p.answerConnect answer) := by
  obtain ⟨_, _, _, _, calls, _, _⟩ := p
  rcases calls with _ | ⟨c, calls⟩
  · rfl
  · cases c with
    | connecting owner id login => cases answer <;> cases owner <;> rfl
    | _ => rfl

theorem settle_masked (p : Pool) : p.masked.settle = maskedResult p.settle := by
  obtain ⟨_, _, _, _, calls, _, _⟩ := p
  rcases calls with _ | ⟨c, calls⟩
  · rfl
  · cases c with
    | opened owner login connection =>
      obtain ⟨id, ready, message⟩ := connection
      cases ready <;> cases owner <;> rfl
    | _ => rfl

theorem beginBorrow_masked (p : Pool) (handle : String) :
    p.masked.beginBorrow handle = (p.beginBorrow handle).map (Except.map masked) := by
  simp only [beginBorrow, handles_masked, session?_masked]
  cases p.handles.lookup handle with
  | none => rfl
  | some s =>
    simp only [Option.bind_some]
    cases p.session? s with
    | none => rfl
    | some x =>
      obtain ⟨snapshot, borrowed, connection, holders⟩ := x
      obtain ⟨path, autocommit, level, closed⟩ := snapshot
      cases closed <;> cases borrowed <;> cases connection <;> rfl

theorem endBorrow_masked (p : Pool) : p.masked.endBorrow = p.endBorrow.masked := by
  cases hcalls : p.calls with
  | nil => simp [endBorrow, hcalls]
  | cons c calls =>
    cases c with
    | borrowing s =>
      simp only [endBorrow, calls_masked, hcalls, List.map_cons, Call.masked, with_calls_masked,
        modifySession_masked, session?_masked, ← letGo_masked]
      have hfree : ∀ x : Session,
          ({ p with calls }.modifySession s fun x => { x with borrowed := false }).masked.log
              (.releasedAfterBorrow x.path) =
            (({ p with calls }.modifySession s fun x => { x with borrowed := false }).log
              (.releasedAfterBorrow x.path)).masked := fun _ => rfl
      simp only [hfree, dropConnection_masked]
      split
      next x _ => split <;> rfl
      next => rfl
    | _ => simp [endBorrow, hcalls, Call.masked]

theorem use_masked (p : Pool) (u : Use) :
    p.masked.use u = (p.use u).map fun r => (r.1.masked, r.2) := by
  cases hcalls : p.calls with
  | nil => simp [use, hcalls]
  | cons c calls =>
    cases c with
    | borrowing s =>
      simp only [use, calls_masked, hcalls, List.map_cons, Call.masked, session?_masked]
      cases (p.session? s).bind Session.connection with
      | none => rfl
      | some c => cases u <;> rfl
    | _ => simp [use, hcalls, Call.masked]

/-! ### Closing -/

private theorem map_masked_close (x : Session) : x.close.2.map Occurrence.masked = x.close.2 := by
  obtain ⟨snapshot, borrowed, connection, holders⟩ := x
  cases borrowed <;> cases connection <;> rfl

private theorem closeOne_masked (p : Pool) (key : Key) (s : Nat) :
    p.masked.closeOne key s = ((p.closeOne key s).1.masked, (p.closeOne key s).2) ∧
      (p.closeOne key s).2.1.map Occurrence.masked = (p.closeOne key s).2.1 := by
  simp only [closeOne, setSlot_masked, session?_masked]
  cases (p.setSlot key .vacant).session? s with
  | none => exact ⟨rfl, rfl⟩
  | some x =>
    dsimp only
    split
    next => exact ⟨rfl, by split <;> rfl⟩
    next =>
      refine ⟨rfl, ?_⟩
      rw [List.map_append, map_masked_close]
      split <;> rfl

private theorem closeEach_masked (p : Pool) (kept : List (Key × Nat)) :
    p.masked.closeEach kept = ((p.closeEach kept).1.masked, (p.closeEach kept).2) ∧
      (p.closeEach kept).2.1.map Occurrence.masked = (p.closeEach kept).2.1 := by
  induction kept generalizing p with
  | nil => exact ⟨rfl, rfl⟩
  | cons e rest ih =>
    obtain ⟨key, s⟩ := e
    obtain ⟨hone, honly⟩ := closeOne_masked p key s
    obtain ⟨hrest, hrestOnly⟩ := ih (p.closeOne key s).1
    rw [closeEach_cons, closeEach_cons, hone, hrest]
    refine ⟨rfl, ?_⟩
    rw [List.map_append, honly, hrestOnly]

theorem closeAll_masked (p : Pool) :
    p.masked.closeAll = (p.closeAll.1.masked, p.closeAll.2) := by
  obtain ⟨heach, honly⟩ := closeEach_masked p p.kept
  have hkept : p.masked.kept = p.kept := rfl
  simp only [closeAll, hkept, heach]
  refine Prod.ext ?_ rfl
  simp only [masked, List.map_cons, Entry.masked, honly]

/-! ### Runs -/

private theorem act_masked (p : Pool) (m : Move) :
    p.masked.act m.masked = maskedResult (p.act m) := by
  cases m with
  | lookup key server keep => exact lookup_masked p key server
  | establish server user => exact connect_masked p none server user
  | answerServer answer => exact answerServer_masked p answer
  | answerUser answer => exact answerUser_masked p answer
  | answerConnect answer => exact answerConnect_masked p answer
  | settle keep => exact settle_masked p
  | beginBorrow handle =>
    simp only [act, Move.masked, beginBorrow_masked]
    rcases p.beginBorrow handle with _ | _ | q <;> rfl
  | endBorrow => exact Prod.ext (endBorrow_masked p) rfl
  | use u =>
    simp only [act, Move.masked, use_masked]
    cases p.use u <;> rfl
  | release handle =>
    simp only [act, Move.masked, release_masked]
    rfl
  | closeAll =>
    simp only [act, Move.masked, closeAll_masked]
    rfl
  | count => rfl
  | report event => rfl

private theorem step_masked (p : Pool) (m : Move) : p.masked.step m.masked = (p.step m).masked := by
  have hkeep : m.masked.keep = m.keep := by cases m <;> rfl
  have hresult : p.masked.result m.masked = p.result m := by rw [result, act_masked]; rfl
  simp only [step, hresult, hkeep, act_masked]
  cases p.result m with
  | none => rfl
  | some s => exact stow_masked _ s m.keep

private theorem after_masked (p : Pool) (ms : List Move) :
    p.masked.after (ms.map Move.masked) = (p.after ms).masked := by
  induction ms generalizing p with
  | nil => rfl
  | cons m ms ih =>
    show (p.masked.step m.masked).after (ms.map Move.masked) = ((p.step m).after ms).masked
    rw [step_masked, ih]

theorem before_masked (p : Pool) (ms : List Move) (n : Nat) :
    p.masked.before (ms.map Move.masked) n = (p.before ms n).masked := by
  rw [before, ← List.map_take, after_masked, before]

/-- No result of a call tells two pools from each other, and neither do their logs. -/
structure Alike (p q : Pool) : Prop where
  outcome : ∀ m m' : Move, m.masked = m'.masked → (p.act m).2 = (q.act m').2
  borrow : ∀ handle, (p.beginBorrow handle).map (Except.map masked) =
    (q.beginBorrow handle).map (Except.map masked)
  use : ∀ u, (p.use u).map Prod.snd = (q.use u).map Prod.snd
  release : ∀ handle, (p.release handle).2 = (q.release handle).2
  closeAll : p.closeAll.2 = q.closeAll.2
  count : p.count = q.count
  session : ∀ s, p.session? s = q.session? s
  log : p.history.flatMap Entry.shown = q.history.flatMap Entry.shown

theorem alike_of_masked_eq {p q : Pool} (h : p.masked = q.masked) : Alike p q where
  outcome m m' hm := by
    have hp := congrArg Prod.snd (act_masked p m)
    have hq := congrArg Prod.snd (act_masked q m')
    rw [h, hm] at hp
    exact hp.symm.trans hq
  borrow handle := by rw [← beginBorrow_masked, ← beginBorrow_masked, h]
  use u := by
    have hp := congrArg (Option.map Prod.snd) (use_masked p u)
    have hq := congrArg (Option.map Prod.snd) (use_masked q u)
    rw [Option.map_map] at hp hq
    rw [h] at hp
    exact hp.symm.trans hq
  release handle := by
    have hp := congrArg Prod.snd (release_masked p handle)
    have hq := congrArg Prod.snd (release_masked q handle)
    rw [h] at hp
    exact hp.symm.trans hq
  closeAll := by
    have hp := congrArg Prod.snd (closeAll_masked p)
    have hq := congrArg Prod.snd (closeAll_masked q)
    rw [h] at hp
    exact hp.symm.trans hq
  count := by
    show p.masked.count = q.masked.count
    rw [h]
  session s := by rw [← session?_masked, h, session?_masked]
  log := by
    have hshown : ∀ p : Pool,
        p.history.flatMap Entry.shown = p.masked.history.flatMap Entry.shown := by
      intro p
      simp [masked, List.flatMap_map]
    rw [hshown, h, ← hshown]

end Pool

end RemoteFirebird
