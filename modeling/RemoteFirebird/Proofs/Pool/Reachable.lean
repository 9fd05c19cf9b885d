import RemoteFirebird.Proofs.Pool.Operations

/-!
# Reachable pools

Every move keeps a pool sound, with the calls that are on its stack in hand and nothing else, and
so does every run. What the ledger of the run says is brought up to date on the way.
-/

namespace RemoteFirebird.Pool

open Session

variable {calls : List Call} {l : Ledger} {p : Pool} {key : Key} {s : Nat}

/-! ### The stack of calls -/

@[simp] theorem calls_vacate (p : Pool) (owner : Option Key) :
    (p.vacate owner).calls = p.calls := by
  cases owner <;> rfl

@[simp] theorem calls_dropConnection (p : Pool) (s : Nat) :
    (p.dropConnection s).calls = p.calls := by
  simp only [dropConnection]
  split <;> rfl

@[simp] theorem calls_letGo (p : Pool) (s : Nat) : (p.letGo s).calls = p.calls := by
  simp only [letGo]
  split
  · rw [calls_dropConnection]
    rfl
  · rfl

@[simp] theorem calls_stow (p : Pool) (s : Nat) (keep : Option String) :
    (p.stow s keep).calls = p.calls := by
  cases keep with
  | none => exact calls_letGo p s
  | some handle => cases h : p.handles.lookup handle <;> simp [stow, h]

@[simp] theorem calls_release (p : Pool) (handle : String) :
    (p.release handle).1.calls = p.calls := by
  cases h : p.handles.lookup handle <;> simp [release, h]

@[simp] theorem calls_addSession (p : Pool) (owner : Option Key) (x : Session) :
    (p.addSession owner x).1.calls = p.calls := by
  cases owner <;> rfl

@[simp] theorem calls_closeOne (p : Pool) (key : Key) (s : Nat) :
    (p.closeOne key s).1.calls = p.calls := by
  simp only [closeOne]
  split
  · rfl
  · split <;> rfl

@[simp] theorem calls_closeEach (p : Pool) (kept : List (Key × Nat)) :
    (p.closeEach kept).1.calls = p.calls := by
  induction kept generalizing p with
  | nil => rfl
  | cons e rest ih =>
    obtain ⟨key, s⟩ := e
    rw [closeEach_cons, ih, calls_closeOne]

@[simp] theorem calls_closeAll (p : Pool) : p.closeAll.1.calls = p.calls :=
  calls_closeEach p p.kept

theorem calls_endBorrow (hcalls : p.calls = .borrowing s :: calls) : p.endBorrow.calls = calls := by
  simp only [endBorrow, hcalls, calls_letGo]
  split
  · split
    · rw [calls_dropConnection]
      rfl
    · rfl
  · rfl

theorem endBorrow_of_idle (h : ¬∃ s calls, p.calls = .borrowing s :: calls) : p.endBorrow = p := by
  simp only [endBorrow]
  split
  next s calls hcalls => exact (h ⟨s, calls, hcalls⟩).elim
  next => rfl

theorem calls_use (p : Pool) (u : Use) : (((p.use u).map Prod.fst).getD p).calls = p.calls := by
  rw [use]
  split
  next s calls _ => cases (p.session? s).bind Session.connection <;> rfl
  next => rfl

/-! ### Moves -/

/-- A step is in order: what it leaves in hand is the session that its call has come to. -/
def InOrder (l : Ledger) (r : Pool × Progress) : Prop :=
  Sound r.1.calls r.2.session?.toList [] l r.1

theorem Sound.connect {hand : List Call} {owner : Option Key} {server : Options.Server}
    {user : Options.UserMapping} (h : Sound hand [] [] l p)
    (hgiven : Sound p.calls [] [] l (p.vacate owner))
    (hkey : hand.filterMap Call.key? = owner.toList ++ p.calls.filterMap Call.key?)
    (hborrow : ∀ s, p.calls.count (.borrowing s) = hand.count (.borrowing s))
    (hattempt : p.calls.filterMap Call.attempt? = hand.filterMap Call.attempt?)
    (hhandshake : p.calls.filterMap Call.handshake? = hand.filterMap Call.handshake?) :
    InOrder l (p.connect owner server user) := by
  simp only [Pool.connect]
  split
  next => simpa [InOrder, Progress.session?] using hgiven
  next path _ =>
    exact (h.dial hkey hborrow hattempt hhandshake).congr rfl rfl rfl rfl fun _ => rfl

theorem Sound.lookup (h : Sound p.calls [] [] l p) (key : Key) (server : String) :
    InOrder l (p.lookup key server) := by
  have hprep : Sound p.prepare.calls [] [] l p.prepare := by
    rw [calls_prepare]
    exact h.prepare
  simp only [Pool.lookup]
  split
  next => exact hprep
  next s hs => exact hprep.retain (refs_pos_of_live hs)
  next hs =>
    have hmark := hprep.mark (isSome_slots_prepare p) hs server
    exact hmark.congr rfl rfl rfl rfl fun _ => rfl

theorem Sound.establish (h : Sound p.calls [] [] l p) (server : Options.Server)
    (user : Options.UserMapping) : InOrder l (p.establish server user) :=
  h.connect h rfl (fun _ => rfl) rfl rfl

theorem Sound.answerServer (h : Sound p.calls [] [] l p) (answer : Except Fault Options.Server) :
    InOrder l (p.answerServer answer) := by
  simp only [Pool.answerServer]
  split
  next key server calls hcalls =>
    rw [hcalls] at h
    split
    next => exact (h.giveUp (by simp)).congr rfl rfl rfl rfl fun _ => rfl
    next options => exact h.askUser.congr rfl rfl rfl rfl fun _ => rfl
  next => exact h

theorem Sound.answerUser (h : Sound p.calls [] [] l p)
    (answer : Except Fault Options.UserMapping) : InOrder l (p.answerUser answer) := by
  simp only [Pool.answerUser]
  split
  next key server options calls hcalls =>
    rw [hcalls] at h
    have hgiven : Sound calls [] [] l (p.setSlot key .vacant) := h.giveUp (by simp)
    split
    next => exact hgiven.congr rfl rfl rfl rfl fun _ => rfl
    next user =>
      exact Sound.connect (p := { p with calls }) (h.congr rfl rfl rfl rfl fun _ => rfl)
        (hgiven.congr rfl rfl rfl rfl fun _ => rfl) rfl (by simp) rfl rfl
  next => exact h

theorem Sound.answerConnect (h : Sound p.calls [] [] l p) (answer : Except String Condition) :
    InOrder { l with opened := l.opened ++ p.opens (.answerConnect answer) }
      (p.answerConnect answer) := by
  simp only [Pool.answerConnect]
  split
  next owner id login calls hcalls =>
    rw [hcalls] at h
    split
    next =>
      have hgiven : Sound calls [] [] l (p.vacate owner) := h.giveUp (by simp)
      simp only [opens, List.append_nil, InOrder, Progress.session?, calls_vacate]
      refine hgiven.congr ?_ ?_ ?_ ?_ ?_ <;> cases owner <;> intros <;> rfl
    next condition =>
      simp only [opens, hcalls]
      exact (h.open condition).congr rfl rfl rfl rfl fun _ => rfl
  next hother =>
    have hnone : p.opens (.answerConnect answer) = [] := by
      simp only [opens]
      split
      next hcalls => exact (hother _ _ _ _ hcalls).elim
      next => rfl
    rw [hnone, List.append_nil]
    exact h

theorem Sound.settle (h : Sound p.calls [] [] l p) (keep : Option String) :
    InOrder { l with made := l.made ++ p.makes (.settle keep) } p.settle := by
  simp only [Pool.settle]
  split
  next owner login c calls hcalls =>
    rw [hcalls] at h
    simp only [makes, hcalls]
    split
    next hready =>
      have hlogged : Sound (.opened owner login c :: calls) [] [] l
          (((({ p with calls }.record (.isReady c.id)).record (.setAutocommit c.id true)).record
            (.setMessageLevel c.id .ofSessions)).log (.connected login.path)) :=
        h.congr rfl rfl rfl rfl fun _ => rfl
      have hadded := hlogged.addSession
      simp only [InOrder, Progress.session?, calls_addSession]
      exact hadded
    next hready =>
      have hgiven : Sound calls [] [c.id] l (p.vacate owner) := h.giveUp (by simp)
      simp only [List.append_nil, InOrder, Progress.session?, calls_vacate]
      refine hgiven.recordDrop.congr ?_ ?_ ?_ ?_ ?_ <;> cases owner <;> intros <;> rfl
  next hother =>
    have hnone : p.makes (.settle keep) = [] := by
      simp only [makes]
      split
      next hcalls => exact (hother _ _ _ _ hcalls).elim
      next => rfl
    rw [hnone, List.append_nil]
    exact h

theorem Sound.use (h : Sound p.calls [] [] l p) (u : Use) :
    InOrder l (((p.use u).map Prod.fst).getD p, .waiting) := by
  simp only [Pool.use]
  split
  next s calls hcalls =>
    cases hc : (p.session? s).bind Session.connection with
    | none => exact h
    | some c =>
      refine h.congr rfl rfl rfl rfl fun _ => ?_
      cases u <;> rfl
  next => exact h

private theorem enter_of_idle {m : Move} (hopens : p.opens m = []) (hmakes : p.makes m = [])
    (htakes : p.takes m = []) : l.enter p m = l := by
  simp [Ledger.enter, hopens, hmakes, htakes]

theorem Sound.act (h : Sound p.calls [] [] l p) (m : Move) : InOrder (l.enter p m) (p.act m) := by
  cases m with
  | lookup key server keep =>
    rw [enter_of_idle rfl rfl rfl]
    exact h.lookup key server
  | establish server user =>
    rw [enter_of_idle rfl rfl rfl]
    exact h.establish server user
  | answerServer answer =>
    rw [enter_of_idle rfl rfl rfl]
    exact h.answerServer answer
  | answerUser answer =>
    rw [enter_of_idle rfl rfl rfl]
    exact h.answerUser answer
  | answerConnect answer =>
    simpa [Pool.act, Ledger.enter, makes, takes] using h.answerConnect answer
  | settle keep =>
    simpa [Pool.act, Ledger.enter, opens, takes] using h.settle keep
  | beginBorrow handle =>
    rw [enter_of_idle rfl rfl rfl]
    simp only [Pool.act]
    split
    next q hq => exact h.beginBorrow hq
    next => exact h
  | endBorrow =>
    rw [enter_of_idle rfl rfl rfl]
    simp only [InOrder, Pool.act, Progress.session?, Option.toList_none]
    by_cases hborrow : ∃ s calls, p.calls = .borrowing s :: calls
    · obtain ⟨s, calls, hcalls⟩ := hborrow
      rw [calls_endBorrow hcalls]
      rw [hcalls] at h
      exact h.endBorrow hcalls
    · rw [endBorrow_of_idle hborrow]
      exact h
  | use u =>
    rw [enter_of_idle rfl rfl rfl]
    exact h.use u
  | release handle =>
    rw [enter_of_idle rfl rfl rfl]
    simp only [InOrder, Pool.act, Progress.session?, Option.toList_none, calls_release]
    exact h.release handle
  | closeAll =>
    simp only [InOrder, Pool.act, Progress.session?, Option.toList_none, calls_closeAll]
    simpa [Ledger.enter, opens, makes, takes] using h.closeAll.1
  | count =>
    rw [enter_of_idle rfl rfl rfl]
    exact h
  | report event =>
    rw [enter_of_idle rfl rfl rfl]
    exact h.log

theorem Sound.step (h : Sound p.calls [] [] l p) (m : Move) :
    Sound (p.step m).calls [] [] (l.enter p m) (p.step m) := by
  have hact : Sound (p.act m).1.calls (p.result m).toList [] (l.enter p m) (p.act m).1 := h.act m
  simp only [Pool.step]
  split
  next s hs =>
    rw [hs] at hact
    rw [calls_stow]
    exact hact.stow m.keep
  next hs =>
    rw [hs] at hact
    exact hact

/-! ### Runs -/

private theorem sound_start (encoding : String) : Sound [] [] [] {} (start encoding) := by
  constructor
  case marks => simp [start, slot, entries]
  case live => simp [start, slot, entries]
  case inRange => simp [refs, start, entries]
  case fits => simp [session?, start]
  case accounts => simp [dropped, drops, start]
  all_goals simp [start, entries]

/-- Every run of a fresh pool leaves it sound. -/
theorem sound_after (encoding : String) (ms : List Move) :
    Sound ((start encoding).after ms).calls [] [] ((start encoding).ledger ms)
      ((start encoding).after ms) := by
  induction ms using List.reverseRecOn with
  | nil => exact sound_start encoding
  | append_singleton ms m ih =>
    rw [ledger_snoc, after_append]
    exact ih.step m

theorem sound_before (encoding : String) (ms : List Move) (n : Nat) :
    Sound ((start encoding).before ms n).calls [] [] ((start encoding).ledger (ms.take n))
      ((start encoding).before ms n) :=
  sound_after encoding (ms.take n)

end RemoteFirebird.Pool
