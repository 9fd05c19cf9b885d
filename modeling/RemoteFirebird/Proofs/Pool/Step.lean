import RemoteFirebird.Proofs.Pool.Reachable

/-!
# Single moves

What one move can do to the slots and to the stack of calls, and how it can end a call with a
session. Only a closing of all sessions takes a session out of its slot, and only the latest call
is ever touched.
-/

namespace RemoteFirebird.Pool

open Session

variable {p q : Pool} {m : Move} {l : Ledger} {key : Key} {s : Nat}

/-! ### Slots -/

theorem slot_congr (h : q.slots = p.slots) : q.slot = p.slot := by
  funext k
  rw [slot, slot, entries, entries, h]

@[simp] theorem slots_dropConnection (p : Pool) (s : Nat) :
    (p.dropConnection s).slots = p.slots := by
  simp only [dropConnection]
  split <;> rfl

@[simp] theorem slots_letGo (p : Pool) (s : Nat) : (p.letGo s).slots = p.slots := by
  simp only [letGo]
  split
  · rw [slots_dropConnection]
    rfl
  · rfl

@[simp] theorem slots_stow (p : Pool) (s : Nat) (keep : Option String) :
    (p.stow s keep).slots = p.slots := by
  cases keep with
  | none => exact slots_letGo p s
  | some handle => cases h : p.handles.lookup handle <;> simp [stow, h]

@[simp] theorem slots_release (p : Pool) (handle : String) :
    (p.release handle).1.slots = p.slots := by
  cases h : p.handles.lookup handle <;> simp [release, h]

@[simp] theorem slots_endBorrow (p : Pool) : p.endBorrow.slots = p.slots := by
  simp only [endBorrow]
  split
  · rw [slots_letGo]
    split
    · split
      · rw [slots_dropConnection]
        rfl
      · rfl
    · rfl
  · rfl

@[simp] theorem slot_prepare (p : Pool) : p.prepare.slot = p.slot := by
  cases hp : p.slots with
  | some es => simp [prepare, hp]
  | none =>
    funext k
    simp [prepare, hp, slot, entries]

private theorem slot_setSlot_of_live {k : Key} {v : Slot} (hs : p.slot key = .live s)
    (hk : ∀ t, p.slot k ≠ .live t) : (p.setSlot k v).slot key = .live s := by
  have hne : p.slot key ≠ .vacant := by simp [hs]
  have hkey : key ≠ k := by
    intro heq
    subst heq
    exact hk s hs
  rw [slot_setSlot (isSome_slots_of_slot_ne hne), if_neg hkey, hs]

/-- Puts a session into the slot of its owner, if it has one. -/
def occupy (p : Pool) (owner : Option Key) (s : Nat) : Pool :=
  match owner with
  | some key => p.setSlot key (.live s)
  | none => p

private theorem Sound.slot_of_key {calls : List Call} {c : Call} (h : Sound p.calls [] [] l p)
    (hcalls : p.calls = c :: calls) (hs : p.slot key = .live s) :
    (p.vacate c.key?).slot key = .live s ∧ ∀ t, (p.occupy c.key? t).slot key = .live s := by
  cases hk : c.key? with
  | none => exact ⟨hs, fun _ => hs⟩
  | some k =>
    have hpending := h.pending_of_mem (hcalls ▸ List.mem_cons_self) hk
    have hnot : ∀ t, p.slot k ≠ .live t := by simp [hpending]
    exact ⟨slot_setSlot_of_live hs hnot, fun t => slot_setSlot_of_live hs hnot⟩

/-! ### Turns -/

/-- What a call is for, whatever stage it has come to: a session, which the pool keeps for the owner
if there is one, or the borrow of a session. -/
inductive Aim
  | session (owner : Option Key)
  | borrow (session : Nat)
  deriving DecidableEq

def Call.aim : Call → Aim
  | askingServer key _ => .session (some key)
  | askingUser key _ _ => .session (some key)
  | connecting owner _ _ => .session owner
  | opened owner _ _ => .session owner
  | borrowing s => .borrow s

theorem Call.aim_eq_session {c : Call} : c.aim = .session (some key) ↔ c.key? = some key := by
  cases c <;> simp [Call.aim, Call.key?]

theorem Call.aim_eq_borrow {c : Call} : c.aim = .borrow s ↔ c = .borrowing s := by
  cases c <;> simp [Call.aim]

/-- What a move is about to begin. -/
def Starts (p : Pool) : Move → Aim → Prop
  | .lookup key _ _, aim => aim = .session (some key)
  | .establish .., aim => aim = .session none
  | .beginBorrow handle, aim => ∃ s, p.handles.lookup handle = some s ∧ aim = .borrow s
  | _, _ => False

/-- What a move does to the slots and to the stack of calls, and the session with which it ends a
call, if it does. -/
inductive Turn (p : Pool) : Move → Pool → Option Nat → Prop
  | stay {m : Move} {q : Pool} (hcalls : q.calls = p.calls) (hslot : q.slot = p.slot) :
    Turn p m q none
  | hit {key : Key} {server : String} {keep : Option String} {q : Pool} {s : Nat}
    (hlive : p.slot key = .live s) (hcalls : q.calls = p.calls) (hslot : q.slot = p.slot) :
    Turn p (.lookup key server keep) q (some s)
  | mark {key : Key} {server : String} {keep : Option String} {q : Pool}
    (hvacant : p.slot key = .vacant) (hcalls : q.calls = .askingServer key server :: p.calls)
    (hslot : q.slot = (p.prepare.setSlot key .pending).slot) :
    Turn p (.lookup key server keep) q none
  | push {m : Move} {q : Pool} {c : Call} (hkey : ∀ key server keep, m ≠ .lookup key server keep)
    (hstarts : p.Starts m c.aim) (hcalls : q.calls = c :: p.calls) (hslot : q.slot = p.slot) :
    Turn p m q none
  | change {m : Move} {q : Pool} {c c' : Call} {calls : List Call} (hcalls : p.calls = c :: calls)
    (hcalls' : q.calls = c' :: calls) (haim : c'.aim = c.aim) (hslot : q.slot = p.slot) :
    Turn p m q none
  | giveUp {m : Move} {q : Pool} {c : Call} {calls : List Call} (hcalls : p.calls = c :: calls)
    (hcalls' : q.calls = calls) (hslot : q.slot = (p.vacate c.key?).slot) : Turn p m q none
  | fill {keep : Option String} {q : Pool} {owner : Option Key} {login : Login} {c : Connection}
    {calls : List Call} (hcalls : p.calls = .opened owner login c :: calls)
    (hcalls' : q.calls = calls) (hslot : q.slot = (p.occupy owner p.sessions.length).slot) :
    Turn p (.settle keep) q (some p.sessions.length)
  | takeAll {q : Pool} (hcalls : q.calls = p.calls) : Turn p .closeAll q none

theorem Turn.congr {q' : Pool} {r : Option Nat} (h : Turn p m q r) (hcalls : q'.calls = q.calls)
    (hslot : q'.slot = q.slot) : Turn p m q' r := by
  cases h with
  | stay h₁ h₂ => exact .stay (hcalls.trans h₁) (hslot.trans h₂)
  | hit hlive h₁ h₂ => exact .hit hlive (hcalls.trans h₁) (hslot.trans h₂)
  | mark hvacant h₁ h₂ => exact .mark hvacant (hcalls.trans h₁) (hslot.trans h₂)
  | push hkey hstarts h₁ h₂ => exact .push hkey hstarts (hcalls.trans h₁) (hslot.trans h₂)
  | change h h₁ haim h₂ => exact .change h (hcalls.trans h₁) haim (hslot.trans h₂)
  | giveUp h h₁ h₂ => exact .giveUp h (hcalls.trans h₁) (hslot.trans h₂)
  | fill h h₁ h₂ => exact .fill h (hcalls.trans h₁) (hslot.trans h₂)
  | takeAll h₁ => exact .takeAll (hcalls.trans h₁)

private theorem turn_lookup (server : String) (keep : Option String) :
    Turn p (.lookup key server keep) (p.lookup key server).1 (p.lookup key server).2.session? := by
  simp only [lookup, slot_prepare]
  split
  next => exact .stay (calls_prepare p) (slot_prepare p)
  next s hs => exact .hit hs (calls_prepare p) (slot_prepare p)
  next hs =>
    refine .mark hs ?_ rfl
    show _ :: p.prepare.calls = _
    rw [calls_prepare]

private theorem turn_answerServer (answer : Except Fault Options.Server) :
    Turn p (.answerServer answer) (p.answerServer answer).1
      (p.answerServer answer).2.session? := by
  simp only [answerServer]
  split
  next key server calls hcalls =>
    cases answer with
    | error fault => exact .giveUp hcalls rfl rfl
    | ok options => exact .change hcalls rfl rfl rfl
  next => exact .stay rfl rfl

private theorem turn_answerUser (answer : Except Fault Options.UserMapping) :
    Turn p (.answerUser answer) (p.answerUser answer).1 (p.answerUser answer).2.session? := by
  simp only [answerUser]
  split
  next key server options calls hcalls =>
    cases answer with
    | error fault => exact .giveUp hcalls rfl rfl
    | ok user =>
      simp only [connect]
      split
      next => exact .giveUp hcalls rfl rfl
      next => exact .change hcalls rfl rfl rfl
  next => exact .stay rfl rfl

private theorem turn_answerConnect (answer : Except String Condition) :
    Turn p (.answerConnect answer) (p.answerConnect answer).1
      (p.answerConnect answer).2.session? := by
  simp only [answerConnect]
  split
  next owner id login calls hcalls =>
    cases answer with
    | error message => cases owner <;> exact .giveUp hcalls rfl rfl
    | ok condition => exact .change hcalls rfl rfl rfl
  next => exact .stay rfl rfl

private theorem turn_settle (keep : Option String) :
    Turn p (.settle keep) p.settle.1 p.settle.2.session? := by
  simp only [settle]
  split
  next owner login c calls hcalls =>
    split
    next => cases owner <;> exact .fill hcalls rfl rfl
    next => cases owner <;> exact .giveUp hcalls rfl rfl
  next => exact .stay rfl rfl

theorem turn_act (p : Pool) (m : Move) : Turn p m (p.act m).1 (p.result m) := by
  cases m with
  | lookup key server keep => exact turn_lookup server keep
  | establish server user =>
    simp only [result, act, establish, connect]
    split
    next => exact .stay rfl rfl
    next path _ =>
      exact .push (c := .connecting none (p.attempts + 1) ⟨path, _, _, _⟩) (by simp) rfl rfl rfl
  | answerServer answer => exact turn_answerServer answer
  | answerUser answer => exact turn_answerUser answer
  | answerConnect answer => exact turn_answerConnect answer
  | settle keep => exact turn_settle keep
  | beginBorrow handle =>
    simp only [result, act]
    split
    next q hq =>
      obtain ⟨t, x, ht, -, -, -, -, rfl⟩ := beginBorrow_eq_some hq
      exact .push (by simp) ⟨t, ht, rfl⟩ rfl rfl
    next => exact .stay rfl rfl
  | endBorrow =>
    by_cases hborrow : ∃ s calls, p.calls = .borrowing s :: calls
    · obtain ⟨t, calls, hcalls⟩ := hborrow
      exact .giveUp hcalls (calls_endBorrow hcalls) (slot_congr (slots_endBorrow p))
    · have hidle : (p.act .endBorrow).1 = p := endBorrow_of_idle hborrow
      rw [hidle]
      exact .stay rfl rfl
  | use u =>
    simp only [result, act, use]
    split
    next t calls hcalls =>
      cases hc : (p.session? t).bind Session.connection <;> exact .stay rfl rfl
    next => exact .stay rfl rfl
  | release handle => exact .stay (calls_release p handle) (slot_congr (slots_release p handle))
  | closeAll => exact .takeAll (calls_closeAll p)
  | count => exact .stay rfl rfl
  | report event => exact .stay rfl rfl

/-- The client that takes a session over touches neither the slots nor the stack of calls. -/
theorem calls_step (p : Pool) (m : Move) : (p.step m).calls = (p.act m).1.calls := by
  simp only [step]
  split
  · rw [calls_stow]
  · rfl

theorem slots_step (p : Pool) (m : Move) : (p.step m).slots = (p.act m).1.slots := by
  simp only [step]
  split
  · rw [slots_stow]
  · rfl

theorem turn_step (p : Pool) (m : Move) : Turn p m (p.step m) (p.result m) :=
  (turn_act p m).congr (calls_step p m) (slot_congr (slots_step p m))

/-! ### What follows from turns -/

variable {r : Option Nat}

private theorem Turn.slot_of_live (hturn : Turn p m q r) (h : Sound p.calls [] [] l p)
    (hs : p.slot key = .live s) (hm : m ≠ .closeAll) : q.slot key = .live s := by
  cases hturn with
  | stay _ hslot => rw [hslot, hs]
  | hit _ _ hslot => rw [hslot, hs]
  | mark hvacant _ hslot =>
    rw [← slot_prepare] at hs hvacant
    rw [hslot]
    exact slot_setSlot_of_live hs (by simp [hvacant])
  | push _ _ _ hslot => rw [hslot, hs]
  | change _ _ _ hslot => rw [hslot, hs]
  | giveUp hcalls _ hslot =>
    rw [hslot]
    exact (h.slot_of_key hcalls hs).1
  | fill hcalls _ hslot =>
    rw [hslot]
    exact (h.slot_of_key hcalls hs).2 _
  | takeAll => exact (hm rfl).elim

/-- A session stays in its slot, whatever is done but closing all sessions. -/
theorem Sound.slot_step (h : Sound p.calls [] [] l p) (hs : p.slot key = .live s)
    (hm : m ≠ .closeAll) : (p.step m).slot key = .live s :=
  (turn_step p m).slot_of_live h hs hm

/-- Below the latest call the stack is left alone. -/
theorem Turn.tail_suffix {r : Option Nat} (h : Turn p m q r) : p.calls.tail <:+ q.calls := by
  cases h with
  | stay hcalls => exact hcalls ▸ List.tail_suffix p.calls
  | hit _ hcalls => exact hcalls ▸ List.tail_suffix p.calls
  | mark _ hcalls => exact hcalls ▸ (List.tail_suffix p.calls).trans (List.suffix_cons _ _)
  | push _ _ hcalls => exact hcalls ▸ (List.tail_suffix p.calls).trans (List.suffix_cons _ _)
  | change hcalls hcalls' =>
    rw [hcalls, hcalls']
    exact List.suffix_cons _ _
  | giveUp hcalls hcalls' =>
    rw [hcalls, hcalls']
    exact List.suffix_refl _
  | fill hcalls hcalls' =>
    rw [hcalls, hcalls']
    exact List.suffix_refl _
  | takeAll hcalls => exact hcalls ▸ List.tail_suffix p.calls

/-- A call stays where it is on the stack until the stack gets shorter than that. -/
theorem Turn.above {base fs : List Call} {c : Call} (hturn : Turn p m q r)
    (hcalls : p.calls = fs ++ c :: base) (hlen : base.length < q.calls.length) :
    ∃ fs' c', q.calls = fs' ++ c' :: base ∧ c'.aim = c.aim := by
  have hkeep : q.calls = p.calls → ∃ fs' c', q.calls = fs' ++ c' :: base ∧ c'.aim = c.aim :=
    fun h => ⟨fs, c, h.trans hcalls, rfl⟩
  have hpush : ∀ d, q.calls = d :: p.calls →
      ∃ fs' c', q.calls = fs' ++ c' :: base ∧ c'.aim = c.aim :=
    fun d h => ⟨d :: fs, c, by rw [h, hcalls, List.cons_append], rfl⟩
  have hpop : ∀ d, p.calls = d :: q.calls →
      ∃ fs' c', q.calls = fs' ++ c' :: base ∧ c'.aim = c.aim := by
    intro d h
    rw [hcalls] at h
    cases fs with
    | nil =>
      obtain ⟨-, rfl⟩ := List.cons.inj h
      exact (Nat.lt_irrefl _ hlen).elim
    | cons f fs => exact ⟨fs, c, (List.cons.inj h).2.symm, rfl⟩
  cases hturn with
  | stay h => exact hkeep h
  | hit _ h => exact hkeep h
  | mark _ h => exact hpush _ h
  | push _ _ h => exact hpush _ h
  | change h h' haim =>
    rw [hcalls] at h
    cases fs with
    | nil =>
      obtain ⟨rfl, rfl⟩ := List.cons.inj h
      exact ⟨[], _, h', haim⟩
    | cons f fs =>
      obtain ⟨-, rfl⟩ := List.cons.inj h
      exact ⟨_ :: fs, c, h', rfl⟩
  | giveUp h h' => exact hpop _ (h' ▸ h)
  | fill h h' => exact hpop _ (h' ▸ h)
  | takeAll h => exact hkeep h

theorem Turn.below {base fs : List Call} {c : Call} (hturn : Turn p m q r)
    (hcalls : q.calls = fs ++ c :: base) :
    (base = p.calls ∧ p.Starts m c.aim) ∨
      ∃ fs' c', p.calls = fs' ++ c' :: base ∧ c'.aim = c.aim := by
  have hkeep : q.calls = p.calls → ∃ fs' c', p.calls = fs' ++ c' :: base ∧ c'.aim = c.aim :=
    fun h => ⟨fs, c, h.symm.trans hcalls, rfl⟩
  have hpush : ∀ d, q.calls = d :: p.calls → p.Starts m d.aim →
      (base = p.calls ∧ p.Starts m c.aim) ∨
        ∃ fs' c', p.calls = fs' ++ c' :: base ∧ c'.aim = c.aim := by
    intro d h hstarts
    rw [hcalls] at h
    cases fs with
    | nil =>
      obtain ⟨rfl, rfl⟩ := List.cons.inj h
      exact .inl ⟨rfl, hstarts⟩
    | cons f fs => exact .inr ⟨fs, c, (List.cons.inj h).2.symm, rfl⟩
  have hpop : ∀ d, p.calls = d :: q.calls →
      ∃ fs' c', p.calls = fs' ++ c' :: base ∧ c'.aim = c.aim :=
    fun d h => ⟨d :: fs, c, by rw [h, hcalls, List.cons_append], rfl⟩
  cases hturn with
  | stay h => exact .inr (hkeep h)
  | hit _ h => exact .inr (hkeep h)
  | mark _ h => exact hpush _ h rfl
  | push _ hstarts h => exact hpush _ h hstarts
  | change h h' haim =>
    rw [hcalls] at h'
    right
    cases fs with
    | nil =>
      obtain ⟨rfl, rfl⟩ := List.cons.inj h'
      exact ⟨[], _, h, haim.symm⟩
    | cons f fs =>
      obtain ⟨-, rfl⟩ := List.cons.inj h'
      exact ⟨_ :: fs, c, h, rfl⟩
  | giveUp h h' => exact .inr (hpop _ (h' ▸ h))
  | fill h h' => exact .inr (hpop _ (h' ▸ h))
  | takeAll h => exact .inr (hkeep h)

theorem Turn.length_le (hturn : Turn p m q r) : p.calls.length ≤ q.calls.length + 1 := by
  cases hturn with
  | stay h => simp [h]
  | hit _ h => simp [h]
  | mark _ h => simp [h, Nat.add_assoc]
  | push _ _ h => simp [h, Nat.add_assoc]
  | change h h' => simp [h, h']
  | giveUp h h' => simp [h, h']
  | fill h h' => simp [h, h']
  | takeAll h => simp [h]

/-- A move that makes the stack higher puts the call that it begins on it. -/
theorem Turn.begins (hturn : Turn p m q r) (hlen : p.calls.length < q.calls.length) :
    ∃ c, q.calls = c :: p.calls ∧ p.Starts m c.aim := by
  have hkeep : q.calls ≠ p.calls := by
    intro h
    rw [h] at hlen
    exact Nat.lt_irrefl _ hlen
  have hpop : ∀ d, p.calls ≠ d :: q.calls := by
    intro d h
    rw [h, List.length_cons] at hlen
    omega
  cases hturn with
  | stay h => exact (hkeep h).elim
  | hit _ h => exact (hkeep h).elim
  | mark _ h => exact ⟨_, h, rfl⟩
  | push _ hstarts h => exact ⟨_, h, hstarts⟩
  | change h h' =>
    rw [h, h'] at hlen
    exact (Nat.lt_irrefl _ hlen).elim
  | giveUp h h' => exact (hpop _ (h' ▸ h)).elim
  | fill h h' => exact (hpop _ (h' ▸ h)).elim
  | takeAll h => exact (hkeep h).elim

/-- A call ends with a session either at once, if the session is in its slot, or once the connection
has been set up. -/
theorem result_eq_some (h : p.result m = some s) :
    (∃ key server keep, m = .lookup key server keep ∧ p.slot key = .live s) ∨
      (∃ keep, m = .settle keep) ∧ s = p.sessions.length := by
  have hturn := turn_step p m
  rw [h] at hturn
  generalize p.step m = q at hturn
  cases hturn with
  | hit hlive => exact .inl ⟨_, _, _, rfl, hlive⟩
  | fill => exact .inr ⟨⟨_, rfl⟩, rfl⟩

theorem Sound.mem_takes_closeAll (h : Sound p.calls [] [] l p) :
    s ∈ p.takes .closeAll ↔ ∃ key, p.slot key = .live s := by
  simp only [takes, List.mem_map]
  constructor
  · intro hex
    obtain ⟨e, he, rfl⟩ := hex
    exact ⟨e.1, (mem_kept h.entries_nodup).mp he⟩
  · intro hex
    obtain ⟨key, hkey⟩ := hex
    exact ⟨(key, s), (mem_kept h.entries_nodup).mpr hkey, rfl⟩

end RemoteFirebird.Pool
