import RemoteFirebird.Proofs.Pool.LiveSessions
import RemoteFirebird.Proofs.Pool.Nesting

/-!
# The course of a look-up

A look-up either ends at once or marks its key and waits for answers. Each answer that its call gets
brings it forward, or ends it: with a fault, whose cause is one of five, or with a session. What is
made from inside of the call is made above it on the stack and cannot touch its key.
-/

namespace RemoteFirebird.Pool

open Session

variable {p q : Pool} {m : Move} {key : Key} {s : Nat} {calls : List Call} {c : Call}
  {fault : Fault} {outcome : Except Fault Nat}

/-! ### Answers -/

/-- Moves by which the outside answers the latest call. -/
def Move.isAnswer : Move → Bool
  | answerServer _ => true
  | answerUser _ => true
  | answerConnect _ => true
  | settle _ => true
  | _ => false

/-- The answer with which a call ends in a fault. -/
inductive Cause : Call → Move → Fault → Prop
  | noServerOptions {key : Key} {server : String} (fault : Fault) :
    Cause (.askingServer key server) (.answerServer (.error fault)) fault
  | noUserOptions {key : Key} {server : String} {options : Options.Server} (fault : Fault) :
    Cause (.askingUser key server options) (.answerUser (.error fault)) fault
  | noDatabase {key : Key} {server : String} {options : Options.Server}
    {user : Options.UserMapping} {fault : Options.Fault}
    (hpath : databasePath options = .error fault) :
    Cause (.askingUser key server options) (.answerUser (.ok user)) (.options fault)
  | refused {owner : Option Key} {id : Nat} {login : Login} (message : String) :
    Cause (.connecting owner id login) (.answerConnect (.error message))
      (.notEstablished login.path message)
  | notReady {owner : Option Key} {login : Login} {c : Connection} {keep : Option String}
    (hready : c.condition.ready = false) :
    Cause (.opened owner login c) (.settle keep)
      (.notEstablished login.path c.condition.message)

/-- What an answer does to the latest call, if that is to establish a session for the key. Behind
the latest call are the others. -/
inductive Headway (key : Key) (calls : List Call) (p : Pool) (m : Move) : Pool × Progress → Prop
  /-- The call does not wait for this kind of answer. -/
  | unmoved : Headway key calls p m (p, .waiting)
  | next (c : Call) (attempts : Nat) (history : List Entry) (hkey : c.key? = some key) :
    Headway key calls p m ({ p with calls := c :: calls, attempts, history }, .waiting)
  | fail (history : List Entry) {c : Call} {fault : Fault} (hcalls : p.calls = c :: calls)
    (hcause : Cause c m fault) :
    Headway key calls p m
      ({ p with slots := p.slots.map (assign key .vacant), calls, history },
        .finished (.error fault))
  | done (history : List Entry) (path : String) (c : Connection)
    (hsettle : ∃ keep, m = .settle keep) :
    Headway key calls p m
      ({ p with
          slots := p.slots.map (assign key (.live p.sessions.length))
          sessions := p.sessions ++ [{ Session.fresh path c with holders := 2 }]
          calls, history },
        .finished (.ok p.sessions.length))

private theorem headway_answerServer (answer : Except Fault Options.Server)
    (hcalls : p.calls = c :: calls) (hc : c.key? = some key) :
    Headway key calls p (.answerServer answer) (p.answerServer answer) := by
  simp only [answerServer]
  split
  next k server calls' hcalls' =>
    obtain ⟨rfl, rfl⟩ := List.cons.inj (hcalls.symm.trans hcalls')
    obtain rfl : k = key := Option.some.inj hc
    cases answer with
    | error fault => exact .fail _ hcalls (.noServerOptions fault)
    | ok options => exact .next _ _ _ rfl
  next => exact .unmoved

private theorem headway_answerUser (answer : Except Fault Options.UserMapping)
    (hcalls : p.calls = c :: calls) (hc : c.key? = some key) :
    Headway key calls p (.answerUser answer) (p.answerUser answer) := by
  simp only [answerUser]
  split
  next k server options calls' hcalls' =>
    obtain ⟨rfl, rfl⟩ := List.cons.inj (hcalls.symm.trans hcalls')
    obtain rfl : k = key := Option.some.inj hc
    cases answer with
    | error fault => exact .fail _ hcalls (.noUserOptions fault)
    | ok user =>
      simp only [connect]
      split
      next fault hpath => exact .fail _ hcalls (.noDatabase hpath)
      next path hpath => exact .next (.connecting (some k) _ _) _ _ rfl
  next => exact .unmoved

private theorem headway_answerConnect (answer : Except String Condition)
    (hcalls : p.calls = c :: calls) (hc : c.key? = some key) :
    Headway key calls p (.answerConnect answer) (p.answerConnect answer) := by
  simp only [answerConnect]
  split
  next owner id login calls' hcalls' =>
    obtain ⟨rfl, rfl⟩ := List.cons.inj (hcalls.symm.trans hcalls')
    obtain rfl : owner = some key := hc
    cases answer with
    | error message => exact .fail _ hcalls (.refused message)
    | ok condition => exact .next (.opened (some key) _ _) _ _ rfl
  next => exact .unmoved

private theorem headway_settle (keep : Option String) (hcalls : p.calls = c :: calls)
    (hc : c.key? = some key) : Headway key calls p (.settle keep) p.settle := by
  simp only [settle]
  split
  next owner login connection calls' hcalls' =>
    obtain ⟨rfl, rfl⟩ := List.cons.inj (hcalls.symm.trans hcalls')
    obtain rfl : owner = some key := hc
    split
    next hready =>
      have hadded : ∀ xs : List Session,
          (xs ++ [Session.fresh login.path connection]).modify xs.length
            (fun x => { x with holders := x.holders + 1 }) =
            xs ++ [{ Session.fresh login.path connection with holders := 2 }] := by
        intro xs
        simp [List.modify_eq_set_getElem?, Session.fresh]
      have hdone : Headway key calls p (.settle keep) _ :=
        .done (.single (.logged (.connected login.path)) ::
          .single (.setMessageLevel connection.id .ofSessions) ::
          .single (.setAutocommit connection.id true) ::
          .single (.isReady connection.id) :: p.history) login.path connection ⟨keep, rfl⟩
      rw [← hadded] at hdone
      exact hdone
    next hready => exact .fail _ hcalls (.notReady (by simpa using hready))
  next => exact .unmoved

theorem headway_act (hcalls : p.calls = c :: calls) (hc : c.key? = some key)
    (hm : m.isAnswer = true) : Headway key calls p m (p.act m) := by
  cases m with
  | answerServer answer => exact headway_answerServer answer hcalls hc
  | answerUser answer => exact headway_answerUser answer hcalls hc
  | answerConnect answer => exact headway_answerConnect answer hcalls hc
  | settle keep => exact headway_settle keep hcalls hc
  | _ => simp [Move.isAnswer] at hm

private theorem isAnswer_of_finished (hend : (p.act m).2 = .finished outcome)
    (hlen : (p.act m).1.calls.length < p.calls.length) : m.isAnswer = true := by
  cases m with
  | lookup key server keep =>
    simp only [act, lookup] at hend hlen
    split at hlen
    next => simp at hlen
    next => simp [retain, modifySession] at hlen
    next hvacant => simp [hvacant] at hend
  | establish server user =>
    simp only [act, establish, connect] at hend hlen
    split at hlen
    next => simp at hlen
    next hpath => simp [hpath] at hend
  | beginBorrow handle =>
    simp only [act] at hend
    split at hend <;> simp at hend
  | answerServer answer => rfl
  | answerUser answer => rfl
  | answerConnect answer => rfl
  | settle keep => rfl
  | _ => simp [act] at hend

/-! ### First moves -/

theorem lookup_of_pending (server : String) (hs : p.slot key = .pending) :
    p.lookup key server = (p, .finished (.error (.inProgress server))) := by
  have hne : p.slot key ≠ .vacant := by simp [hs]
  obtain ⟨es, hes⟩ := Option.isSome_iff_exists.mp (isSome_slots_of_slot_ne hne)
  have hprep : p.prepare = p := by simp [prepare, hes]
  simp only [lookup, hprep, hs]

theorem act_lookup_of_live (server : String) (keep : Option String) (hs : p.slot key = .live s) :
    p.act (.lookup key server keep) = (p.prepare.retain s, .finished (.ok s)) := by
  simp only [act, lookup, slot_prepare, hs]

theorem act_lookup_of_vacant (server : String) (keep : Option String)
    (hs : p.slot key = .vacant) :
    ∃ history, p.act (.lookup key server keep) =
      ({ p with
          slots := some (assign key .pending p.entries)
          calls := .askingServer key server :: p.calls
          history },
        .waiting) := by
  obtain ⟨_, slots, _, _, _, _, _⟩ := p
  simp only [act, lookup, slot_prepare, hs]
  cases slots <;> exact ⟨_, rfl⟩

/-! ### Whole look-ups -/

/-- The look-up of `key` that begins with move `i` ends with move `j`, in a session or a fault. -/
structure Ended (p : Pool) (ms : List Move) (i j : Nat) (key : Key)
    (outcome : Except Fault Nat) : Prop where
  begins : ∃ server keep, ms[i]? = some (.lookup key server keep)
  le : i ≤ j
  waits : i < j → UnderWay p ms i j
  ends : ∃ m, ms[j]? = some m ∧ ((p.before ms j).act m).2 = .finished outcome
  leaves : (p.before ms (j + 1)).calls.length ≤ (p.before ms i).calls.length

section

variable {ms : List Move} {i j : Nat}

theorem Returned.ended (h : Returned p ms i j key s) : Ended p ms i j key (.ok s) := by
  obtain ⟨m, hm, hs⟩ := h.returns
  refine ⟨h.begins, h.le, fun hlt => ⟨hlt, h.waits⟩, ⟨m, hm, ?_⟩, h.ends⟩
  simp only [result] at hs
  cases hact : ((p.before ms j).act m).2 with
  | waiting => simp [hact, Progress.session?] at hs
  | finished outcome =>
    cases outcome with
    | error fault => simp [hact, Progress.session?] at hs
    | ok t => simpa [hact, Progress.session?] using hs

theorem Ended.establishing {n : Nat} (h : Ended p ms i j key outcome) (hi : i < n) (hj : n ≤ j) :
    Establishing p ms i n key := by
  have hway := h.waits (Nat.lt_of_lt_of_le hi hj)
  exact ⟨h.begins, hi, fun k hk hkn => hway.above k hk (Nat.le_trans hkn hj)⟩

theorem Establishing.slot_eq_vacant {n : Nat} (h : Establishing p ms i n key) :
    (p.before ms i).slot key = .vacant := by
  obtain ⟨⟨server, keep, hbegin⟩, hway⟩ := h
  have hlen := hway.above (i + 1) (Nat.lt_succ_self i) hway.lt
  rw [before_succ hbegin, calls_step] at hlen
  cases hslot : (p.before ms i).slot key with
  | vacant => rfl
  | pending => simp [act, lookup_of_pending server hslot] at hlen
  | live s => simp [act_lookup_of_live server keep hslot, retain, modifySession] at hlen

theorem Ended.eq_of_slot_ne (h : Ended p ms i j key outcome)
    (hs : (p.before ms i).slot key ≠ .vacant) : j = i := by
  by_contra hne
  have hlt : i < j := Nat.lt_of_le_of_ne h.le (Ne.symm hne)
  exact hs (h.establishing hlt (Nat.le_refl j)).slot_eq_vacant

theorem Ended.lt_of_vacant (h : Ended p ms i j key outcome)
    (hs : (p.before ms i).slot key = .vacant) : i < j := by
  refine Nat.lt_of_le_of_ne h.le fun heq => ?_
  subst heq
  obtain ⟨server, keep, hbegin⟩ := h.begins
  obtain ⟨m, hm, hend⟩ := h.ends
  obtain rfl : m = .lookup key server keep := Option.some.inj (hm.symm.trans hbegin)
  obtain ⟨history, hact⟩ := act_lookup_of_vacant server keep hs
  simp [hact] at hend

/-- While nothing is made from inside of it, the call of a look-up is the latest. -/
theorem Establishing.top {n : Nat} (h : Establishing p ms i n key)
    (hlen : (p.before ms n).calls.length ≤ (p.before ms i).calls.length + 1) :
    ∃ c, (p.before ms n).calls = c :: (p.before ms i).calls ∧ c.key? = some key := by
  obtain ⟨fs, c, hcalls, hc⟩ := h.frame
  have hlength := congrArg List.length hcalls
  rw [List.length_append, List.length_cons] at hlength
  have hfs : fs = [] := List.eq_nil_of_length_eq_zero (by omega)
  subst hfs
  exact ⟨c, hcalls, hc⟩

theorem Ended.last (h : Ended p ms i j key outcome) (hlt : i < j) :
    ∃ m c, ms[j]? = some m ∧ m.isAnswer = true ∧
      (p.before ms j).calls = c :: (p.before ms i).calls ∧ c.key? = some key := by
  obtain ⟨m, hm, hend⟩ := h.ends
  have hleaves := h.leaves
  rw [before_succ hm] at hleaves
  have hle := (turn_step (p.before ms j) m).length_le
  obtain ⟨c, hcalls, hc⟩ := (h.establishing hlt (Nat.le_refl j)).top (by omega)
  refine ⟨m, c, hm, isAnswer_of_finished hend ?_, hcalls, hc⟩
  rw [← calls_step, hcalls, List.length_cons]
  omega

/-- A look-up that had to wait ends as its last answer makes its call end. -/
theorem Ended.headway (h : Ended p ms i j key outcome) (hlt : i < j) :
    ∃ m q, ms[j]? = some m ∧ (p.before ms j).act m = (q, .finished outcome) ∧
      Headway key (p.before ms i).calls (p.before ms j) m (q, .finished outcome) := by
  obtain ⟨m, c, hm, hanswer, hcalls, hc⟩ := h.last hlt
  obtain ⟨m', hm', hend⟩ := h.ends
  obtain rfl : m' = m := Option.some.inj (hm'.symm.trans hm)
  have hway := headway_act hcalls hc hanswer
  have hact : (p.before ms j).act m' = (((p.before ms j).act m').1, .finished outcome) :=
    Prod.ext rfl hend
  exact ⟨m', _, hm, hact, hact ▸ hway⟩

end

/-- A key is marked just while a session for it is being established. -/
theorem pending_iff_establishing {encoding : String} {ms : List Move} {n : Nat} :
    ((start encoding).before ms n).slot key = .pending ↔
      ∃ i, Establishing (start encoding) ms i n key := by
  rw [exists_establishing_iff]
  exact (sound_before encoding ms n).pending_iff

/-- The slot of a look-up that had to wait, once it has ended: vacant after a fault, and filled with
the session otherwise. -/
theorem Ended.slot {encoding : String} {ms : List Move} {i j : Nat}
    (h : Ended (start encoding) ms i j key outcome) (hlt : i < j) :
    ((start encoding).before ms (j + 1)).slot key =
      match outcome with
      | .error _ => .vacant
      | .ok s => .live s := by
  obtain ⟨m, q, hm, hact, hway⟩ := h.headway hlt
  have hpending : ((start encoding).before ms j).slot key = .pending :=
    pending_iff_establishing.mpr ⟨i, h.establishing hlt (Nat.le_refl j)⟩
  have hne : ((start encoding).before ms j).slot key ≠ .vacant := by simp [hpending]
  have hset : ∀ v : Slot, q.slots = (((start encoding).before ms j).setSlot key v).slots →
      ((start encoding).before ms (j + 1)).slot key = v := by
    intro v hq
    have hstep := slots_step ((start encoding).before ms j) m
    rw [hact] at hstep
    rw [before_succ hm, slot_congr (hstep.trans hq), slot_setSlot (isSome_slots_of_slot_ne hne),
      if_pos rfl]
  cases hway with
  | fail => exact hset .vacant rfl
  | done => exact hset (.live _) rfl

end RemoteFirebird.Pool
