import Mathlib.Tactic.IntervalCases
import RemoteFirebird.Proofs.Pool.Reentry

/-!
# What a look-up touches

The moves of a look-up are its first one and the answers that its call gets; what else happens while
it waits is made from inside of it. Its own moves touch the slot of its key and no other, and no
session that is there already. A look-up that fails leaves its slot as it was, so that nothing
stands in the way of the next one.
-/

namespace RemoteFirebird.Pool

open Session

variable {p q : Pool} {m : Move} {ms : List Move} {i j n : Nat} {key : Key} {s : Nat}
  {calls : List Call} {c : Call} {fault : Fault} {outcome : Except Fault Nat}

/-! ### Slots that hold no session -/

private theorem filterMap_assign_of_not_live {v : Slot} {es : List (Key × Slot)}
    (hes : ∀ s, es.lookup key ≠ some (.live s)) (hv : ∀ s, v ≠ .live s) :
    (assign key v es).filterMap keptAs = es.filterMap keptAs := by
  have hnone : ∀ w : Slot, (∀ s, w ≠ .live s) → keptAs (key, w) = none := by
    intro w hw
    cases w with
    | live s => exact (hw s rfl).elim
    | _ => rfl
  induction es with
  | nil => simp [assign, hnone v hv]
  | cons e es ih =>
    obtain ⟨k, w⟩ := e
    by_cases hk : k = key
    · subst k
      have hw : keptAs (key, w) = none := hnone w fun s hs => hes s (by simp [hs])
      simp [assign, hnone v hv, hw]
    · have hne : (key == k) = false := by simpa using Ne.symm hk
      have ih' := ih fun s => by simpa [List.lookup_cons, hne] using hes s
      simp [assign, hk, List.filterMap_cons, ih']

private theorem count_eq_of_entries {v : Slot} (hq : q.entries = assign key v p.entries)
    (hs : ∀ s, p.slot key ≠ .live s) (hv : ∀ s, v ≠ .live s) : q.count = p.count := by
  have hes : ∀ s, p.entries.lookup key ≠ some (.live s) :=
    fun s h => hs s (lookup_eq_some_live.mp h)
  rw [count, count, kept_eq_filterMap, kept_eq_filterMap, hq, filterMap_assign_of_not_live hes hv]

private theorem slots_of_pending (hs : p.slot key = .pending) :
    p.slots = some (assign key .pending p.entries) := by
  have hne : p.slot key ≠ .vacant := by simp [hs]
  obtain ⟨es, hes⟩ := Option.isSome_iff_exists.mp (isSome_slots_of_slot_ne hne)
  have hentries : p.entries = es := by simp [entries, hes]
  have hlook : p.entries.lookup key = some .pending := by
    cases h : p.entries.lookup key with
    | none => simp [slot, h] at hs
    | some v => simpa [slot, h] using hs
  rw [assign_of_lookup hlook, hentries, hes]

/-! ### Single moves -/

/-- A move of the look-up that begins with move `i`: its first one, or an answer to its call while
that is the latest one. -/
def Own (p : Pool) (ms : List Move) (i n : Nat) : Prop :=
  n = i ∨ (∃ m, ms[n]? = some m ∧ m.isAnswer = true) ∧
    (p.before ms n).calls.length = (p.before ms i).calls.length + 1

/-- Nothing has changed but the slot of a key, and who holds a session. -/
structure Confined (key : Key) (p q : Pool) : Prop where
  slot : ∀ k, k ≠ key → q.slot k = p.slot k
  session : ∀ s x, p.session? s = some x → ∃ holders, q.session? s = some { x with holders }
  handles : q.handles = p.handles

/-- Nothing has changed but the slot of a key, between states without a session. -/
structure Unfilled (key : Key) (p q : Pool) : Prop extends Confined key p q where
  sessions : q.sessions = p.sessions
  count : q.count = p.count

theorem Confined.refl (key : Key) (p : Pool) : Confined key p p :=
  ⟨fun _ _ => rfl, fun _ x hx => ⟨x.holders, hx⟩, rfl⟩

private theorem Confined.of_slots {v : Slot} (hslots : q.slots = p.slots.map (assign key v))
    (hsome : p.slots.isSome)
    (hsession : ∀ s x, p.session? s = some x → ∃ holders, q.session? s = some { x with holders })
    (hhandles : q.handles = p.handles) : Confined key p q where
  slot k hk := by
    have hset : q.slot = (p.setSlot key v).slot := slot_congr hslots
    rw [hset, slot_setSlot hsome, if_neg hk]
  session := hsession
  handles := hhandles

private theorem confined_lookup (server : String) (keep : Option String) :
    Confined key p (p.act (.lookup key server keep)).1 := by
  cases hs : p.slot key with
  | vacant =>
    obtain ⟨history, hact⟩ := act_lookup_of_vacant server keep hs
    rw [hact]
    refine ⟨fun k hk => ?_, fun s x hx => ⟨x.holders, hx⟩, rfl⟩
    simp [slot, entries, lookup_assign, hk]
  | pending =>
    rw [act, lookup_of_pending server hs]
    exact .refl key p
  | live t =>
    rw [act_lookup_of_live server keep hs]
    have hsame : ∀ s, p.prepare.session? s = p.session? s := by
      intro s
      simp only [prepare]
      split <;> rfl
    refine ⟨fun k _ => congrFun (slot_prepare p) k, fun s x hx => ?_, ?_⟩
    · by_cases hts : t = s
      · exact ⟨x.holders + 1, by simp [retain, hts, hsame, hx]⟩
      · exact ⟨x.holders, by simp [retain, hts, hsame, hx]⟩
    · show p.prepare.handles = p.handles
      simp only [prepare]
      split <;> rfl

private theorem unfilled_lookup (server : String) (keep : Option String)
    (hs : ∀ s, p.slot key ≠ .live s) : Unfilled key p (p.act (.lookup key server keep)).1 := by
  refine ⟨confined_lookup server keep, ?_, ?_⟩
  · cases hslot : p.slot key with
    | live s => exact (hs s hslot).elim
    | pending => rw [act, lookup_of_pending server hslot]
    | vacant =>
      obtain ⟨history, hact⟩ := act_lookup_of_vacant server keep hslot
      rw [hact]
  · cases hslot : p.slot key with
    | live s => exact (hs s hslot).elim
    | pending => rw [act, lookup_of_pending server hslot]
    | vacant =>
      obtain ⟨history, hact⟩ := act_lookup_of_vacant server keep hslot
      rw [hact]
      exact count_eq_of_entries rfl hs (by simp)

private theorem Headway.confined {r : Pool × Progress} (h : Headway key calls p m r)
    (hs : p.slot key = .pending) :
    Confined key p r.1 ∧ ((∀ s, r.2 ≠ .finished (.ok s)) → Unfilled key p r.1) := by
  have hne : p.slot key ≠ .vacant := by simp [hs]
  have hsome := isSome_slots_of_slot_ne hne
  cases h with
  | unmoved => exact ⟨.refl key p, fun _ => ⟨.refl key p, rfl, rfl⟩⟩
  | next c attempts history =>
    have hconf : Confined key p { p with calls := c :: calls, attempts, history } :=
      ⟨fun _ _ => rfl, fun s x hx => ⟨x.holders, hx⟩, rfl⟩
    exact ⟨hconf, fun _ => ⟨hconf, rfl, rfl⟩⟩
  | fail history =>
    have hconf : Confined key p
        { p with slots := p.slots.map (assign key .vacant), calls, history } :=
      .of_slots rfl hsome (fun s x hx => ⟨x.holders, hx⟩) rfl
    refine ⟨hconf, fun _ => ⟨hconf, rfl, ?_⟩⟩
    exact count_eq_of_entries (entries_setSlot hsome) (by simp [hs]) (by simp)
  | done history path connection =>
    refine ⟨.of_slots rfl hsome (fun s x hx => ⟨x.holders, ?_⟩) rfl, fun hno => (hno _ rfl).elim⟩
    have hlt : s < p.sessions.length := (List.getElem?_eq_some_iff.mp hx).1
    simpa [session?, List.getElem?_append_left hlt] using hx

/-! ### Whole look-ups -/

section

variable {encoding : String}

private theorem Headway.calls_of_finished {r : Pool × Progress} (h : Headway key calls p m r)
    (hend : r.2 = .finished outcome) : r.1.calls = calls := by
  cases h with
  | unmoved => simp at hend
  | next => simp at hend
  | fail => rfl
  | done => rfl

private theorem Ended.waiting_of_lt {o : Except Fault Nat} (h : Ended p ms i j key outcome)
    (hj : n < j) (hm : ms[n]? = some m) (hi : i < n)
    (hway : Headway key (p.before ms i).calls (p.before ms n) m ((p.before ms n).act m)) :
    ((p.before ms n).act m).2 ≠ .finished o := by
  intro hend
  have habove := (h.establishing (Nat.lt_succ_of_lt hi) hj).2.above (n + 1)
    (Nat.lt_succ_of_lt hi) (Nat.le_refl _)
  rw [before_succ hm, calls_step, hway.calls_of_finished hend] at habove
  exact Nat.lt_irrefl _ habove

private theorem Ended.headway_own (h : Ended p ms i j key outcome) (hi : i < n) (hj : n ≤ j)
    (hown : Own p ms i n) :
    ∃ m, ms[n]? = some m ∧
      Headway key (p.before ms i).calls (p.before ms n) m ((p.before ms n).act m) := by
  rcases hown with rfl | ⟨⟨m, hm, hanswer⟩, hlen⟩
  · exact (Nat.lt_irrefl _ hi).elim
  · obtain ⟨c, hcalls, hc⟩ := (h.establishing hi hj).top (Nat.le_of_eq hlen)
    exact ⟨m, hm, headway_act hcalls hc hanswer⟩

private theorem Ended.confined (h : Ended (start encoding) ms i j key outcome) (hi : i ≤ n)
    (hj : n ≤ j) (hm : ms[n]? = some m) (hown : Own (start encoding) ms i n) :
    Confined key ((start encoding).before ms n) (((start encoding).before ms n).act m).1 ∧
      ((∀ s, outcome ≠ .ok s) →
        Unfilled key ((start encoding).before ms n) (((start encoding).before ms n).act m).1) := by
  rcases Nat.eq_or_lt_of_le hi with rfl | hlt
  · obtain ⟨server, keep, hbegin⟩ := h.begins
    obtain rfl : m = .lookup key server keep := Option.some.inj (hm.symm.trans hbegin)
    refine ⟨confined_lookup server keep, fun hno => unfilled_lookup server keep fun s hs => ?_⟩
    exact hno s (h.outcome_of_live hs).2
  · obtain ⟨m', hm', hway⟩ := h.headway_own hlt hj hown
    obtain rfl : m' = m := Option.some.inj (hm'.symm.trans hm)
    have hpending := pending_iff_establishing.mpr ⟨i, h.establishing hlt hj⟩
    refine ⟨(hway.confined hpending).1, fun hno => (hway.confined hpending).2 fun s hend => ?_⟩
    rcases Nat.lt_or_eq_of_le hj with hlt' | rfl
    · exact h.waiting_of_lt hlt' hm hlt hway hend
    · obtain ⟨m, hm, hend'⟩ := h.ends
      obtain rfl : m = m' := Option.some.inj (hm.symm.trans hm')
      exact hno s (Progress.finished.inj (hend'.symm.trans hend))

private theorem step_of_act {progress : Progress} (hact : p.act m = (q, progress))
    (hnone : progress.session? = none) : p.step m = q := by
  simp only [step, result, hact, hnone]

private theorem Ended.marked_of_own (h : Ended p ms i j key outcome)
    (hs : (p.before ms i).slot key = .vacant) (hi : i < n) (hj : n ≤ j)
    (hown : ∀ n, i ≤ n → n ≤ j → Own p ms i n) :
    ∃ c attempts history, p.before ms n =
      { p.before ms i with
        slots := some (assign key .pending (p.before ms i).entries)
        calls := c :: (p.before ms i).calls
        attempts, history } := by
  induction hi with
  | refl =>
    obtain ⟨server, keep, hbegin⟩ := h.begins
    obtain ⟨history, hact⟩ := act_lookup_of_vacant server keep hs
    rw [before_succ hbegin, step_of_act hact rfl]
    exact ⟨_, _, _, rfl⟩
  | @step n hi ih =>
    have hlt : n < j := hj
    obtain ⟨c, attempts, history, heq⟩ := ih (Nat.le_of_lt hlt)
    obtain ⟨m, hm, hway⟩ := h.headway_own hi (Nat.le_of_lt hlt) (hown n (Nat.le_of_lt hi) hlt.le)
    have hwaits := fun o => h.waiting_of_lt (o := o) hlt hm hi hway
    rw [before_succ hm]
    generalize hact : (p.before ms n).act m = r at hway hwaits
    cases hway with
    | unmoved =>
      rw [step_of_act hact rfl]
      exact ⟨c, attempts, history, heq⟩
    | next c' attempts' history' =>
      rw [step_of_act hact rfl, heq]
      exact ⟨c', attempts', history', rfl⟩
    | fail => exact (hwaits _ rfl).elim
    | done => exact (hwaits _ rfl).elim

private theorem Ended.eq_of_own (h : Ended p ms i j key (.error fault))
    (hown : ∀ n, i ≤ n → n ≤ j → Own p ms i n) :
    ∃ attempts history, p.before ms (j + 1) =
      { p.before ms i with
        slots := some (assign key ((p.before ms i).slot key) (p.before ms i).entries)
        attempts, history } := by
  obtain ⟨server, keep, hbegin⟩ := h.begins
  cases hs : (p.before ms i).slot key with
  | live s => exact absurd (h.outcome_of_live hs).2 (by simp)
  | pending =>
    obtain ⟨rfl, -⟩ := h.outcome_of_pending hbegin hs
    rw [before_succ hbegin, step_of_pending server keep hs, ← slots_of_pending hs]
    exact ⟨_, _, rfl⟩
  | vacant =>
    have hlt := h.lt_of_vacant hs
    obtain ⟨c, attempts, history, heq⟩ := h.marked_of_own hs hlt (Nat.le_refl j) hown
    obtain ⟨m, q, hm, hact, hway⟩ := h.headway hlt
    rw [before_succ hm, step_of_act hact rfl]
    cases hway with
    | fail history' =>
      refine ⟨attempts, history', ?_⟩
      rw [heq]
      simp [assign_assign]

/-! ### Look-ups that succeed -/

/-- From the first pool on, the latest call gets these answers, which leads to the second pool.
Before each of them, and behind the last, moves are made that leave the stack as it was. -/
inductive Served : Pool → List Move → Pool → Prop
  | inside {p : Pool} (ns : List Move) (hcalls : (p.after ns).calls = p.calls) :
    Served p [] (p.after ns)
  | answer {p q : Pool} {m : Move} {rest : List Move} (ns : List Move)
    (hcalls : (p.after ns).calls = p.calls) (hrest : Served ((p.after ns).step m) rest q) :
    Served p (m :: rest) q

variable {server : String} {options : Options.Server} {user : Options.UserMapping} {path : String}
  {condition : Condition}

private theorem calls_answerServer (options : Options.Server)
    (hcalls : p.calls = .askingServer key server :: calls) :
    (p.step (.answerServer (.ok options))).calls = .askingUser key server options :: calls := by
  rw [calls_step]
  simp only [act, answerServer, hcalls]
  rfl

private theorem calls_answerUser (user : Options.UserMapping)
    (hcalls : p.calls = .askingUser key server options :: calls)
    (hpath : databasePath options = .ok path) :
    ∃ id login, (p.step (.answerUser (.ok user))).calls =
      .connecting (some key) id login :: calls := by
  rw [calls_step]
  simp only [act, answerUser, hcalls, connect, hpath]
  exact ⟨_, _, rfl⟩

private theorem calls_answerConnect {owner : Option Key} {id : Nat} {login : Login}
    (condition : Condition) (hcalls : p.calls = .connecting owner id login :: calls) :
    (p.step (.answerConnect (.ok condition))).calls =
      .opened owner login ⟨id, condition⟩ :: calls := by
  rw [calls_step]
  simp only [act, answerConnect, hcalls]

private theorem result_settle {owner : Option Key} {login : Login} {connection : Connection}
    {keep : Option String} (hcalls : p.calls = .opened owner login connection :: calls)
    (hready : connection.condition.ready = true) : ∃ s, p.result (.settle keep) = some s := by
  simp only [result, act, settle, hcalls, hready, if_true]
  exact ⟨_, rfl⟩

private theorem result_of_served {keep : Option String} (hs : p.slot key = .vacant)
    (hpath : databasePath options = .ok path) (hready : condition.ready = true)
    (hserved : Served (p.step (.lookup key server keep))
      [.answerServer (.ok options), .answerUser (.ok user), .answerConnect (.ok condition)] q) :
    ∃ s, q.result (.settle keep) = some s := by
  obtain ⟨history, hact⟩ := act_lookup_of_vacant server keep hs
  rw [step_of_act hact rfl] at hserved
  cases hserved with
  | answer ns₁ hcalls₁ hserved =>
    have hserver := calls_answerServer options hcalls₁
    cases hserved with
    | answer ns₂ hcalls₂ hserved =>
      obtain ⟨id, login, huser⟩ := calls_answerUser user (hcalls₂.trans hserver) hpath
      cases hserved with
      | answer ns₃ hcalls₃ hserved =>
        have hopened := calls_answerConnect condition (hcalls₃.trans huser)
        cases hserved with
        | inside ns₄ hcalls₄ => exact result_settle (hcalls₄.trans hopened) hready

/-! ### All together -/

private theorem length_sessions_le (hle : i ≤ j) :
    ((start encoding).before ms i).sessions.length ≤
      ((start encoding).before ms j).sessions.length := by
  have hlength : ∀ n, ((start encoding).before ms n).sessions.length =
      (gather makes (start encoding) (ms.take n)).length := by
    intro n
    have hmade := congrArg List.length (sound_before encoding ms n).made
    rw [List.length_map, List.length_range] at hmade
    exact hmade.symm
  have htake : (ms.take j).take i = ms.take i := by rw [List.take_take, Nat.min_eq_left hle]
  rw [hlength, hlength, ← List.take_append_drop i (ms.take j), htake, gather_append,
    List.length_append]
  exact Nat.le_add_right _ _

private theorem Ended.session?_eq_none (h : Ended (start encoding) ms i j key (.ok s))
    (hlt : i < j) :
    ((start encoding).before ms i).session? s = none := by
  obtain ⟨m, q, -, -, hway⟩ := h.headway hlt
  cases hway with
  | done => exact List.getElem?_eq_none (length_sessions_le h.le)

private theorem Ended.slot_of_error (h : Ended (start encoding) ms i j key (.error fault)) :
    ((start encoding).before ms (j + 1)).slot key = ((start encoding).before ms i).slot key ∧
      key ∈ ((start encoding).before ms (j + 1)).entries.map Prod.fst := by
  obtain ⟨server, keep, hbegin⟩ := h.begins
  cases hs : ((start encoding).before ms i).slot key with
  | live s => exact absurd (h.outcome_of_live hs).2 (by simp)
  | pending =>
    obtain ⟨rfl, -⟩ := h.outcome_of_pending hbegin hs
    rw [before_succ hbegin, step_of_pending server keep hs]
    refine ⟨hs, ?_⟩
    have hentries := slots_of_pending hs
    rw [entries, hentries]
    exact mem_keys_assign_self key _ _
  | vacant =>
    have hlt := h.lt_of_vacant hs
    refine ⟨h.slot hlt, ?_⟩
    have hpending : ((start encoding).before ms j).slot key = .pending :=
      pending_iff_establishing.mpr ⟨i, h.establishing hlt (Nat.le_refl j)⟩
    obtain ⟨m, q, hm, hact, hway⟩ := h.headway hlt
    rw [before_succ hm, step_of_act hact rfl]
    cases hway with
    | fail =>
      rw [entries, slots_of_pending hpending]
      exact mem_keys_assign_self key _ _

/-- What a look-up does of its own, whatever is made from inside of it. -/
theorem lookup_confined (h : Ended (start encoding) ms i j key outcome) :
    let p := (start encoding).before ms
    -- its own moves touch no other slot and no session, and no count unless it succeeds
    (∀ n m, i ≤ n → n ≤ j → ms[n]? = some m → Own (start encoding) ms i n →
      Confined key (p n) ((p n).act m).1 ∧
        ((∀ s, outcome ≠ .ok s) → Unfilled key (p n) ((p n).act m).1)) ∧
    -- if it succeeds, the session is open, in its slot, and was there before or is new
    (∀ s, outcome = .ok s → (p (j + 1)).slot key = .live s ∧
      ((p i).slot key = .live s ∨ (p i).slot key = .vacant ∧ (p i).session? s = none) ∧
      ∃ x, (p (j + 1)).session? s = some x ∧ x.closed = false ∧ x.connection.isSome) ∧
    -- if it fails, its slot is as it was, and if nothing is made from inside so is all the rest
    (∀ fault, outcome = .error fault → (p (j + 1)).slot key = (p i).slot key ∧
      key ∈ (p (j + 1)).entries.map Prod.fst ∧
      ((∀ n, i ≤ n → n ≤ j → Own (start encoding) ms i n) →
        (p (j + 1)).count = (p i).count ∧ ∃ attempts history, p (j + 1) =
          { p i with
            slots := some (assign key ((p i).slot key) (p i).entries)
            attempts, history })) ∧
    -- at any time, a look-up that is not made from inside succeeds if it is answered well
    ∀ n server keep options user path condition,
      (∀ k, ¬Establishing (start encoding) ms k n key) → databasePath options = .ok path →
      condition.ready = true →
      (∃ s, (p n).result (.lookup key server keep) = some s) ∨
        ∀ q, Served ((p n).step (.lookup key server keep))
            [.answerServer (.ok options), .answerUser (.ok user),
              .answerConnect (.ok condition)] q →
          ∃ s, q.result (.settle keep) = some s := by
  intro p
  refine ⟨fun n m hi hj hm hown => h.confined hi hj hm hown, ?_, ?_, ?_⟩
  · intro s houtcome
    subst houtcome
    have hlive : (p (j + 1)).slot key = .live s ∧
        ((p i).slot key = .live s ∨ (p i).slot key = .vacant ∧ (p i).session? s = none) := by
      obtain ⟨server, keep, hbegin⟩ := h.begins
      cases hs : (p i).slot key with
      | pending => exact absurd (h.outcome_of_pending hbegin hs).2 (by simp)
      | live t =>
        obtain ⟨rfl, hst⟩ := h.outcome_of_live hs
        obtain rfl : s = t := Except.ok.inj hst
        refine ⟨?_, .inl rfl⟩
        show ((start encoding).before ms (j + 1)).slot key = .live s
        rw [before_succ hbegin]
        exact (sound_before encoding ms j).slot_step hs (by simp)
      | vacant =>
        have hlt := h.lt_of_vacant hs
        exact ⟨h.slot hlt, .inr ⟨rfl, h.session?_eq_none hlt⟩⟩
    exact ⟨hlive.1, hlive.2, (sound_before encoding ms (j + 1)).open_of_live hlive.1⟩
  · intro fault houtcome
    subst houtcome
    have hstay := h.slot_of_error
    refine ⟨hstay.1, hstay.2, fun hown => ⟨?_, h.eq_of_own hown⟩⟩
    obtain ⟨attempts, history, heq⟩ := h.eq_of_own hown
    have hnot : ∀ s, (p i).slot key ≠ .live s :=
      fun s hs => absurd (h.outcome_of_live hs).2 (by simp)
    show ((start encoding).before ms (j + 1)).count = ((start encoding).before ms i).count
    rw [heq]
    exact count_eq_of_entries rfl hnot hnot
  · intro n server keep options user path condition hnone hpath hready
    cases hs : (p n).slot key with
    | live s =>
      left
      exact ⟨s, by simp [result, act_lookup_of_live server keep hs, Progress.session?]⟩
    | pending =>
      obtain ⟨k, hk⟩ := pending_iff_establishing.mp hs
      exact (hnone k hk).elim
    | vacant => exact .inr fun q hserved => result_of_served hs hpath hready hserved

end

/-- A run in which a look-up fails, and one of another key is made from inside of it. -/
def refusedRun : List Move :=
  [.lookup ⟨1, 2⟩ "other" (some "other"), .answerServer (.ok { database := some "employee" }),
    .answerUser (.ok {}), .answerConnect (.ok ⟨true, ""⟩), .settle (some "other"),
    .lookup ⟨1, 1⟩ "server" none, .answerServer (.ok { database := some "employee" }),
    .lookup ⟨1, 2⟩ "other" none,
    .answerUser (.ok {}), .answerConnect (.error "refused")]

theorem lookup_confined_refusedRun :
    let p := (start "UTF8").before refusedRun
    Ended (start "UTF8") refusedRun 5 9 ⟨1, 1⟩ (.error (.notEstablished "employee" "refused")) ∧
      (p 10).slot ⟨1, 1⟩ = (p 5).slot ⟨1, 1⟩ ∧
      Unfilled ⟨1, 1⟩ (p 8) ((p 8).act (.answerUser (.ok {}))).1 ∧
      ∃ s, (((((p 10).step (.lookup ⟨1, 1⟩ "server" none)).step
          (.answerServer (.ok { database := some "employee" }))).step (.answerUser (.ok {}))).step
            (.answerConnect (.ok ⟨true, ""⟩))).result (.settle none) = some s := by
  intro p
  have ended : Ended (start "UTF8") refusedRun 5 9 ⟨1, 1⟩
      (.error (.notEstablished "employee" "refused")) := by
    refine ⟨⟨_, _, rfl⟩, by decide, fun hlt => ⟨hlt, fun k hk hkn => ?_⟩, ⟨_, rfl, rfl⟩,
      by decide⟩
    interval_cases k <;> decide
  obtain ⟨howns, -, hfails, hlater⟩ := lookup_confined ended
  have idle : ∀ k, ¬Establishing (start "UTF8") refusedRun k 10 ⟨1, 1⟩ := by
    intro k h
    exact absurd (exists_establishing_iff.mp ⟨k, h⟩) (by decide)
  refine ⟨ended, (hfails _ rfl).1, ?_, ?_⟩
  · exact (howns 8 _ (by decide) (by decide) rfl (.inr ⟨⟨_, rfl, rfl⟩, by decide⟩)).2 (by simp)
  · rcases hlater 10 "server" none { database := some "employee" } {} "employee" ⟨true, ""⟩ idle
      (by decide) rfl with hhit | hmiss
    · obtain ⟨s, hs⟩ := hhit
      exact nomatch hs
    · exact hmiss _ (.answer [] rfl (.answer [] rfl (.answer [] rfl (.inside [] rfl))))

end RemoteFirebird.Pool
