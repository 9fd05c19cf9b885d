import RemoteFirebird.Proofs.Pool.Sound

/-!
# What the operations of a pool keep

Each operation of a pool, from passing on a hold to closing all sessions, keeps the pool sound. The
lemmas here say what an operation takes from the hand and what it leaves there.
-/

namespace RemoteFirebird.Pool

open Session

variable {calls calls' : List Call} {holds holds' late late' : List Nat} {l : Ledger} {p : Pool}
  {key : Key} {s : Nat} {x : Session}

/-! ### Handles -/

private theorem Sound.rehandle {handles : List (String × Nat)} (h : Sound calls holds late l p)
    (hn : (handles.map Prod.fst).Nodup)
    (hcount : ∀ s, holds'.count s + (handles.map Prod.snd).count s =
      holds.count s + (p.handles.map Prod.snd).count s) :
    Sound calls holds' late l { p with handles } := by
  have hrefs : ∀ s, refs { p with handles } calls holds' s = p.refs calls holds s := by
    intro s
    have := hcount s
    show holds'.count s + (p.entries.map Prod.snd).count (.live s) +
      (handles.map Prod.snd).count s + _ = _
    rw [refs]
    omega
  refine { h with handles_nodup := hn, inRange := ?_, fits := ?_ }
  · intro s hs
    exact h.inRange s (hrefs s ▸ hs)
  · intro s x hx
    rw [hrefs]
    exact h.fits s x hx

theorem Sound.stow (h : Sound calls (s :: holds) late l p) (keep : Option String) :
    Sound calls holds late l (p.stow s keep) := by
  cases keep with
  | none => exact h.letGo
  | some handle =>
    have hcount := fun t => count_assign handle s t p.handles
    have hn := nodup_assign handle s h.handles_nodup
    cases hl : p.handles.lookup handle with
    | none =>
      simp only [Pool.stow, hl, Option.elim_none]
      apply h.rehandle hn
      intro t
      have := hcount t
      simp only [hl, reduceCtorEq, ↓reduceIte] at this
      simp only [List.count_cons, beq_iff_eq]
      omega
    | some t₀ =>
      simp only [Pool.stow, hl, Option.elim_some]
      refine Sound.letGo (h.rehandle hn fun t => ?_)
      have := hcount t
      simp only [hl, Option.some.injEq] at this
      simp only [List.count_cons, beq_iff_eq]
      omega

theorem Sound.release (h : Sound calls holds late l p) (handle : String) :
    Sound calls holds late l (p.release handle).1 := by
  cases hl : p.handles.lookup handle with
  | none => simpa only [Pool.release, hl] using h
  | some s =>
    simp only [Pool.release, hl]
    refine Sound.letGo (h.rehandle ?_ fun t => ?_)
    · exact (List.filter_sublist.map Prod.fst).nodup h.handles_nodup
    · have := count_filter_ne (k := handle) t h.handles_nodup
      simp only [hl, Option.some.injEq] at this
      simp only [List.count_cons, beq_iff_eq]
      omega

/-! ### Establishing -/

theorem Sound.prepare (h : Sound calls holds late l p) : Sound calls holds late l p.prepare := by
  cases hp : p.slots with
  | some es => simpa only [Pool.prepare, hp] using h
  | none =>
    simp only [Pool.prepare, hp]
    refine h.congr ?_ rfl rfl rfl fun _ => rfl
    simp [entries, hp]

theorem isSome_slots_prepare (p : Pool) : p.prepare.slots.isSome := by
  cases hp : p.slots <;> simp [Pool.prepare, hp]

@[simp] theorem calls_prepare (p : Pool) : p.prepare.calls = p.calls := by
  cases hp : p.slots <;> simp [Pool.prepare, hp, log, record]

private theorem Sound.recall {n : Nat} {opened : List Nat} (h : Sound calls holds late l p)
    (hkey : calls'.filterMap Call.key? = calls.filterMap Call.key?)
    (hborrow : ∀ s, calls'.count (.borrowing s) = calls.count (.borrowing s))
    (hissued : ∀ id, (calls'.filterMap Call.attempt?).count id + opened.count id ≤
      if id ≤ n then 1 else 0)
    (hhandshake : ∀ id, opened.count id + (calls.filterMap Call.handshake?).count id =
      l.opened.count id + (calls'.filterMap Call.handshake?).count id) :
    Sound calls' holds late { l with opened } { p with attempts := n } := by
  have hrefs : ∀ s, refs { p with attempts := n } calls' holds s = p.refs calls holds s := by
    intro s
    rw [refs, refs, hborrow]
    rfl
  constructor
  case entries_nodup => exact h.entries_nodup
  case handles_nodup => exact h.handles_nodup
  case marks =>
    rw [hkey]
    exact h.marks
  case live => exact h.live
  case inRange =>
    intro s hs
    exact h.inRange s (hrefs s ▸ hs)
  case fits =>
    intro s x hx
    rw [hrefs, hborrow]
    have hfit := h.fits s x hx
    exact { hfit with }
  case made => exact h.made
  case taken => exact h.taken
  case issued => exact hissued
  case accounts =>
    intro id
    have hacc := h.accounts id
    have := hhandshake id
    show opened.count id = _ + p.dropped.count id + _ +
      (p.sessions.filterMap Session.connectionId?).count id
    omega

theorem Sound.askUser {server : String} {options : Options.Server}
    (h : Sound (.askingServer key server :: calls) holds late l p) :
    Sound (.askingUser key server options :: calls) holds late l p :=
  h.recall rfl (fun _ => by simp) h.issued fun _ => rfl

/-- An attempt at a connection gets the next number. -/
theorem Sound.dial {owner : Option Key} {login : Login} (h : Sound calls holds late l p)
    (hkey : calls.filterMap Call.key? = owner.toList ++ calls'.filterMap Call.key?)
    (hborrow : ∀ s, calls'.count (.borrowing s) = calls.count (.borrowing s))
    (hattempt : calls'.filterMap Call.attempt? = calls.filterMap Call.attempt?)
    (hhandshake : calls'.filterMap Call.handshake? = calls.filterMap Call.handshake?) :
    Sound (.connecting owner (p.attempts + 1) login :: calls') holds late l
      { p with attempts := p.attempts + 1 } := by
  refine h.recall ?_ (fun s => ?_) (fun id => ?_) (fun id => ?_)
  · rw [hkey]
    cases owner <;> simp [List.filterMap_cons, Call.key?]
  · rw [← hborrow]
    simp
  · have := h.issued id
    simp only [List.filterMap_cons, Call.attempt?, hattempt, List.count_cons, beq_iff_eq]
    by_cases hid : id = p.attempts + 1
    · subst id
      rw [if_neg (by omega)] at this
      simp only [↓reduceIte, Nat.le_refl]
      omega
    · rw [if_neg (Ne.symm hid)]
      split at this <;> split <;> omega
  · simp [List.filterMap_cons, Call.handshake?, hhandshake]

theorem Sound.open {owner : Option Key} {id : Nat} {login : Login} (condition : Condition)
    (h : Sound (.connecting owner id login :: calls) holds late l p) :
    Sound (.opened owner login ⟨id, condition⟩ :: calls) holds late
      { l with opened := l.opened ++ [id] } p := by
  refine h.recall ?_ (fun s => ?_) (fun n => ?_) (fun n => ?_)
  · simp [List.filterMap_cons, Call.key?]
  · simp
  · have := h.issued n
    simp only [List.filterMap_cons, Call.attempt?, List.count_cons, List.count_append,
      List.count_nil] at this ⊢
    omega
  · simp only [List.filterMap_cons, Call.handshake?, List.count_cons, List.count_append,
      List.count_nil]
    omega

/-- A session is made on the connection of a call in hand, which keeps its key. -/
theorem Sound.append {owner : Option Key} {c : Connection} {path : String}
    (h : Sound calls holds late l p)
    (hkey : calls'.filterMap Call.key? = calls.filterMap Call.key?)
    (hborrow : ∀ s, calls'.count (.borrowing s) = calls.count (.borrowing s))
    (hattempt : calls'.filterMap Call.attempt? = calls.filterMap Call.attempt?)
    (hhandshake : ∀ id, (calls.filterMap Call.handshake?).count id =
      (calls'.filterMap Call.handshake?).count id + if c.id = id then 1 else 0) :
    Sound calls' (p.sessions.length :: holds) late
      { l with made := l.made ++ [⟨c.id, p.sessions.length, owner⟩] }
      { p with sessions := p.sessions ++ [.fresh path c] } := by
  have hnew : p.refs calls holds p.sessions.length = 0 := by
    by_contra hpos
    exact Nat.lt_irrefl _ (h.inRange _ (Nat.pos_of_ne_zero hpos))
  have htaken : p.sessions.length ∉ l.taken := fun hmem => Nat.lt_irrefl _ (h.lt_of_taken hmem)
  have hrefs : ∀ s, refs { p with sessions := p.sessions ++ [.fresh path c] } calls'
      (p.sessions.length :: holds) s =
      p.refs calls holds s + if p.sessions.length = s then 1 else 0 := by
    intro s
    simp only [refs, hborrow, List.count_cons, beq_iff_eq]
    show _ + (p.entries.map Prod.snd).count _ + _ + _ = _
    omega
  constructor
  case entries_nodup => exact h.entries_nodup
  case handles_nodup => exact h.handles_nodup
  case marks =>
    rw [hkey]
    exact h.marks
  case live =>
    intro key s hs
    obtain ⟨hfree, id, hmade⟩ := h.live key s hs
    exact ⟨hfree, id, List.mem_append_left _ hmade⟩
  case inRange =>
    intro s hs
    rw [hrefs] at hs
    simp only [List.length_append, List.length_singleton]
    split at hs
    next he => omega
    next => exact Nat.lt_succ_of_lt (h.inRange s hs)
  case fits =>
    intro s x hx
    rw [hrefs, hborrow]
    by_cases hs : p.sessions.length = s
    · subst s
      obtain rfl : Session.fresh path c = x := by simpa [session?] using hx
      have hborrows : calls.count (.borrowing p.sessions.length) = 0 := by
        simp only [refs] at hnew
        omega
      exact {
        holders := by simp [hnew, Session.fresh]
        borrowed := by simp [hborrows, Session.fresh]
        connected := by simp [Session.fresh]
        closed := by simp [Session.fresh, htaken]
        origin := by
          intro c' hc'
          obtain rfl : c = c' := by simpa [Session.fresh] using hc'
          exact ⟨owner, by simp⟩ }
    · rw [if_neg hs, Nat.add_zero]
      have hold : p.session? s = some x := by
        simp only [session?, List.getElem?_append] at hx ⊢
        split at hx
        next => exact hx
        next hle =>
          have : s - p.sessions.length ≠ 0 := by omega
          simp [this] at hx
      have hfit := h.fits s x hold
      refine { hfit with origin := fun c' hc' => ?_ }
      obtain ⟨owner', hmade⟩ := hfit.origin c' hc'
      exact ⟨owner', List.mem_append_left _ hmade⟩
  case made => simp [h.made, List.range_succ]
  case taken =>
    intro s hs
    obtain ⟨id, key, hmade⟩ := h.taken s hs
    exact ⟨id, key, List.mem_append_left _ hmade⟩
  case issued =>
    rw [hattempt]
    exact h.issued
  case accounts =>
    intro id
    have hacc := h.accounts id
    have := hhandshake id
    have hfresh : (p.sessions ++ [Session.fresh path c]).filterMap Session.connectionId? =
        p.sessions.filterMap Session.connectionId? ++ [c.id] := by
      simp [Session.connectionId?, Session.fresh]
    show l.opened.count id = _ + p.dropped.count id + _ +
      ((p.sessions ++ [Session.fresh path c]).filterMap Session.connectionId?).count id
    rw [hfresh, List.count_append, List.count_singleton]
    simp only [beq_iff_eq]
    omega

theorem Sound.addSession {owner : Option Key} {login : Login} {c : Connection}
    (h : Sound (.opened owner login c :: calls) holds late l p) :
    Sound calls ((p.addSession owner (.fresh login.path c)).2 :: holds) late
      { l with made := l.made ++ [⟨c.id, p.sessions.length, owner⟩] }
      (p.addSession owner (.fresh login.path c)).1 := by
  have hhandshake : ∀ id,
      ((Call.opened owner login c :: calls).filterMap Call.handshake?).count id =
        (calls.filterMap Call.handshake?).count id + if c.id = id then 1 else 0 := by
    intro id
    simp [Call.handshake?, List.count_cons]
  have hattempt : (Call.opened owner login c :: calls).filterMap Call.attempt? =
      calls.filterMap Call.attempt? := by
    simp [List.filterMap_cons, Call.attempt?]
  cases owner with
  | none => exact h.append rfl (by simp) hattempt.symm hhandshake
  | some key =>
    -- Between the new session and its slot the call is left with its key alone.
    have hadded : Sound (.askingServer key "" :: calls) (p.sessions.length :: holds) late
        { l with made := l.made ++ [⟨c.id, p.sessions.length, some key⟩] }
        { p with sessions := p.sessions ++ [.fresh login.path c] } :=
      h.append rfl (by simp) hattempt.symm hhandshake
    have htaken : p.sessions.length ∉ l.taken := fun hmem => Nat.lt_irrefl _ (h.lt_of_taken hmem)
    have hpending := h.pending_of_mem List.mem_cons_self (c := .opened (some key) login c) rfl
    have hslots : p.slots.isSome := isSome_slots_of_slot_ne (by rw [hpending]; simp)
    refine (hadded.fill (c := .askingServer key "") rfl rfl
      (List.mem_append_right _ List.mem_cons_self) htaken).retain ?_
    refine refs_pos_of_live ((slot_setSlot (v := .live p.sessions.length) hslots key).trans ?_)
    simp [Pool.addSession]

/-! ### Borrowing -/

theorem beginBorrow_eq_some {handle : String} {q : Pool}
    (hq : p.beginBorrow handle = some (.ok q)) :
    ∃ s x, p.handles.lookup handle = some s ∧ p.session? s = some x ∧ x.closed = false ∧
      x.borrowed = false ∧ x.connection.isSome ∧
      q = { p with calls := .borrowing s :: p.calls }.modifySession s fun x =>
        { x with borrowed := true, holders := x.holders + 1 } := by
  simp only [Pool.beginBorrow, Option.bind_eq_some_iff, Option.map_eq_some_iff] at hq
  obtain ⟨s, hs, x, hx, hq⟩ := hq
  cases hclosed : x.closed <;> cases hborrowed : x.borrowed <;> cases hc : x.connection <;>
    simp [hclosed, hborrowed, hc] at hq
  exact ⟨s, x, hs, hx, hclosed, hborrowed, by simp [hc], hq.symm⟩

theorem Sound.beginBorrow {handle : String} {q : Pool} (h : Sound p.calls holds late l p)
    (hq : p.beginBorrow handle = some (.ok q)) : Sound q.calls holds late l q := by
  obtain ⟨s, x, hs, hx, hclosed, hborrowed, hc, rfl⟩ := beginBorrow_eq_some hq
  have hfit := h.fits s x hx
  have hrefs : p.refs (.borrowing s :: p.calls) holds s = p.refs p.calls holds s + 1 := by
    simp only [refs, List.count_cons_self]
    omega
  have hmod : Sound (.borrowing s :: p.calls) holds late l (p.modifySession s fun x =>
      { x with borrowed := true, holders := x.holders + 1 }) := by
    refine h.modify hx rfl rfl rfl (fun t ht => ⟨rfl, ?_⟩) ?_ fun _ => rfl
    · exact List.count_cons_of_ne (by simpa using Ne.symm ht)
    · exact { hfit with
        holders := by rw [hrefs, ← hfit.holders]
        borrowed := by simp [hfit.borrowed, hborrowed]
        connected := by simp [hc] }
  exact hmod.congr rfl rfl rfl rfl fun _ => rfl

private theorem endBorrow_of_open (hcalls : p.calls = .borrowing s :: calls)
    (hx : p.session? s = some x) (hclosed : x.closed = false) :
    p.endBorrow =
      ({ p with calls }.modifySession s fun x => { x with borrowed := false }).letGo s := by
  have hx' : p.sessions[s]? = some x := hx
  simp [Pool.endBorrow, hcalls, session?, modifySession, hx', hclosed]

theorem endBorrow_of_closed {c : Connection} (hcalls : p.calls = .borrowing s :: calls)
    (hx : p.session? s = some x) (hclosed : x.closed = true) (hc : x.connection = some c) :
    p.endBorrow =
      ((({ p with calls }.modifySession s fun x =>
        { x with borrowed := false, connection := none }).log
        (.releasedAfterBorrow x.path)).record (.drop c.id)).letGo s := by
  have hx' : p.sessions[s]? = some x := hx
  simp [Pool.endBorrow, hcalls, session?, modifySession, hx', hclosed, dropConnection, hc, log,
    record, List.modify_modify_eq, Function.comp_def]

/-- The borrow that ends gives up its hold. If the session has been closed meanwhile, the
connection is dropped here. -/
theorem Sound.endBorrow (hcalls : p.calls = .borrowing s :: calls)
    (h : Sound (.borrowing s :: calls) holds late l p) :
    Sound calls holds late l p.endBorrow := by
  have hrefs : p.refs (.borrowing s :: calls) holds s = p.refs calls (s :: holds) s := by
    simp only [refs, List.count_cons_self]
    omega
  have hpos : 0 < p.refs (.borrowing s :: calls) holds s := by
    simp only [refs, List.count_cons_self]
    omega
  obtain ⟨x, hx⟩ := h.exists_session hpos
  have hfit := h.fits s x hx
  have hother : ∀ t, t ≠ s → (s :: holds).count t = holds.count t ∧
      calls.count (.borrowing t) = (Call.borrowing s :: calls).count (.borrowing t) := by
    intro t ht
    exact ⟨count_cons_of_ne_self ht, (List.count_cons_of_ne (by simpa using Ne.symm ht)).symm⟩
  have hborrows : x.borrowed = true ∧ calls.count (.borrowing s) = 0 := by
    have := hfit.borrowed
    rw [List.count_cons_self] at this
    split at this
    next hb => exact ⟨hb, by omega⟩
    next => omega
  have hsome : x.connection.isSome := by
    rw [hfit.connected, hfit.holders]
    exact ⟨hpos, .inr hborrows.1⟩
  obtain ⟨c, hc⟩ := Option.isSome_iff_exists.mp hsome
  have hholders : x.holders = p.refs calls (s :: holds) s := by rw [← hrefs, ← hfit.holders]
  cases hclosed : x.closed with
  | false =>
    have hmod : Sound calls (s :: holds) late l
        (p.modifySession s fun x => { x with borrowed := false }) := by
      refine h.modify hx rfl rfl rfl hother ?_ fun _ => rfl
      exact { hfit with
        holders := hholders
        borrowed := by simp [hborrows.2]
        connected := by simpa [hclosed, hsome, hfit.holders] using hpos }
    rw [endBorrow_of_open hcalls hx hclosed]
    exact Sound.letGo (Sound.congr hmod rfl rfl rfl rfl fun _ => rfl)
  | true =>
    have hmod : Sound calls (s :: holds) (c.id :: late) l
        (p.modifySession s fun x => { x with borrowed := false, connection := none }) := by
      refine h.modify hx rfl rfl rfl hother ?_ fun id => ?_
      · exact {
          holders := hholders
          borrowed := by simp [hborrows.2]
          connected := by simp [hclosed]
          closed := hfit.closed
          origin := by simp }
      · simp [Session.connectionId?, hc, List.count_cons]
    rw [endBorrow_of_closed hcalls hx hclosed hc]
    exact Sound.letGo (Sound.recordDrop (Sound.log (Sound.congr hmod rfl rfl rfl rfl fun _ => rfl)))

/-! ### Closing -/

/-- The session in a slot, with its key. -/
def keptAs (e : Key × Slot) : Option (Key × Nat) :=
  match e.2 with
  | .live s => some (e.1, s)
  | _ => none

theorem kept_eq_filterMap (p : Pool) : p.kept = p.entries.filterMap keptAs := rfl

theorem keptAs_eq_some {e : Key × Slot} {e' : Key × Nat} :
    keptAs e = some e' ↔ e = (e'.1, .live e'.2) := by
  obtain ⟨k, v⟩ := e
  obtain ⟨k', s'⟩ := e'
  cases v <;> simp [keptAs]

theorem mem_kept (hn : (p.entries.map Prod.fst).Nodup) {e : Key × Nat} :
    e ∈ p.kept ↔ p.slot e.1 = .live e.2 := by
  rw [← lookup_eq_some_live, kept_eq_filterMap, List.mem_filterMap]
  simp only [keptAs_eq_some, exists_eq_right]
  exact ⟨lookup_of_mem hn, mem_of_lookup⟩

private theorem filterMap_assign_vacant {es : List (Key × Slot)} {rest : List (Key × Nat)}
    (hn : (es.map Prod.fst).Nodup) (hes : es.filterMap keptAs = (key, s) :: rest) :
    (assign key .vacant es).filterMap keptAs = rest := by
  induction es with
  | nil => simp at hes
  | cons e es ih =>
    obtain ⟨k, v⟩ := e
    have ⟨hk, hn'⟩ := List.nodup_cons.mp hn
    cases hv : keptAs (k, v) with
    | some e' =>
      obtain ⟨rfl, rfl⟩ : e' = (key, s) ∧ es.filterMap keptAs = rest := by
        simpa [List.filterMap_cons, hv] using hes
      obtain ⟨rfl, rfl⟩ : k = key ∧ v = .live s := by simpa using keptAs_eq_some.mp hv
      simp [assign, List.filterMap_cons, keptAs]
    | none =>
      have htail : es.filterMap keptAs = (key, s) :: rest := by
        simpa [List.filterMap_cons, hv] using hes
      -- The key is found behind the head, so it is not the key of the head.
      have hne : (k == key) = false := by
        have hmem : (key, s) ∈ es.filterMap keptAs := htail ▸ List.mem_cons_self
        simp only [List.mem_filterMap, keptAs_eq_some, exists_eq_right] at hmem
        have hkey : k ≠ key := fun he => hk (List.mem_map.mpr ⟨_, hmem, he.symm⟩)
        simpa using hkey
      simp [assign, hne, hv, ih hn' htail]

private theorem closeOne_of_borrowed (key : Key) (hx : p.session? s = some x)
    (hclosed : x.closed = false) (hborrowed : x.borrowed = true) :
    (p.closeOne key s).1 = (p.setSlot key .vacant).modifySession s (fun _ =>
        { x with holders := x.holders - 1, closed := true }) ∧
      drops (p.closeOne key s).2.1 = [] ∧ (p.closeOne key s).2.2 = 1 := by
  have hx' : (p.setSlot key .vacant).session? s = some x := hx
  simp only [Pool.closeOne, hx', hclosed, Session.close, hborrowed, Bool.false_eq_true, ↓reduceIte,
    and_true, true_and]
  split <;> rfl

private theorem closeOne_of_free {c : Connection} (key : Key) (hx : p.session? s = some x)
    (hclosed : x.closed = false) (hborrowed : x.borrowed = false) (hc : x.connection = some c) :
    (p.closeOne key s).1 = (p.setSlot key .vacant).modifySession s (fun _ =>
        { x with holders := x.holders - 1, closed := true, connection := none }) ∧
      drops (p.closeOne key s).2.1 = [c.id] ∧ (p.closeOne key s).2.2 = 1 := by
  have hx' : (p.setSlot key .vacant).session? s = some x := hx
  simp only [Pool.closeOne, hx', hclosed, Session.close, hborrowed, hc, Bool.false_eq_true,
    ↓reduceIte, and_true, true_and]
  split <;> rfl

/-- Closing one kept session takes it out of the pool for good. Its connection is dropped unless it
is borrowed. -/
theorem Sound.closeOne {rest : List (Key × Nat)} (h : Sound calls holds late l p)
    (hkept : p.kept = (key, s) :: rest) :
    Sound calls holds (drops (p.closeOne key s).2.1 ++ late) { l with taken := l.taken ++ [s] }
        (p.closeOne key s).1 ∧
      (p.closeOne key s).2.2 = 1 ∧ (p.closeOne key s).1.kept = rest := by
  have hs : p.slot key = .live s :=
    (mem_kept h.entries_nodup (e := (key, s))).mp (hkept ▸ List.mem_cons_self)
  obtain ⟨hfree, id, hmade⟩ := h.live key s hs
  have hslots : p.slots.isSome := isSome_slots_of_slot_ne (by rw [hs]; simp)
  have htake := h.take hs
  obtain ⟨x, hx⟩ := htake.exists_session (by rw [refs_cons_self]; omega)
  have hfit := htake.fits s x hx
  have hholders := hfit.holders
  rw [refs_cons_self] at hholders
  have hclosed : x.closed = false := by
    simpa using fun hc => hfree (hfit.closed.mp hc)
  have hsome : x.connection.isSome := hfit.connected.mpr ⟨by omega, .inl hclosed⟩
  obtain ⟨c, hc⟩ := Option.isSome_iff_exists.mp hsome
  have hother : ∀ t, t ≠ s → holds.count t = (s :: holds).count t ∧
      calls.count (.borrowing t) = calls.count (.borrowing t) ∧
      (t ∈ l.taken ++ [s] ↔ t ∈ l.taken) :=
    fun t ht => ⟨(count_cons_of_ne_self ht).symm, rfl, by simp [ht]⟩
  have hlive : ∀ k, (p.setSlot key .vacant).slot k = .live s → s ∉ l.taken ++ [s] :=
    fun k hk => (h.not_live_of_take hs k hk).elim
  have hkept' : (p.setSlot key .vacant).kept = rest := by
    rw [kept_eq_filterMap, entries_setSlot hslots]
    exact filterMap_assign_vacant h.entries_nodup hkept
  have hx' : p.session? s = some x := hx
  cases hborrowed : x.borrowed with
  | true =>
    obtain ⟨hpool, hdrops, hcount⟩ := closeOne_of_borrowed key hx' hclosed hborrowed
    rw [hpool, hdrops]
    refine ⟨?_, hcount, hkept'⟩
    -- The borrow still holds the session, so it keeps its connection.
    have hpos : 0 < (p.setSlot key .vacant).refs calls holds s := by
      have hborrows := hfit.borrowed
      rw [hborrowed, if_pos rfl] at hborrows
      simp only [refs]
      omega
    refine htake.modifyTaken hx rfl rfl rfl hother hlive (fun _ => ⟨id, key, hmade⟩) ?_
      (fun _ => rfl)
    exact { hfit with
      holders := by simp [hholders]
      connected := by simp [hborrowed, hsome, hholders, hpos]
      closed := by simp }
  | false =>
    obtain ⟨hpool, hdrops, hcount⟩ := closeOne_of_free key hx' hclosed hborrowed hc
    rw [hpool, hdrops]
    refine ⟨?_, hcount, hkept'⟩
    refine htake.modifyTaken hx rfl rfl rfl hother hlive (fun _ => ⟨id, key, hmade⟩) ?_ ?_
    · exact {
        holders := by simp [hholders]
        borrowed := hfit.borrowed
        connected := by simp [hborrowed]
        closed := by simp
        origin := by simp }
    · intro n
      simp [Session.connectionId?, hc, List.count_cons]

theorem closeEach_cons (p : Pool) (key : Key) (s : Nat) (rest : List (Key × Nat)) :
    p.closeEach ((key, s) :: rest) =
      (((p.closeOne key s).1.closeEach rest).1,
        (p.closeOne key s).2.1 ++ ((p.closeOne key s).1.closeEach rest).2.1,
        (p.closeOne key s).2.2 + ((p.closeOne key s).1.closeEach rest).2.2) := rfl

theorem Sound.closeEach {kept : List (Key × Nat)} (h : Sound calls holds late l p)
    (hkept : p.kept = kept) :
    Sound calls holds (drops (p.closeEach kept).2.1 ++ late)
        { l with taken := l.taken ++ kept.map Prod.snd } (p.closeEach kept).1 ∧
      (p.closeEach kept).2.2 = kept.length ∧ (p.closeEach kept).1.kept = [] := by
  induction kept generalizing p l late with
  | nil => simpa [Pool.closeEach, drops, hkept] using h
  | cons e rest ih =>
    obtain ⟨key, s⟩ := e
    obtain ⟨hone, hcount, hkept'⟩ := h.closeOne hkept
    obtain ⟨hrest, hcount', hnone⟩ := ih hone hkept'
    rw [closeEach_cons]
    refine ⟨?_, by simp only [List.length_cons]; omega, hnone⟩
    simp only [List.append_assoc, List.singleton_append] at hrest
    refine hrest.congr rfl rfl rfl rfl fun n => ?_
    simp only [drops, List.filterMap_append, List.count_append]
    omega

private theorem dropped_closeAll (p : Pool) :
    p.closeAll.1.dropped = drops (p.closeEach p.kept).2.1 ++ (p.closeEach p.kept).1.dropped := by
  show drops ((_ :: _ : List Entry).flatMap Entry.occurrences) = _
  rw [List.flatMap_cons, drops, List.filterMap_append]
  rfl

/-- All kept sessions are taken and counted, and none is kept afterwards. -/
theorem Sound.closeAll (h : Sound calls holds late l p) :
    Sound calls holds late { l with taken := l.taken ++ p.kept.map Prod.snd } p.closeAll.1 ∧
      p.closeAll.2 = p.count ∧ p.closeAll.1.kept = [] := by
  obtain ⟨hall, hcount, hnone⟩ := h.closeEach rfl
  refine ⟨hall.congr rfl rfl rfl rfl fun n => ?_, hcount, hnone⟩
  rw [dropped_closeAll, List.count_append, List.count_append]
  omega

end RemoteFirebird.Pool
