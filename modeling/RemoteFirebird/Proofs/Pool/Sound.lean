import Mathlib.Data.List.Count
import Mathlib.Data.List.Range
import RemoteFirebird.Proofs.Pool.Assignment
import RemoteFirebird.Proofs.Pool.Run

/-!
# Sound pools

What holds of a pool at every moment of every run, and how the small operations on slots, handles
and sessions keep it. While a move is made, something may be out of its place: a call that has been
taken off the stack, a session on its way from a call to a handle, a connection that has been
dropped before the history says so. So soundness is stated of a pool together with what is in hand:
the calls, the holds on sessions, and the drops that are yet to be recorded. Everything is counted,
so a step that moves a thing from one place to another keeps a sum.
-/

namespace RemoteFirebird

open Session

def Session.connectionId? (x : Session) : Option Nat :=
  x.connection.map Connection.id

namespace Pool

/-- The key that a call is to establish a session for. -/
def Call.key? : Call → Option Key
  | askingServer key _ => some key
  | askingUser key _ _ => some key
  | connecting owner _ _ => owner
  | opened owner _ _ => owner
  | borrowing _ => none

/-- The attempt at a connection that a call waits for. -/
def Call.attempt? : Call → Option Nat
  | connecting _ id _ => some id
  | _ => none

/-- The open connection that a call has yet to set up. -/
def Call.handshake? : Call → Option Nat
  | opened _ _ c => some c.id
  | _ => none

/-- How many holds there are on a session: those in hand, its slot, its handles, its borrow. -/
def refs (p : Pool) (calls : List Call) (holds : List Nat) (s : Nat) : Nat :=
  holds.count s + (p.entries.map Prod.snd).count (.live s) + (p.handles.map Prod.snd).count s +
    calls.count (.borrowing s)

/-- What the state of a session says about its holds and borrows, and about its past. -/
structure Fits (l : Ledger) (refs borrows s : Nat) (x : Session) : Prop where
  holders : x.holders = refs
  borrowed : borrows = if x.borrowed then 1 else 0
  connected : x.connection.isSome ↔ 0 < x.holders ∧ (x.closed = false ∨ x.borrowed = true)
  closed : x.closed = true ↔ s ∈ l.taken
  origin : ∀ c, x.connection = some c → ∃ owner, ⟨c.id, s, owner⟩ ∈ l.made

/-- The invariant of a pool. Every mark, every hold and every connection is accounted for by what is
in the pool and what is in hand, and sessions in slots are open. -/
structure Sound (calls : List Call) (holds late : List Nat) (l : Ledger) (p : Pool) : Prop where
  entries_nodup : (p.entries.map Prod.fst).Nodup
  handles_nodup : (p.handles.map Prod.fst).Nodup
  marks : ∀ key, (calls.filterMap Call.key?).count key = if p.slot key = .pending then 1 else 0
  live : ∀ key s, p.slot key = .live s → s ∉ l.taken ∧ ∃ id, ⟨id, s, some key⟩ ∈ l.made
  inRange : ∀ s, 0 < p.refs calls holds s → s < p.sessions.length
  fits : ∀ s x, p.session? s = some x →
    Fits l (p.refs calls holds s) (calls.count (.borrowing s)) s x
  -- sessions are numbered in the order in which they are made, and none is ever removed
  made : l.made.map Made.session = List.range p.sessions.length
  taken : ∀ s ∈ l.taken, ∃ id key, ⟨id, s, some key⟩ ∈ l.made
  -- an attempt waits in one call or has opened one connection, never both
  issued : ∀ id, (calls.filterMap Call.attempt?).count id + l.opened.count id ≤
    if id ≤ p.attempts then 1 else 0
  -- an opened connection is dropped, or in its call, or in its session
  accounts : ∀ id, l.opened.count id = late.count id + p.dropped.count id +
    (calls.filterMap Call.handshake?).count id + (p.sessions.filterMap connectionId?).count id

private theorem count_filterMap_modify {α : Type} {f : α → Option Nat} {g : α → α} {xs : List α}
    {i : Nat} {x : α} (h : xs[i]? = some x) (n : Nat) :
    ((xs.modify i g).filterMap f).count n + (if f x = some n then 1 else 0) =
      (xs.filterMap f).count n + if f (g x) = some n then 1 else 0 := by
  induction xs generalizing i with
  | nil => simp at h
  | cons a xs ih =>
    cases i with
    | zero =>
      obtain rfl : a = x := by simpa using h
      cases ha : f a <;> cases hg : f (g a) <;> simp [ha, hg, List.count_cons]
      omega
    | succ i =>
      have := ih (i := i) (by simpa using h)
      cases ha : f a <;> simp [ha, List.count_cons] <;> omega

@[simp] theorem session?_modifySession (p : Pool) (s t : Nat) (f : Session → Session) :
    (p.modifySession s f).session? t = if s = t then (p.session? t).map f else p.session? t := by
  by_cases h : s = t
  · simp [modifySession, session?, h]
  · simp [modifySession, session?, h]

@[simp] theorem dropped_record_drop (p : Pool) (id : Nat) :
    (p.record (.drop id)).dropped = id :: p.dropped := rfl

section

variable {calls calls' : List Call} {holds holds' late late' : List Nat} {l : Ledger} {p : Pool}
  {key : Key} {s : Nat} {x : Session}

/-- Soundness reads the slots, the handles, the sessions, the attempts and the recorded drops. -/
theorem Sound.congr {q : Pool} (h : Sound calls holds late l p) (hentries : q.entries = p.entries)
    (hhandles : q.handles = p.handles) (hsessions : q.sessions = p.sessions)
    (hattempts : q.attempts = p.attempts)
    (hlate : ∀ id, late'.count id + q.dropped.count id = late.count id + p.dropped.count id) :
    Sound calls holds late' l q := by
  have hslot : q.slot = p.slot := by
    funext k
    rw [slot, slot, hentries]
  have hrefs : q.refs calls holds = p.refs calls holds := by
    funext s
    rw [refs, refs, hentries, hhandles]
  have hsession : q.session? = p.session? := by
    funext s
    rw [session?, session?, hsessions]
  constructor
  case entries_nodup => simpa only [hentries] using h.entries_nodup
  case handles_nodup => simpa only [hhandles] using h.handles_nodup
  case marks => simpa only [hslot] using h.marks
  case live => simpa only [hslot] using h.live
  case inRange => simpa only [hrefs, hsessions] using h.inRange
  case fits => simpa only [hrefs, hsession] using h.fits
  case made => simpa only [hsessions] using h.made
  case taken => exact h.taken
  case issued => simpa only [hattempts] using h.issued
  case accounts =>
    intro id
    have hacc := h.accounts id
    have := hlate id
    rw [hsessions]
    omega

theorem Sound.recordDrop {id : Nat} (h : Sound calls holds (id :: late) l p) :
    Sound calls holds late l (p.record (.drop id)) := by
  refine h.congr rfl rfl rfl rfl fun n => ?_
  simp only [dropped_record_drop, List.count_cons]
  omega

theorem Sound.record {o : Occurrence} (h : Sound calls holds late l p)
    (ho : (p.record o).dropped = p.dropped) : Sound calls holds late l (p.record o) :=
  h.congr rfl rfl rfl rfl fun _ => by rw [ho]

theorem Sound.log {e : Log.Event} (h : Sound calls holds late l p) :
    Sound calls holds late l (p.log e) :=
  h.record rfl

/-- A session changes, and is entered as taken or not. The rest of the pool stays as it is. -/
theorem Sound.modifyTaken {f : Session → Session} {taken : List Nat}
    (h : Sound calls holds late l p) (hs : p.session? s = some x)
    (hkey : calls'.filterMap Call.key? = calls.filterMap Call.key?)
    (hattempt : calls'.filterMap Call.attempt? = calls.filterMap Call.attempt?)
    (hhandshake : calls'.filterMap Call.handshake? = calls.filterMap Call.handshake?)
    (hother : ∀ t, t ≠ s → holds'.count t = holds.count t ∧
      calls'.count (.borrowing t) = calls.count (.borrowing t) ∧ (t ∈ taken ↔ t ∈ l.taken))
    (hlive : ∀ key, p.slot key = .live s → s ∉ taken)
    (htaken : s ∈ taken → ∃ id key, ⟨id, s, some key⟩ ∈ l.made)
    (hfits : Fits { l with taken } (p.refs calls' holds' s) (calls'.count (.borrowing s)) s (f x))
    (hlate : ∀ id, late'.count id + (if (f x).connectionId? = some id then 1 else 0) =
      late.count id + if x.connectionId? = some id then 1 else 0) :
    Sound calls' holds' late' { l with taken } (p.modifySession s f) := by
  have hrefs : ∀ t, t ≠ s → p.refs calls' holds' t = p.refs calls holds t := by
    intro t ht
    rw [refs, refs, (hother t ht).1, (hother t ht).2.1]
  have hlen : (p.modifySession s f).sessions.length = p.sessions.length := by
    simp [modifySession]
  constructor
  case entries_nodup => exact h.entries_nodup
  case handles_nodup => exact h.handles_nodup
  case marks =>
    rw [hkey]
    exact h.marks
  case live =>
    intro key t ht
    refine ⟨?_, (h.live key t ht).2⟩
    by_cases hts : t = s
    · subst t
      exact hlive key ht
    · rw [(hother t hts).2.2]
      exact (h.live key t ht).1
  case inRange =>
    intro t ht
    rw [hlen]
    by_cases hts : t = s
    · subst t
      exact (List.getElem?_eq_some_iff.mp hs).1
    · exact h.inRange t (hrefs t hts ▸ ht)
  case fits =>
    intro t y ht
    rw [session?_modifySession] at ht
    by_cases hts : t = s
    · subst t
      obtain rfl : f x = y := by simpa [hs] using ht
      exact hfits
    · rw [if_neg (Ne.symm hts)] at ht
      have hfit := h.fits t y ht
      rw [← hrefs t hts, ← (hother t hts).2.1] at hfit
      exact { hfit with closed := hfit.closed.trans (hother t hts).2.2.symm }
  case made =>
    rw [hlen]
    exact h.made
  case taken =>
    intro t ht
    by_cases hts : t = s
    · subst t
      exact htaken ht
    · exact h.taken t ((hother t hts).2.2.mp ht)
  case issued =>
    rw [hattempt]
    exact h.issued
  case accounts =>
    intro id
    have hacc := h.accounts id
    have hcount := count_filterMap_modify (f := Session.connectionId?) (g := f) hs id
    have := hlate id
    rw [hhandshake]
    show l.opened.count id =
      _ + p.dropped.count id + _ + ((p.sessions.modify s f).filterMap _).count id
    omega

/-- A session changes, while the rest of the pool stays as it is. -/
theorem Sound.modify {f : Session → Session} (h : Sound calls holds late l p)
    (hs : p.session? s = some x)
    (hkey : calls'.filterMap Call.key? = calls.filterMap Call.key?)
    (hattempt : calls'.filterMap Call.attempt? = calls.filterMap Call.attempt?)
    (hhandshake : calls'.filterMap Call.handshake? = calls.filterMap Call.handshake?)
    (hother : ∀ t, t ≠ s → holds'.count t = holds.count t ∧
      calls'.count (.borrowing t) = calls.count (.borrowing t))
    (hfits : Fits l (p.refs calls' holds' s) (calls'.count (.borrowing s)) s (f x))
    (hlate : ∀ id, late'.count id + (if (f x).connectionId? = some id then 1 else 0) =
      late.count id + if x.connectionId? = some id then 1 else 0) :
    Sound calls' holds' late' l (p.modifySession s f) :=
  h.modifyTaken hs hkey hattempt hhandshake (fun t ht => ⟨(hother t ht).1, (hother t ht).2, .rfl⟩)
    (fun key hkey => (h.live key s hkey).1) (h.taken s) hfits hlate

theorem Sound.exists_session (h : Sound calls holds late l p)
    (hs : 0 < p.refs calls holds s) : ∃ x, p.session? s = some x :=
  ⟨_, List.getElem?_eq_getElem (h.inRange s hs)⟩

theorem refs_cons_self : p.refs calls (s :: holds) s = p.refs calls holds s + 1 := by
  simp only [refs, List.count_cons_self]
  omega

theorem count_cons_of_ne_self {t : Nat} (h : t ≠ s) : (s :: holds).count t = holds.count t :=
  List.count_cons_of_ne (Ne.symm h)

/-- A new hold is taken on a session that is referred to already. -/
theorem Sound.retain (h : Sound calls holds late l p) (hs : 0 < p.refs calls holds s) :
    Sound calls (s :: holds) late l (p.retain s) := by
  obtain ⟨x, hx⟩ := h.exists_session hs
  have hfit := h.fits s x hx
  refine h.modify hx rfl rfl rfl (fun t ht => ⟨count_cons_of_ne_self ht, rfl⟩) ?_ (fun _ => rfl)
  refine { hfit with holders := ?_, connected := ?_ }
  · rw [refs_cons_self, ← hfit.holders]
  · have hpos : 0 < x.holders := by
      rw [hfit.holders]
      exact hs
    rw [hfit.connected]
    simp [hpos]

private theorem letGo_of_lt (hx : p.session? s = some x) (hlt : 1 < x.holders) :
    p.letGo s = p.modifySession s fun x => { x with holders := x.holders - 1 } := by
  have hne : (x.holders - 1 == 0) = false := by
    simp only [beq_eq_false_iff_ne]
    omega
  simp [letGo, hx, hne]

private theorem letGo_of_eq_one (hx : p.session? s = some x) (hone : x.holders = 1) :
    p.letGo s = match x.connection with
      | some c => (p.modifySession s fun x =>
          { x with holders := x.holders - 1, connection := none }).record (.drop c.id)
      | none => p.modifySession s fun x => { x with holders := x.holders - 1 } := by
  cases hc : x.connection with
  | none => simp [letGo, hx, hone, dropConnection, hc]
  | some c =>
    simp [letGo, hx, hone, dropConnection, hc]
    simp [modifySession, List.modify_modify_eq, Function.comp_def]

/-- A hold is given up, and with the last hold the connection. -/
theorem Sound.letGo (h : Sound calls (s :: holds) late l p) :
    Sound calls holds late l (p.letGo s) := by
  obtain ⟨x, hx⟩ := h.exists_session (s := s) (by rw [refs_cons_self]; omega)
  have hfit := h.fits s x hx
  have hholders := hfit.holders
  rw [refs_cons_self] at hholders
  have hother : ∀ t, t ≠ s → holds.count t = (s :: holds).count t ∧
      calls.count (.borrowing t) = calls.count (.borrowing t) :=
    fun t ht => ⟨(count_cons_of_ne_self ht).symm, rfl⟩
  by_cases hone : x.holders = 1
  · have hzero : p.refs calls holds s = 0 := by omega
    rw [letGo_of_eq_one hx hone]
    cases hc : x.connection with
    | none =>
      refine h.modify hx rfl rfl rfl hother ?_ (fun _ => rfl)
      exact { hfit with holders := by simp [hone, hzero], connected := by simp [hone, hc] }
    | some c =>
      refine Sound.recordDrop (h.modify hx rfl rfl rfl hother ?_ fun id => ?_)
      · exact {
          holders := by simp [hone, hzero]
          borrowed := hfit.borrowed
          connected := by simp [hone]
          closed := hfit.closed
          origin := by simp }
      · simp [Session.connectionId?, hc, List.count_cons]
  · rw [letGo_of_lt hx (by omega)]
    refine h.modify hx rfl rfl rfl hother ?_ (fun _ => rfl)
    refine { hfit with holders := by simp only; omega, connected := ?_ }
    have hiff : 0 < x.holders - 1 ↔ 0 < x.holders := by omega
    rw [hfit.connected]
    simp only [hiff]

theorem Sound.made_unique {id id' : Nat} {owner owner' : Option Key}
    (h : Sound calls holds late l p) (hmade : ⟨id, s, owner⟩ ∈ l.made)
    (hmade' : ⟨id', s, owner'⟩ ∈ l.made) : id = id' ∧ owner = owner' := by
  have hnodup : (l.made.map Made.session).Nodup := h.made ▸ List.nodup_range
  simpa using List.inj_on_of_nodup_map hnodup hmade hmade' rfl

theorem Sound.live_unique {key' : Key} (h : Sound calls holds late l p)
    (hs : p.slot key = .live s) (hs' : p.slot key' = .live s) : key = key' := by
  obtain ⟨-, id, hmade⟩ := h.live key s hs
  obtain ⟨-, id', hmade'⟩ := h.live key' s hs'
  simpa using (h.made_unique hmade hmade').2

theorem Sound.lt_of_made {id : Nat} {owner : Option Key} (h : Sound calls holds late l p)
    (hmade : ⟨id, s, owner⟩ ∈ l.made) : s < p.sessions.length := by
  have hmem := List.mem_map_of_mem (f := Made.session) hmade
  rw [h.made] at hmem
  exact List.mem_range.mp hmem

theorem Sound.lt_of_taken (h : Sound calls holds late l p) (hs : s ∈ l.taken) :
    s < p.sessions.length := by
  obtain ⟨id, key, hmade⟩ := h.taken s hs
  exact h.lt_of_made hmade

/-! ### Slots -/

theorem entries_setSlot {v : Slot} (hp : p.slots.isSome) :
    (p.setSlot key v).entries = assign key v p.entries := by
  obtain ⟨es, hes⟩ := Option.isSome_iff_exists.mp hp
  simp [entries, setSlot, hes]

theorem slot_setSlot {v : Slot} (hp : p.slots.isSome) (k : Key) :
    (p.setSlot key v).slot k = if k = key then v else p.slot k := by
  rw [slot, entries_setSlot hp, lookup_assign]
  by_cases hk : k = key <;> simp [hk, slot]

theorem isSome_slots_of_slot_ne (h : p.slot key ≠ .vacant) : p.slots.isSome := by
  cases hp : p.slots with
  | none => simp [slot, entries, hp] at h
  | some es => rfl

theorem lookup_eq_some_live : p.entries.lookup key = some (.live s) ↔ p.slot key = .live s := by
  cases h : p.entries.lookup key <;> simp [slot, h]

theorem refs_pos_of_live (hs : p.slot key = .live s) : 0 < p.refs calls holds s := by
  have hmem := List.mem_map_of_mem (f := Prod.snd) (mem_of_lookup (lookup_eq_some_live.mpr hs))
  have hpos : 0 < (p.entries.map Prod.snd).count (.live s) := List.count_pos_iff.mpr hmem
  rw [refs]
  omega

/-- The slot of a key changes. What that means for what is in hand is left to the hypotheses. -/
theorem Sound.setSlot {v : Slot} (h : Sound calls holds late l p) (hp : p.slots.isSome)
    (hmarks : ∀ k, (calls'.filterMap Call.key?).count k =
      if (if k = key then v else p.slot k) = .pending then 1 else 0)
    (hattempt : ∀ id, (calls'.filterMap Call.attempt?).count id ≤
      (calls.filterMap Call.attempt?).count id)
    (hhandshake : ∀ id, late'.count id + (calls'.filterMap Call.handshake?).count id =
      late.count id + (calls.filterMap Call.handshake?).count id)
    (hborrow : ∀ s, calls'.count (.borrowing s) = calls.count (.borrowing s))
    (hholds : ∀ s, holds'.count s + (if v = .live s then 1 else 0) =
      holds.count s + if p.slot key = .live s then 1 else 0)
    (hlive : ∀ s, v = .live s → s ∉ l.taken ∧ ∃ id, ⟨id, s, some key⟩ ∈ l.made) :
    Sound calls' holds' late' l (p.setSlot key v) := by
  have hrefs : ∀ s, (p.setSlot key v).refs calls' holds' s = p.refs calls holds s := by
    intro s
    have hcount := count_assign key v (.live s) p.entries
    have := hholds s
    simp only [lookup_eq_some_live] at hcount
    rw [refs, refs, entries_setSlot hp, hborrow]
    show _ + _ + (p.handles.map Prod.snd).count s + _ = _
    omega
  constructor
  case entries_nodup =>
    rw [entries_setSlot hp]
    exact nodup_assign _ _ h.entries_nodup
  case handles_nodup => exact h.handles_nodup
  case marks =>
    intro k
    rw [slot_setSlot hp]
    exact hmarks k
  case live =>
    intro k s hk
    rw [slot_setSlot hp] at hk
    split at hk
    next he => exact he ▸ hlive s hk
    next => exact h.live k s hk
  case inRange =>
    intro s hs
    exact h.inRange s (hrefs s ▸ hs)
  case fits =>
    intro s x hx
    rw [hrefs, hborrow]
    exact h.fits s x hx
  case made => exact h.made
  case taken => exact h.taken
  case issued =>
    intro id
    exact Nat.le_trans (Nat.add_le_add_right (hattempt id) _) (h.issued id)
  case accounts =>
    intro id
    have hacc := h.accounts id
    have := hhandshake id
    show _ = _ + p.dropped.count id + _ + (p.sessions.filterMap Session.connectionId?).count id
    omega

/-- A vacant key becomes pending when a call for it is taken in hand. -/
theorem Sound.mark (h : Sound calls holds late l p) (hp : p.slots.isSome)
    (hvacant : p.slot key = .vacant) (server : String) :
    Sound (.askingServer key server :: calls) holds late l (p.setSlot key .pending) := by
  refine h.setSlot hp (fun k => ?_) (fun _ => Nat.le_refl _) (fun _ => rfl) (fun s => ?_)
    (fun s => ?_) (fun s hs => ?_)
  · have := h.marks k
    by_cases hk : k = key
    · subst k
      simpa [Call.key?, hvacant] using this
    · simpa [Call.key?, hk, List.count_cons, Ne.symm hk] using this
  · simp
  · simp [hvacant]
  · simp at hs

theorem Sound.pending_of_mem {c : Call} (h : Sound calls holds late l p) (hmem : c ∈ calls)
    (hc : c.key? = some key) : p.slot key = .pending := by
  have hcount : 0 < (calls.filterMap Call.key?).count key :=
    List.count_pos_iff.mpr (List.mem_filterMap.mpr ⟨c, hmem, hc⟩)
  rw [h.marks key] at hcount
  by_contra hne
  simp [hne] at hcount

private theorem Sound.marks_tail {c : Call} {v : Slot} (h : Sound (c :: calls) holds late l p)
    (hc : c.key? = some key) (hv : v ≠ .pending) (k : Key) :
    (calls.filterMap Call.key?).count k =
      if (if k = key then v else p.slot k) = .pending then 1 else 0 := by
  have := h.marks k
  simp only [List.filterMap_cons, hc] at this
  by_cases hk : k = key
  · subst k
    simpa [h.pending_of_mem List.mem_cons_self hc, hv] using this
  · simpa [hk, List.count_cons, Ne.symm hk] using this

/-- A call in hand is given up: its key becomes vacant, and its connection is to be dropped. -/
theorem Sound.giveUp {c : Call} (h : Sound (c :: calls) holds late l p)
    (hc : ∀ s, c ≠ .borrowing s) :
    Sound calls holds (c.handshake?.toList ++ late) l (p.vacate c.key?) := by
  have hattempt : ∀ id, (calls.filterMap Call.attempt?).count id ≤
      ((c :: calls).filterMap Call.attempt?).count id :=
    fun id => ((List.sublist_cons_self c calls).filterMap _).count_le id
  have hhandshake : ∀ id, (c.handshake?.toList ++ late).count id +
      (calls.filterMap Call.handshake?).count id =
      late.count id + ((c :: calls).filterMap Call.handshake?).count id := by
    intro id
    cases hs : c.handshake? <;> simp [hs, List.count_cons]
    omega
  have hborrow : ∀ s, calls.count (.borrowing s) = (c :: calls).count (.borrowing s) :=
    fun s => (List.count_cons_of_ne (hc s)).symm
  cases hkey : c.key? with
  | some key =>
    have hpending := h.pending_of_mem List.mem_cons_self hkey
    have hne : p.slot key ≠ .vacant := by simp [hpending]
    exact h.setSlot (isSome_slots_of_slot_ne hne) (h.marks_tail hkey (by simp)) hattempt hhandshake
      hborrow (by simp [hpending]) (by simp)
  | none =>
    show Sound calls holds (c.handshake?.toList ++ late) l p
    have hrefs : ∀ s, p.refs calls holds s = p.refs (c :: calls) holds s := by
      intro s
      rw [refs, refs, hborrow]
    refine { h with marks := ?_, inRange := ?_, fits := ?_, issued := ?_, accounts := ?_ }
    · intro k
      simpa [hkey] using h.marks k
    · intro s hs
      exact h.inRange s (hrefs s ▸ hs)
    · intro s x hx
      rw [hrefs, hborrow]
      exact h.fits s x hx
    · intro id
      exact Nat.le_trans (Nat.add_le_add_right (hattempt id) _) (h.issued id)
    · intro id
      have hacc := h.accounts id
      have := hhandshake id
      show _ = _ + p.dropped.count id + _ + (p.sessions.filterMap Session.connectionId?).count id
      omega

/-- A pending key gets the session that a call in hand has established for it. -/
theorem Sound.fill {c : Call} {id : Nat} (h : Sound (c :: calls) (s :: holds) late l p)
    (hc : c.key? = some key) (hhandshake : c.handshake? = none)
    (hmade : ⟨id, s, some key⟩ ∈ l.made) (htaken : s ∉ l.taken) :
    Sound calls holds late l (p.setSlot key (.live s)) := by
  have hpending := h.pending_of_mem List.mem_cons_self hc
  have hne : p.slot key ≠ .vacant := by simp [hpending]
  refine h.setSlot (isSome_slots_of_slot_ne hne) (h.marks_tail hc (by simp)) (fun id => ?_)
    (fun id => by simp [hhandshake]) (fun t => ?_) (fun t => ?_) (fun t ht => ?_)
  · exact ((List.sublist_cons_self c calls).filterMap _).count_le id
  · refine (List.count_cons_of_ne ?_).symm
    intro heq
    subst heq
    simp [Call.key?] at hc
  · simp [hpending, List.count_cons]
  · obtain rfl : s = t := by simpa using ht
    exact ⟨htaken, id, hmade⟩

/-- A session is taken out of its slot, together with the hold that the slot has on it. -/
theorem Sound.take (h : Sound calls holds late l p) (hs : p.slot key = .live s) :
    Sound calls (s :: holds) late l (p.setSlot key .vacant) := by
  have hne : p.slot key ≠ .vacant := by simp [hs]
  refine h.setSlot (isSome_slots_of_slot_ne hne) (fun k => ?_) (fun _ => Nat.le_refl _)
    (fun _ => rfl) (fun _ => rfl) (fun t => ?_) (fun t ht => ?_)
  · rw [h.marks k]
    by_cases hk : k = key
    · simp [hk, hs]
    · simp [hk]
  · simp [hs, List.count_cons]
  · simp at ht

theorem Sound.not_live_of_take (h : Sound calls holds late l p) (hs : p.slot key = .live s)
    (k : Key) : (p.setSlot key .vacant).slot k ≠ .live s := by
  have hne : p.slot key ≠ .vacant := by simp [hs]
  intro hk
  rw [slot_setSlot (isSome_slots_of_slot_ne hne)] at hk
  split at hk
  next => simp at hk
  next hother => exact hother (h.live_unique hk hs)

end

end Pool

end RemoteFirebird
