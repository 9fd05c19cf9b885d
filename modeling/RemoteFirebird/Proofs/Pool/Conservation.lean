import RemoteFirebird.Proofs.Pool.Step

/-!
# Conservation of connections

Every connection that has been opened is in one place: in the call that is setting it up, in the
session that owns it, or among those that have been dropped. A session keeps its connection for as
long as anybody refers to it, unless it has been closed and is not borrowed.
-/

namespace RemoteFirebird.Pool

open Session

variable {calls : List Call} {holds late : List Nat} {p : Pool} {l : Ledger} {s id : Nat}
  {x : Session} {c : Connection} {owner : Option Key}

/-- The connections that are open: those that are being set up, and those of sessions. -/
def undropped (p : Pool) : List Nat :=
  p.calls.filterMap Call.handshake? ++ p.sessions.filterMap connectionId?

/-- A session is referred to by its slot, by a handle or by a running borrow. -/
def Referenced (p : Pool) (s : Nat) : Prop :=
  (∃ key, p.slot key = .live s) ∨ s ∈ p.handles.map Prod.snd ∨ .borrowing s ∈ p.calls

theorem Sound.refs_pos_iff (h : Sound calls holds late l p) :
    0 < p.refs p.calls [] s ↔ p.Referenced s := by
  have hslot : 0 < (p.entries.map Prod.snd).count (.live s) ↔ ∃ key, p.slot key = .live s := by
    rw [List.count_pos_iff, List.mem_map]
    constructor
    · intro hex
      obtain ⟨⟨key, v⟩, hmem, rfl⟩ := hex
      exact ⟨key, lookup_eq_some_live.mp (lookup_of_mem h.entries_nodup hmem)⟩
    · intro hex
      obtain ⟨key, hkey⟩ := hex
      exact ⟨_, mem_of_lookup (lookup_eq_some_live.mpr hkey), rfl⟩
  have hhandle : 0 < (p.handles.map Prod.snd).count s ↔ s ∈ p.handles.map Prod.snd :=
    List.count_pos_iff
  have hborrow : 0 < p.calls.count (.borrowing s) ↔ .borrowing s ∈ p.calls := List.count_pos_iff
  rw [Referenced, ← hslot, ← hhandle, ← hborrow, refs, List.count_nil]
  omega

theorem Sound.borrowed_iff (h : Sound calls holds late l p) (hx : p.session? s = some x) :
    x.borrowed = true ↔ .borrowing s ∈ calls := by
  have hborrows := (h.fits s x hx).borrowed
  rw [← List.count_pos_iff, hborrows]
  cases x.borrowed <;> simp

theorem Sound.connected_iff (h : Sound p.calls [] late l p) (hx : p.session? s = some x) :
    x.connection.isSome ↔ p.Referenced s ∧ (x.closed = false ∨ .borrowing s ∈ p.calls) := by
  have hfit := h.fits s x hx
  rw [hfit.connected, hfit.holders, h.refs_pos_iff, h.borrowed_iff hx]

private theorem Sound.connectionId_eq (h : Sound calls holds late l p)
    (hmade : ⟨id, s, owner⟩ ∈ l.made)
    (hx : p.session? s = some x) (hc : x.connection = some c) : c.id = id := by
  obtain ⟨owner', hmade'⟩ := (h.fits s x hx).origin c hc
  exact (h.made_unique hmade' hmade).1

private theorem Sound.exists_of_made (h : Sound calls holds late l p)
    (hmade : ⟨id, s, owner⟩ ∈ l.made) :
    ∃ x, p.session? s = some x :=
  ⟨_, List.getElem?_eq_getElem (h.lt_of_made hmade)⟩

private theorem mem_connectionIds :
    id ∈ p.sessions.filterMap connectionId? ↔
      ∃ s x c, p.session? s = some x ∧ x.connection = some c ∧ c.id = id := by
  rw [List.mem_filterMap]
  constructor
  · intro hex
    obtain ⟨x, hmem, hid⟩ := hex
    obtain ⟨s, hs⟩ := List.getElem?_of_mem hmem
    obtain ⟨c, hc, rfl⟩ := Option.map_eq_some_iff.mp hid
    exact ⟨s, x, c, hs, hc, rfl⟩
  · intro hex
    obtain ⟨s, x, c, hs, hc, rfl⟩ := hex
    exact ⟨x, List.mem_of_getElem? hs, by simp [connectionId?, hc]⟩

/-! ### Where connections are -/

private theorem Sound.perm_opened (h : Sound p.calls [] [] l p) :
    l.opened.Perm (p.dropped ++ p.undropped) := by
  rw [List.perm_iff_count]
  intro id
  have hacc := h.accounts id
  rw [undropped, List.count_append, List.count_append, hacc, List.count_nil]
  omega

private theorem Sound.nodup_opened (h : Sound calls holds late l p) : l.opened.Nodup := by
  rw [List.nodup_iff_count_le_one]
  intro id
  have hissued := h.issued id
  split at hissued <;> omega

private theorem Sound.not_mem_dropped_iff (h : Sound p.calls [] [] l p) (hid : id ∈ l.opened) :
    id ∉ p.dropped ↔ id ∈ p.undropped := by
  have hnodup : (p.dropped ++ p.undropped).Nodup := h.perm_opened.nodup_iff.mp h.nodup_opened
  have hmem : id ∈ p.dropped ++ p.undropped := h.perm_opened.mem_iff.mp hid
  rw [List.mem_append] at hmem
  have hdisjoint := List.disjoint_of_nodup_append hnodup
  exact ⟨hmem.resolve_left, fun hopen hdrop => hdisjoint hdrop hopen⟩

private theorem Sound.mem_opened_of_undropped (h : Sound p.calls [] [] l p)
    (hid : id ∈ p.undropped) :
    id ∈ l.opened :=
  h.perm_opened.mem_iff.mpr (List.mem_append_right _ hid)

private theorem Sound.mem_undropped_iff (h : Sound p.calls [] [] l p) :
    id ∈ p.undropped ↔ (∃ c ∈ p.calls, c.handshake? = some id) ∨
      ∃ s owner x, ⟨id, s, owner⟩ ∈ l.made ∧ p.session? s = some x ∧ p.Referenced s ∧
        (x.closed = false ∨ .borrowing s ∈ p.calls) := by
  rw [undropped, List.mem_append, List.mem_filterMap, mem_connectionIds]
  apply or_congr Iff.rfl
  constructor
  · intro hex
    obtain ⟨s, x, c, hx, hc, rfl⟩ := hex
    obtain ⟨owner, hmade⟩ := (h.fits s x hx).origin c hc
    exact ⟨s, owner, x, hmade, hx, (h.connected_iff hx).mp (by simp [hc])⟩
  · intro hex
    obtain ⟨s, owner, x, hmade, hx, hconnected⟩ := hex
    obtain ⟨c, hc⟩ := Option.isSome_iff_exists.mp ((h.connected_iff hx).mpr hconnected)
    exact ⟨s, x, c, hx, hc, h.connectionId_eq hmade hx hc⟩

/-! ### When connections are dropped -/

private theorem Sound.mem_undropped_of_borrowing (h : Sound p.calls [] [] l p)
    (hmade : ⟨id, s, owner⟩ ∈ l.made) (hborrow : .borrowing s ∈ p.calls) : id ∈ p.undropped := by
  obtain ⟨x, hx⟩ := h.exists_of_made hmade
  exact h.mem_undropped_iff.mpr
    (.inr ⟨s, owner, x, hmade, hx, .inr (.inr hborrow), .inr hborrow⟩)

private theorem dropped_letGo_of_none (hx : p.session? s = some x) (hc : x.connection = none) :
    (p.letGo s).dropped = p.dropped := by
  have hnone : ((p.modifySession s fun x => { x with holders := x.holders - 1 }).session? s).bind
      Session.connection = none := by
    simp [hx, hc]
  simp only [letGo, dropConnection, hnone]
  split <;> rfl

private theorem Sound.dropped_endBorrow (h : Sound p.calls [] [] l p)
    (hmade : ⟨id, s, owner⟩ ∈ l.made)
    (hcalls : p.calls = .borrowing s :: calls) (hx : p.session? s = some x)
    (hclosed : x.closed = true) : (p.step .endBorrow).dropped = id :: p.dropped := by
  have hborrow : .borrowing s ∈ p.calls := hcalls ▸ List.mem_cons_self
  have hconnected := (h.connected_iff hx).mpr ⟨.inr (.inr hborrow), .inr hborrow⟩
  obtain ⟨c, hc⟩ := Option.isSome_iff_exists.mp hconnected
  obtain rfl := h.connectionId_eq hmade hx hc
  show p.endBorrow.dropped = _
  rw [endBorrow_of_closed hcalls hx hclosed hc]
  refine dropped_letGo_of_none (x := { x with borrowed := false, connection := none }) ?_ rfl
  show (p.modifySession s fun x => { x with borrowed := false, connection := none }).session? s = _
  simp [hx]

private theorem settle_of_not_ready {login : Login} (keep : Option String)
    (hcalls : p.calls = .opened owner login c :: calls) (hready : c.condition.ready = false) :
    p.settle.2 = .finished (.error (.notEstablished login.path c.condition.message)) ∧
      (p.step (.settle keep)).calls = calls ∧
      (p.step (.settle keep)).dropped = c.id :: p.dropped := by
  simp only [step, result, act, settle, hcalls, hready, Bool.false_eq_true, if_false,
    Progress.session?, calls_vacate]
  refine ⟨trivial, rfl, ?_⟩
  cases owner <;> rfl

/-- What holds of connections after every run, whatever calls are still under way. -/
theorem connection_conservation (encoding : String) (ms : List Move) :
    let p := (start encoding).after ms
    let l := (start encoding).ledger ms
    -- no connection is opened twice, and each one is either dropped, once, or open
    l.opened.Nodup ∧ l.opened.Perm (p.dropped ++ p.undropped) ∧
    -- those are open that are being set up or that their sessions need
    (∀ id ∈ l.opened, id ∉ p.dropped ↔ (∃ c ∈ p.calls, c.handshake? = some id) ∨
      ∃ s owner x, ⟨id, s, owner⟩ ∈ l.made ∧ p.session? s = some x ∧ p.Referenced s ∧
        (x.closed = false ∨ .borrowing s ∈ p.calls)) ∧
    -- a connection is not dropped while it is borrowed
    (∀ id s owner, ⟨id, s, owner⟩ ∈ l.made → .borrowing s ∈ p.calls → id ∉ p.dropped) ∧
    -- a borrow whose session has been closed ends by dropping its connection
    (∀ id s owner calls x, ⟨id, s, owner⟩ ∈ l.made → p.calls = .borrowing s :: calls →
      p.session? s = some x → x.closed = true →
      (p.step .endBorrow).dropped = id :: p.dropped) ∧
    -- a connection that is not ready is dropped when its call ends
    ∀ keep owner login c calls, p.calls = .opened owner login c :: calls →
      c.condition.ready = false →
      p.settle.2 = .finished (.error (.notEstablished login.path c.condition.message)) ∧
        (p.step (.settle keep)).calls = calls ∧
        (p.step (.settle keep)).dropped = c.id :: p.dropped := by
  intro p l
  have h : Sound p.calls [] [] l p := sound_after encoding ms
  refine ⟨h.nodup_opened, h.perm_opened, ?_, ?_, ?_, ?_⟩
  · intro id hid
    rw [h.not_mem_dropped_iff hid, h.mem_undropped_iff]
  · intro id s owner hmade hborrow
    have hopen := h.mem_undropped_of_borrowing hmade hborrow
    exact (h.not_mem_dropped_iff (h.mem_opened_of_undropped hopen)).mpr hopen
  · intro id s owner calls x hmade hcalls hx hclosed
    exact h.dropped_endBorrow hmade hcalls hx hclosed
  · intro keep owner login c calls hcalls hready
    exact settle_of_not_ready keep hcalls hready

end RemoteFirebird.Pool
