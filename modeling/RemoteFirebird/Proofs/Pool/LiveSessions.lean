import RemoteFirebird.Proofs.Pool.Step

/-!
# Live sessions

The sessions in the slots of a pool are open and have their connections, and a slot whose session
is being established holds none. That is why closing all sessions closes just as many as are
counted, and why a session is closed only by being taken from its slot.
-/

namespace RemoteFirebird.Pool

open Session

variable {calls : List Call} {holds late : List Nat} {p : Pool} {l : Ledger} {key : Key} {s : Nat}
  {x : Session}

private theorem Sound.session?_isSome_iff (h : Sound calls holds late l p) :
    (p.session? s).isSome ↔ s < l.made.length := by
  have hlen : l.made.length = p.sessions.length := by
    rw [← List.length_map (f := Made.session), h.made, List.length_range]
  simp [session?, hlen]

private theorem Sound.connection_of_refs (h : Sound calls holds late l p)
    (hs : 0 < p.refs calls holds s) (htaken : s ∉ l.taken) :
    ∃ x, p.session? s = some x ∧ x.closed = false ∧ x.connection.isSome := by
  obtain ⟨x, hx⟩ := h.exists_session hs
  have hfit := h.fits s x hx
  have hclosed : x.closed = false := by
    rw [← Bool.not_eq_true, hfit.closed]
    exact htaken
  refine ⟨x, hx, hclosed, ?_⟩
  rw [hfit.connected, hfit.holders]
  exact ⟨hs, .inl hclosed⟩

theorem Sound.open_of_live (h : Sound calls holds late l p) (hs : p.slot key = .live s) :
    ∃ x, p.session? s = some x ∧ x.closed = false ∧ x.connection.isSome :=
  h.connection_of_refs (refs_pos_of_live hs) (h.live key s hs).1

theorem Sound.pending_iff (h : Sound calls holds late l p) :
    p.slot key = .pending ↔ ∃ c ∈ calls, c.key? = some key := by
  have hmark := h.marks key
  rw [← List.mem_filterMap, ← List.count_pos_iff, hmark]
  by_cases hpending : p.slot key = .pending
  · simp [hpending]
  · simp [hpending]

private theorem Sound.open_of_result {m : Move} (h : Sound p.calls [] [] l p)
    (hs : p.result m = some s) :
    ∃ x, (p.act m).1.session? s = some x ∧ x.closed = false ∧ x.connection.isSome := by
  have hact : Sound (p.act m).1.calls (p.result m).toList [] (l.enter p m) (p.act m).1 := h.act m
  rw [hs] at hact
  refine hact.connection_of_refs ?_ ?_
  · rw [Option.toList_some, refs_cons_self]
    exact Nat.succ_pos _
  · rcases result_eq_some hs with ⟨key, server, keep, rfl, hlive⟩ | ⟨⟨keep, rfl⟩, rfl⟩
    · simpa [Ledger.enter, takes] using (h.live key s hlive).1
    · intro htaken
      have hold : p.sessions.length ∈ l.taken := by simpa [Ledger.enter, takes] using htaken
      exact Nat.lt_irrefl _ (h.lt_of_taken hold)

theorem Sound.closed_closeAll (h : Sound p.calls [] [] l p) (hx : p.session? s = some x) :
    ∃ y, p.closeAll.1.session? s = some y ∧
      (y.closed = true ↔ x.closed = true ∨ ∃ key, p.slot key = .live s) := by
  have hclosed := h.closeAll.1
  have hsome : (p.closeAll.1.session? s).isSome := by
    rw [hclosed.session?_isSome_iff, ← h.session?_isSome_iff, hx]
    rfl
  obtain ⟨y, hy⟩ := Option.isSome_iff_exists.mp hsome
  refine ⟨y, hy, ?_⟩
  rw [(hclosed.fits s y hy).closed, (h.fits s x hx).closed, ← h.mem_takes_closeAll]
  exact List.mem_append

private theorem closed_after {encoding : String} {ms : List Move} (ns : List Move)
    (hx : ((start encoding).after ms).session? s = some x) (hclosed : x.closed = true) :
    ∃ y, ((start encoding).after (ms ++ ns)).session? s = some y ∧ y.closed = true := by
  have hms := sound_after encoding ms
  have hall := sound_after encoding (ms ++ ns)
  have hmade : s < ((start encoding).ledger (ms ++ ns)).made.length := by
    have hlt : s < ((start encoding).ledger ms).made.length := by
      rw [← hms.session?_isSome_iff, hx]
      rfl
    simp only [ledger, gather_append, List.length_append] at hlt ⊢
    omega
  obtain ⟨y, hy⟩ := Option.isSome_iff_exists.mp (hall.session?_isSome_iff.mpr hmade)
  refine ⟨y, hy, ?_⟩
  rw [(hall.fits s y hy).closed]
  rw [(hms.fits s x hx).closed] at hclosed
  simp only [ledger, gather_append]
  exact List.mem_append_left _ hclosed

private theorem mem_taken {encoding : String} {ms : List Move} :
    s ∈ ((start encoding).ledger ms).taken ↔
      ∃ n key, ms[n]? = some .closeAll ∧ ((start encoding).before ms n).slot key = .live s := by
  simp only [ledger, mem_gather]
  constructor
  · intro hex
    obtain ⟨n, m, hm, hs⟩ := hex
    cases m with
    | closeAll =>
      obtain ⟨key, hkey⟩ := (sound_before encoding ms n).mem_takes_closeAll.mp hs
      exact ⟨n, key, hm, hkey⟩
    | _ => simp [takes] at hs
  · intro hex
    obtain ⟨n, key, hm, hkey⟩ := hex
    exact ⟨n, .closeAll, hm, (sound_before encoding ms n).mem_takes_closeAll.mpr ⟨key, hkey⟩⟩

private theorem Sound.not_taken_of_made_for_none {id : Nat} (h : Sound calls holds late l p)
    (hmade : ⟨id, s, none⟩ ∈ l.made) : s ∉ l.taken := by
  intro htaken
  obtain ⟨id', key, hmade'⟩ := h.taken s htaken
  simpa using (h.made_unique hmade hmade').2

/-- What holds of sessions and slots after every run, whatever calls are still under way. -/
theorem live_sessions (encoding : String) (ms : List Move) :
    let p := (start encoding).after ms
    -- the session in a slot is open and has its connection
    (∀ key s, p.slot key = .live s →
      ∃ x, p.session? s = some x ∧ x.closed = false ∧ x.connection.isSome) ∧
    -- the slots without a session that are marked are those of the calls under way
    (∀ key, p.slot key = .pending ↔ ∃ c ∈ p.calls, c.key? = some key) ∧
    -- a call returns an open session
    (∀ m s, p.result m = some s →
      ∃ x, (p.act m).1.session? s = some x ∧ x.closed = false ∧ x.connection.isSome) ∧
    -- closing all sessions says how many there were, and closes just those
    (p.closeAll.2 = p.count ∧ p.closeAll.1.count = 0 ∧ ∀ s x, p.session? s = some x →
      ∃ y, p.closeAll.1.session? s = some y ∧
        (y.closed = true ↔ x.closed = true ∨ ∃ key, p.slot key = .live s)) ∧
    -- a closed session stays closed
    (∀ ns s x, p.session? s = some x → x.closed = true →
      ∃ y, (p.after ns).session? s = some y ∧ y.closed = true) ∧
    -- a session is closed just if it was in a slot when all sessions were closed
    (∀ s x, p.session? s = some x → (x.closed = true ↔ ∃ n key, ms[n]? = some .closeAll ∧
      ((start encoding).before ms n).slot key = .live s)) ∧
    -- a session that was not made for a slot is not closed
    ∀ id s, ⟨id, s, none⟩ ∈ ((start encoding).ledger ms).made →
      ∃ x, p.session? s = some x ∧ x.closed = false := by
  intro p
  have h : Sound p.calls [] [] ((start encoding).ledger ms) p := sound_after encoding ms
  refine ⟨fun key s hs => h.open_of_live hs, fun key => h.pending_iff,
    fun m s hs => h.open_of_result hs, ⟨h.closeAll.2.1, ?_, fun s x hx => h.closed_closeAll hx⟩,
    ?_, ?_, ?_⟩
  · rw [count, h.closeAll.2.2]
    rfl
  · intro ns s x hx hclosed
    rw [← after_append]
    exact closed_after ns hx hclosed
  · intro s x hx
    rw [(h.fits s x hx).closed, mem_taken]
  · intro id s hmade
    have hx : p.session? s = some _ := List.getElem?_eq_getElem (h.lt_of_made hmade)
    refine ⟨_, hx, ?_⟩
    rw [← Bool.not_eq_true, (h.fits s _ hx).closed]
    exact h.not_taken_of_made_for_none hmade

end RemoteFirebird.Pool
