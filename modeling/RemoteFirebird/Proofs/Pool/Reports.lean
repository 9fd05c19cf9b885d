import RemoteFirebird.Proofs.Pool.Conservation
import RemoteFirebird.Proofs.Pool.Growth
import RemoteFirebird.Proofs.Pool.LiveSessions
import RemoteFirebird.Proofs.Pool.Nesting

/-!
# What closing all sessions reports

A session that has been taken out of its slot to be closed is held by handles and borrows only, so
the number of those who still hold it says whether it is in use. Closing it leaves the handles and
the stack of calls as they are. What is reported of each session can therefore be read off the pool
that the closing meets, whatever is closed before.
-/

namespace RemoteFirebird.Pool

open Session

variable {calls : List Call} {late : List Nat} {l : Ledger} {p q : Pool} {os : List Occurrence}
  {key : Key} {s : Nat} {x : Session}

/-- A session is in use if a handle or a running borrow refers to it. -/
def InUse (p : Pool) (s : Nat) : Prop :=
  s ∈ p.handles.map Prod.snd ∨ .borrowing s ∈ p.calls

instance (p : Pool) (s : Nat) : Decidable (p.InUse s) :=
  inferInstanceAs (Decidable (_ ∨ _))

def path? (p : Pool) (s : Nat) : Option String :=
  (p.session? s).map fun x => x.path

/-- The events among what happens. -/
def events (os : List Occurrence) : List Log.Event :=
  os.filterMap fun
    | .logged e => some e
    | _ => none

/-- The events that have been logged, in the order in which they have been. -/
def logged (p : Pool) : List Log.Event :=
  events p.chronicle

/-- What is reported when the session that is kept for a key is closed. -/
def report (p : Pool) (e : Key × Nat) : List Log.Event :=
  (if p.InUse e.2 then [.stillBorrowed e.1] else []) ++ (p.path? e.2).toList.map .closed

private theorem report_eq {e : Key × Nat} (hx : p.session? e.2 = some x) :
    p.report e = (if p.InUse e.2 then [.stillBorrowed e.1] else []) ++ [.closed x.path] := by
  rw [report, path?, hx]
  rfl

private theorem events_append (os os' : List Occurrence) :
    events (os ++ os') = events os ++ events os' :=
  List.filterMap_append

/-! ### One session -/

private theorem Sound.one_lt_holders_iff (h : Sound p.calls [] late l p) (hs : p.slot key = .live s)
    (hx : p.session? s = some x) : 1 < x.holders ↔ p.InUse s := by
  have htake := h.take hs
  have hholders := (htake.fits s x hx).holders
  rw [refs_cons_self] at hholders
  have hslot : ¬∃ k, (p.setSlot key .vacant).slot k = .live s :=
    not_exists.mpr (h.not_live_of_take hs)
  calc 1 < x.holders
    _ ↔ 0 < (p.setSlot key .vacant).refs p.calls [] s := by omega
    _ ↔ (p.setSlot key .vacant).Referenced s := htake.refs_pos_iff
    _ ↔ p.InUse s := or_iff_right hslot

private theorem closeOne_of_open (key : Key) (hx : p.session? s = some x)
    (hclosed : x.closed = false) :
    (p.closeOne key s).2.1 =
      (if 1 < x.holders then [.logged (.stillBorrowed key)] else []) ++ x.close.2 := by
  have hx' : (p.setSlot key .vacant).session? s = some x := hx
  have hheld : 0 < x.holders - 1 ↔ 1 < x.holders := by omega
  have hclose : Session.close { x with holders := x.holders - 1 } =
      ({ x.close.1 with holders := x.holders - 1 }, x.close.2) := by
    rw [Session.close, Session.close]
    cases x.borrowed <;> rfl
  simp only [closeOne, hx', hclosed, Bool.false_eq_true, if_false, hheld, hclose]

private theorem events_close (x : Session) : events x.close.2 = [.closed x.path] := by
  rw [Session.close]
  cases x.borrowed with
  | true => rfl
  | false => cases x.connection <;> rfl

private theorem Sound.events_closeOne (h : Sound p.calls [] late l p) (hs : p.slot key = .live s) :
    events (p.closeOne key s).2.1 = p.report (key, s) := by
  obtain ⟨x, hx, hclosed, -⟩ := h.open_of_live hs
  have huse := h.one_lt_holders_iff hs hx
  rw [closeOne_of_open key hx hclosed, events_append, events_close, report_eq hx]
  by_cases hheld : 1 < x.holders
  · rw [if_pos hheld, if_pos (huse.mp hheld)]
    rfl
  · rw [if_neg hheld, if_neg fun hused => hheld (huse.mpr hused)]
    rfl

/-! ### All sessions -/

private theorem handles_closeOne (p : Pool) (key : Key) (s : Nat) :
    (p.closeOne key s).1.handles = p.handles := by
  simp only [closeOne]
  split
  · rfl
  · split <;> rfl

private theorem Keeps.path? (h : Keeps p q os) (s : Nat) : q.path? s = p.path? s := by
  cases hx : p.session? s with
  | none =>
    have hlen : q.sessions.length ≤ s := h.length ▸ List.getElem?_eq_none_iff.mp hx
    have hy : q.session? s = none := List.getElem?_eq_none hlen
    rw [Pool.path?, Pool.path?, hx, hy]
  | some x =>
    obtain ⟨y, hy⟩ := exists_session?_of_length h.length hx
    rw [Pool.path?, Pool.path?, hx, hy, Option.map_some, Option.map_some, (h.aged s x y hx hy).path]

private theorem report_closeOne (p : Pool) (key : Key) (s : Nat) :
    (p.closeOne key s).1.report = p.report := by
  have huse : ∀ t, (p.closeOne key s).1.InUse t ↔ p.InUse t := by
    intro t
    rw [InUse, InUse, handles_closeOne, calls_closeOne]
  funext e
  simp only [report, huse, (keeps_closeOne p key s).1.path?]

private theorem Sound.events_closeEach {kept : List (Key × Nat)} (h : Sound p.calls [] late l p)
    (hkept : p.kept = kept) : events (p.closeEach kept).2.1 = kept.flatMap p.report := by
  induction kept generalizing p l late with
  | nil => rfl
  | cons e rest ih =>
    obtain ⟨key, s⟩ := e
    have hs : p.slot key = .live s :=
      (mem_kept h.entries_nodup (e := (key, s))).mp (hkept ▸ List.mem_cons_self)
    obtain ⟨hone, -, hrest⟩ := h.closeOne hkept
    rw [← calls_closeOne p key s] at hone
    rw [closeEach_cons, events_append, h.events_closeOne hs, ih hone hrest, report_closeOne,
      List.flatMap_cons]

private theorem Sound.logged_closeAll (h : Sound p.calls [] late l p) :
    (p.step .closeAll).logged = p.logged ++ p.kept.flatMap p.report := by
  have hchronicle : (p.step .closeAll).chronicle = p.chronicle ++ (p.closeEach p.kept).2.1 :=
    chronicle_closeAll p
  rw [logged, hchronicle, events_append, h.events_closeEach rfl, logged]

/-! ### Warnings and closings -/

private theorem warnings_report (p : Pool) (kept : List (Key × Nat)) :
    (kept.flatMap p.report).filter (·.severity = .warn) =
      ((kept.filter fun e => p.InUse e.2).map Prod.fst).map .stillBorrowed := by
  induction kept with
  | nil => rfl
  | cons e rest ih =>
    have hclosed (o : Option String) :
        (o.toList.map Log.Event.closed).filter (·.severity = .warn) = [] := by
      cases o <;> rfl
    rw [List.flatMap_cons, List.filter_append, ih, report, List.filter_append, hclosed]
    by_cases huse : p.InUse e.2 <;> simp [huse, Log.Event.severity]

private theorem closings_report {kept : List (Key × Nat)}
    (hkept : ∀ e ∈ kept, ∃ x, p.session? e.2 = some x) :
    List.Forall₂ (fun s e => ∃ x, p.session? s = some x ∧ e = .closed x.path)
      (kept.map Prod.snd) ((kept.flatMap p.report).filter (·.severity = .debug)) := by
  induction kept with
  | nil => exact .nil
  | cons e rest ih =>
    obtain ⟨x, hx⟩ := hkept e List.mem_cons_self
    have hrest := ih fun e' he' => hkept e' (List.mem_cons_of_mem e he')
    have hone : (p.report e).filter (·.severity = .debug) = [.closed x.path] := by
      rw [report_eq hx]
      by_cases huse : p.InUse e.2 <;> simp [huse, Log.Event.severity]
    rw [List.flatMap_cons, List.filter_append, hone]
    exact .cons ⟨x, hx, rfl⟩ hrest

/-! ### Keys and their sessions -/

private theorem Sound.kept_keys (h : Sound p.calls [] late l p) :
    p.kept.Pairwise fun e e' => e.1 ≠ e'.1 := by
  have hentries : p.entries.Pairwise fun e e' => e.1 ≠ e'.1 := List.pairwise_map.mp h.entries_nodup
  rw [kept_eq_filterMap]
  apply hentries.filterMap
  intro e e' hne f hf f' hf'
  rw [keptAs_eq_some] at hf hf'
  simpa [hf, hf'] using hne

private theorem Sound.kept_sessions (h : Sound p.calls [] late l p) :
    (p.kept.map Prod.snd).Nodup := by
  refine List.pairwise_map.mpr (h.kept_keys.imp_of_mem ?_)
  intro e e' he he' hne heq
  have hs := (mem_kept h.entries_nodup).mp he
  have hs' := (mem_kept h.entries_nodup).mp he'
  rw [← heq] at hs'
  exact hne (h.live_unique hs hs')

private theorem Sound.mem_kept_sessions (h : Sound p.calls [] [] l p) : s ∈ p.kept.map Prod.snd ↔
    ∃ x y, p.session? s = some x ∧ x.closed = false ∧
      (p.step .closeAll).session? s = some y ∧ y.closed = true := by
  have hlive : s ∈ p.kept.map Prod.snd ↔ ∃ key, p.slot key = .live s := h.mem_takes_closeAll
  rw [hlive]
  constructor
  · intro hex
    obtain ⟨key, hs⟩ := hex
    obtain ⟨x, hx, hopen, -⟩ := h.open_of_live hs
    obtain ⟨y, hy, hclosed⟩ := h.closed_closeAll hx
    exact ⟨x, y, hx, hopen, hy, hclosed.mpr (.inr ⟨key, hs⟩)⟩
  · intro hex
    obtain ⟨x, y, hx, hopen, hy, hclosed⟩ := hex
    obtain ⟨y', hy', hclosed'⟩ := h.closed_closeAll hx
    obtain rfl : y' = y := Option.some.inj (hy'.symm.trans hy)
    rw [hclosed', hopen] at hclosed
    exact hclosed.resolve_left Bool.false_ne_true

private theorem Sound.mem_warned (h : Sound p.calls [] late l p) :
    key ∈ (p.kept.filter fun e => p.InUse e.2).map Prod.fst ↔
      ∃ s, p.slot key = .live s ∧ p.InUse s := by
  rw [List.mem_map]
  constructor
  · intro hex
    obtain ⟨e, he, rfl⟩ := hex
    obtain ⟨hkept, huse⟩ := List.mem_filter.mp he
    exact ⟨e.2, (mem_kept h.entries_nodup).mp hkept, of_decide_eq_true huse⟩
  · intro hex
    obtain ⟨s, hs, huse⟩ := hex
    have hkept : (key, s) ∈ p.kept := (mem_kept h.entries_nodup).mpr hs
    exact ⟨(key, s), List.mem_filter.mpr ⟨hkept, decide_eq_true huse⟩, rfl⟩

private theorem Sound.inUse_iff {encoding : String} {ms : List Move}
    (h : Sound calls [] late l ((start encoding).after ms)) :
    ((start encoding).after ms).InUse s ↔
      (∃ handle, ((start encoding).after ms).handles.lookup handle = some s) ∨
        ∃ n, Lending (start encoding) ms n ms.length s := by
  rw [InUse, exists_lending_after_iff, List.mem_map]
  apply or_congr_left
  constructor
  · intro hex
    obtain ⟨e, he, rfl⟩ := hex
    exact ⟨e.1, lookup_of_mem h.handles_nodup he⟩
  · intro hex
    obtain ⟨handle, hs⟩ := hex
    exact ⟨_, mem_of_lookup hs, rfl⟩

/-- What closing all sessions reports after every run, whatever calls are still under way. -/
theorem closing_reported (encoding : String) (ms : List Move) :
    let p := (start encoding).after ms
    let q := p.step .closeAll
    let used (s : Nat) := (∃ handle, p.handles.lookup handle = some s) ∨
      ∃ n, Lending (start encoding) ms n ms.length s
    ∃ (es : List Log.Event) (warned : List Key) (closed : List Nat),
      q.logged = p.logged ++ es ∧
      -- it is warned of each key once whose session is used elsewhere, and of no other key
      es.filter (·.severity = .warn) = warned.map .stillBorrowed ∧ warned.Nodup ∧
      (∀ key, key ∈ warned ↔ ∃ s, p.slot key = .live s ∧ used s) ∧
      -- each session that is closed is reported once, with its path
      List.Forall₂ (fun s e => ∃ x, p.session? s = some x ∧ e = .closed x.path) closed
        (es.filter (·.severity = .debug)) ∧ closed.Nodup ∧
      (∀ s, s ∈ closed ↔ ∃ x y, p.session? s = some x ∧ x.closed = false ∧
        q.session? s = some y ∧ y.closed = true) ∧
      -- these are the sessions in slots, so keys that are pending or vacant give no report
      (∀ s, s ∈ closed ↔ ∃ key, p.slot key = .live s) ∧
      -- a session that was not made for a slot is in none
      ∀ id s, ⟨id, s, none⟩ ∈ ((start encoding).ledger ms).made → ∀ key, p.slot key ≠ .live s := by
  intro p q used
  have h : Sound p.calls [] [] ((start encoding).ledger ms) p := sound_after encoding ms
  refine ⟨p.kept.flatMap p.report, (p.kept.filter fun e => p.InUse e.2).map Prod.fst,
    p.kept.map Prod.snd, h.logged_closeAll, warnings_report p p.kept, ?_, ?_,
    closings_report ?_, h.kept_sessions, fun s => h.mem_kept_sessions,
    fun s => h.mem_takes_closeAll, ?_⟩
  · exact List.pairwise_map.mpr (h.kept_keys.sublist List.filter_sublist)
  · intro key
    rw [h.mem_warned]
    exact exists_congr fun s => and_congr_right fun _ => h.inUse_iff
  · intro e he
    obtain ⟨x, hx, -⟩ := h.open_of_live ((mem_kept h.entries_nodup).mp he)
    exact ⟨x, hx⟩
  · intro id s hmade key hs
    obtain ⟨-, id', hmade'⟩ := h.live key s hs
    simpa using (h.made_unique hmade hmade').2

/-- A run in the middle of a borrow whose handle has been released. Meanwhile a session is held that
the pool does not keep. -/
def releasedRun : List Move :=
  [.lookup ⟨1, 1⟩ "server" (some "session"), .answerServer (.ok { database := some "employee" }),
    .answerUser (.ok {}), .answerConnect (.ok ⟨true, ""⟩), .settle (some "session"),
    .beginBorrow "session", .release "session", .establish { database := some "project" } {},
    .answerConnect (.ok ⟨true, ""⟩), .settle (some "own")]

theorem closing_reported_releasedRun :
    let p := (start "UTF8").after releasedRun
    p.handles = [("own", 1)] ∧ (∀ key, p.slot key ≠ .live 1) ∧
      ∃ es, (p.step .closeAll).logged = p.logged ++ es ∧ .stillBorrowed ⟨1, 1⟩ ∈ es := by
  intro p
  have lent : ∃ n, Lending (start "UTF8") releasedRun n releasedRun.length 0 :=
    exists_lending_after_iff.mpr (by decide)
  obtain ⟨es, warned, closed, hlogged, hwarned, -, hmem, -, -, -, -, hnone⟩ :=
    closing_reported "UTF8" releasedRun
  have hkey : ⟨1, 1⟩ ∈ warned := (hmem ⟨1, 1⟩).mpr ⟨0, by decide, .inr lent⟩
  have hevent : .stillBorrowed ⟨1, 1⟩ ∈ es.filter (·.severity = .warn) := by
    rw [hwarned]
    exact List.mem_map_of_mem hkey
  exact ⟨by decide, hnone 2 1 (by decide), es, hlogged, (List.mem_filter.mp hevent).1⟩

end RemoteFirebird.Pool
