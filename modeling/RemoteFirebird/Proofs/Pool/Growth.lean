import RemoteFirebird.Proofs.Pool.Reachable

/-!
# How histories grow

Nothing is ever taken out of a history. Most operations of a pool add to it only what concerns the
connections that sessions have, and what they change about a session is who holds or borrows it,
whether it is closed and whether it still has its connection.
-/

namespace RemoteFirebird.Pool

open Session

variable {p q r : Pool} {os os' : List Occurrence} {id s : Nat} {x y : Session}

/-! ### What has happened -/

/-- What has happened, in the order in which it has happened. -/
def chronicle (p : Pool) : List Occurrence :=
  p.history.reverse.flatMap Entry.occurrences

/-- The connection that is concerned. -/
def Occurrence.connection? : Occurrence → Option Nat
  | serverOptions _ => none
  | userOptions _ => none
  | connect id _ => some id
  | isReady id => some id
  | errorMessage id => some id
  | setAutocommit id _ => some id
  | setMessageLevel id _ => some id
  | drop id => some id
  | logged _ => none

/-- The part of a row of occurrences that concerns a connection. -/
def concerning (id : Nat) (os : List Occurrence) : List Occurrence :=
  os.filter fun o => o.connection? == some id

/-- What has been done with a connection. -/
def about (p : Pool) (id : Nat) : List Occurrence :=
  concerning id p.chronicle

private theorem chronicle_of_entry (e : Entry) (h : q.history = e :: p.history) :
    q.chronicle = p.chronicle ++ e.occurrences := by
  simp [chronicle, h]

theorem chronicle_of_singles (os : List Occurrence)
    (h : q.history = (os.map Entry.single).reverse ++ p.history) :
    q.chronicle = p.chronicle ++ os := by
  simp [chronicle, h, List.flatMap_map, Entry.occurrences]

@[simp] theorem chronicle_record (p : Pool) (o : Occurrence) :
    (p.record o).chronicle = p.chronicle ++ [o] :=
  chronicle_of_entry (.single o) rfl

theorem about_of_chronicle (h : q.chronicle = p.chronicle ++ os) (id : Nat) :
    q.about id = p.about id ++ concerning id os := by
  rw [about, about, h, concerning, List.filter_append]
  rfl

theorem concerning_eq_nil_or (id : Nat) (os : List Occurrence) :
    concerning id os = [] ∨ ∃ o ∈ os, o.connection? = some id := by
  rw [concerning, List.filter_eq_nil_iff]
  by_cases hex : ∃ o ∈ os, o.connection? = some id
  · exact .inr hex
  · exact .inl fun o ho heq => hex ⟨o, ho, by simpa using heq⟩

theorem about_of_singles (os : List Occurrence)
    (hhistory : q.history = (os.map Entry.single).reverse ++ p.history)
    (hos : ∀ o ∈ os, ∀ k, o.connection? = some k → k = id) (k : Nat) :
    q.about k = p.about k ++ if k = id then concerning id os else [] := by
  rw [about_of_chronicle (chronicle_of_singles os hhistory)]
  by_cases hk : k = id
  · rw [if_pos hk, hk]
  · rcases concerning_eq_nil_or k os with hnil | ⟨o, ho, hid⟩
    · rw [if_neg hk, hnil]
    · exact (hk (hos o ho k hid)).elim

/-! ### What reaches a connection -/

/-- A session has the connection. -/
def Reaching (p : Pool) (id : Nat) : Prop :=
  ∃ s x c, p.session? s = some x ∧ x.connection = some c ∧ c.id = id

/-- What may become of a session. It may be held, borrowed and closed, and lose its connection. -/
structure Aged (x y : Session) : Prop where
  path : y.path = x.path
  autocommit : y.autocommit = x.autocommit
  level : y.level = x.level
  connection : ∀ c, y.connection = some c → x.connection = some c

theorem Aged.refl (x : Session) : Aged x x :=
  ⟨rfl, rfl, rfl, fun _ h => h⟩

theorem Aged.trans {z : Session} (h : Aged x y) (h' : Aged y z) : Aged x z :=
  ⟨h'.path.trans h.path, h'.autocommit.trans h.autocommit, h'.level.trans h.level,
    fun c hc => h.connection c (h'.connection c hc)⟩

/-- No session is new, and what happens concerns connections of sessions only. -/
structure Keeps (p q : Pool) (os : List Occurrence) : Prop where
  encoding : q.encoding = p.encoding
  attempts : q.attempts = p.attempts
  length : q.sessions.length = p.sessions.length
  aged : ∀ s x y, p.session? s = some x → q.session? s = some y → Aged x y
  reaching : ∀ o ∈ os, ∀ id, o.connection? = some id → p.Reaching id

/-- One pool has become the other while this happened. -/
def Grown (p q : Pool) : Prop :=
  ∃ os, q.chronicle = p.chronicle ++ os ∧ Keeps p q os

theorem exists_session?_of_length (h : q.sessions.length = p.sessions.length)
    (hx : p.session? s = some x) : ∃ y, q.session? s = some y := by
  have hlt : s < p.sessions.length := (List.getElem?_eq_some_iff.mp hx).1
  exact ⟨_, List.getElem?_eq_getElem (h ▸ hlt)⟩

theorem Keeps.reaching_of (h : Keeps p q os) (hid : q.Reaching id) : p.Reaching id := by
  obtain ⟨s, y, c, hy, hc, rfl⟩ := hid
  obtain ⟨x, hx⟩ := exists_session?_of_length h.length.symm hy
  exact ⟨s, x, c, hx, (h.aged s x y hx hy).connection c hc, rfl⟩

theorem Keeps.trans (h : Keeps p q os) (h' : Keeps q r os') : Keeps p r (os ++ os') where
  encoding := h'.encoding.trans h.encoding
  attempts := h'.attempts.trans h.attempts
  length := h'.length.trans h.length
  aged s x z hx hz := by
    obtain ⟨y, hy⟩ := exists_session?_of_length h.length hx
    exact (h.aged s x y hx hy).trans (h'.aged s y z hy hz)
  reaching o ho id hid := by
    rcases List.mem_append.mp ho with ho | ho
    · exact h.reaching o ho id hid
    · exact h.reaching_of (h'.reaching o ho id hid)

theorem Grown.trans (h : Grown p q) (h' : Grown q r) : Grown p r := by
  obtain ⟨os, hos, hkeeps⟩ := h
  obtain ⟨os', hos', hkeeps'⟩ := h'
  exact ⟨os ++ os', by rw [hos', hos, List.append_assoc], hkeeps.trans hkeeps'⟩

/-- Slots, handles and calls have nothing to do with connections, nor have questions and logs. -/
theorem Keeps.of_sessions (hencoding : q.encoding = p.encoding)
    (hattempts : q.attempts = p.attempts) (hsessions : q.sessions = p.sessions)
    (hos : ∀ o ∈ os, o.connection? = none) : Keeps p q os where
  encoding := hencoding
  attempts := hattempts
  length := by rw [hsessions]
  aged s x y hx hy := by
    rw [session?, hsessions] at hy
    obtain rfl : x = y := Option.some.inj (hx.symm.trans hy)
    exact .refl x
  reaching o ho id hid := by simp [hos o ho] at hid

theorem Grown.of_sessions (hencoding : q.encoding = p.encoding)
    (hattempts : q.attempts = p.attempts) (hsessions : q.sessions = p.sessions)
    (hchronicle : q.chronicle = p.chronicle ++ os) (hos : ∀ o ∈ os, o.connection? = none) :
    Grown p q :=
  ⟨os, hchronicle, .of_sessions hencoding hattempts hsessions hos⟩

theorem Grown.refl (p : Pool) : Grown p p :=
  .of_sessions rfl rfl rfl (List.append_nil _).symm (by simp)

theorem Grown.of_eq (hencoding : q.encoding = p.encoding) (hattempts : q.attempts = p.attempts)
    (hsessions : q.sessions = p.sessions) (hhistory : q.history = p.history) : Grown p q := by
  have hchronicle : q.chronicle = p.chronicle ++ [] := by
    rw [chronicle, chronicle, hhistory, List.append_nil]
  exact .of_sessions hencoding hattempts hsessions hchronicle (by simp)

theorem grown_log (p : Pool) (e : Log.Event) : Grown p (p.log e) :=
  .of_sessions rfl rfl rfl (chronicle_record p _)
    (by simp [Occurrence.connection?])

private theorem keeps_modifySession {f : Session → Session}
    (hf : ∀ x, p.session? s = some x → Aged x (f x))
    (hos : ∀ o ∈ os, ∀ id, o.connection? = some id → p.Reaching id) :
    Keeps p (p.modifySession s f) os where
  encoding := rfl
  attempts := rfl
  length := by simp [modifySession]
  aged t x y hx hy := by
    rw [session?_modifySession] at hy
    by_cases hst : s = t
    · subst t
      obtain rfl : f x = y := by simpa [hx] using hy
      exact hf x hx
    · rw [if_neg hst] at hy
      obtain rfl : x = y := Option.some.inj (hx.symm.trans hy)
      exact .refl x
  reaching := hos

private theorem grown_modifySession {f : Session → Session} (hf : ∀ x, Aged x (f x)) :
    Grown p (p.modifySession s f) :=
  ⟨[], (List.append_nil _).symm, keeps_modifySession (fun x _ => hf x) (by simp)⟩

/-! ### Operations -/

private theorem grown_dropConnection (p : Pool) (s : Nat) : Grown p (p.dropConnection s) := by
  rw [dropConnection]
  split
  next c hc =>
    obtain ⟨x, hx, hc⟩ := Option.bind_eq_some_iff.mp hc
    have hkeeps : Keeps p (p.modifySession s fun x => { x with connection := none }) [.drop c.id] :=
      keeps_modifySession (fun x _ => ⟨rfl, rfl, rfl, by simp⟩) fun o ho id hid => by
        obtain rfl := List.mem_singleton.mp ho
        exact ⟨s, x, c, hx, hc, Option.some.inj hid⟩
    exact ⟨_, chronicle_record _ _, { hkeeps with }⟩
  next => exact .refl p

private theorem grown_letGo (p : Pool) (s : Nat) : Grown p (p.letGo s) := by
  have hmodify : Grown p (p.modifySession s fun x => { x with holders := x.holders - 1 }) :=
    grown_modifySession fun x => ⟨rfl, rfl, rfl, fun _ h => h⟩
  simp only [letGo]
  split
  next => exact hmodify.trans (grown_dropConnection _ s)
  next => exact hmodify

theorem grown_stow (p : Pool) (s : Nat) (keep : Option String) : Grown p (p.stow s keep) := by
  cases keep with
  | none => exact grown_letGo p s
  | some handle =>
    have hassign : Grown p { p with handles := assign handle s p.handles } :=
      .of_eq rfl rfl rfl rfl
    cases hbefore : p.handles.lookup handle with
    | none =>
      rw [stow, hbefore]
      exact hassign
    | some t =>
      rw [stow, hbefore]
      exact hassign.trans (grown_letGo _ t)

theorem grown_release (p : Pool) (handle : String) : Grown p (p.release handle).1 := by
  rw [release]
  split
  next s _ =>
    have hfilter : Grown p { p with handles := p.handles.filter (·.1 != handle) } :=
      .of_eq rfl rfl rfl rfl
    exact hfilter.trans (grown_letGo _ s)
  next => exact .refl p

theorem grown_retain (p : Pool) (s : Nat) : Grown p (p.retain s) :=
  grown_modifySession fun _ => ⟨rfl, rfl, rfl, fun _ h => h⟩

private theorem grown_prepare (p : Pool) : Grown p p.prepare := by
  rw [prepare]
  split
  next => exact .refl p
  next => exact (grown_log p .initializingPool).trans (.of_eq rfl rfl rfl rfl)

theorem grown_lookup (p : Pool) (key : Key) (server : String) :
    Grown p (p.lookup key server).1 := by
  simp only [lookup]
  split
  next => exact grown_prepare p
  next s _ => exact (grown_prepare p).trans (grown_retain _ s)
  next =>
    exact (grown_prepare p).trans (.of_sessions rfl rfl rfl (chronicle_of_singles [_, _] rfl)
      (by simp [Occurrence.connection?]))

theorem grown_vacate (p : Pool) (owner : Option Key) : Grown p (p.vacate owner) := by
  cases owner <;> exact .of_eq rfl rfl rfl rfl

theorem grown_beginBorrow {handle : String} (h : p.beginBorrow handle = some (.ok q)) :
    Grown p q := by
  obtain ⟨s, x, -, -, -, -, -, rfl⟩ := beginBorrow_eq_some h
  have hcalls : Grown p { p with calls := .borrowing s :: p.calls } := .of_eq rfl rfl rfl rfl
  exact hcalls.trans (grown_modifySession fun x => ⟨rfl, rfl, rfl, fun _ h => h⟩)

theorem grown_endBorrow (p : Pool) : Grown p p.endBorrow := by
  simp only [endBorrow]
  split
  next s calls _ =>
    have hcalls : Grown p { p with calls } := .of_eq rfl rfl rfl rfl
    have hreturned := hcalls.trans
      (grown_modifySession (s := s) (f := fun x => { x with borrowed := false })
        fun _ => ⟨rfl, rfl, rfl, fun _ h => h⟩)
    refine Grown.trans ?_ (grown_letGo _ s)
    split
    next x _ =>
      split
      next => exact (hreturned.trans (grown_log _ _)).trans (grown_dropConnection _ s)
      next => exact hreturned
    next => exact hreturned
  next => exact .refl p

theorem grown_use (p : Pool) (u : Use) : Grown p (((p.use u).map Prod.fst).getD p) := by
  rw [use]
  split
  next s calls _ =>
    cases hc : (p.session? s).bind Session.connection with
    | none => exact .refl p
    | some c =>
      obtain ⟨x, hx, hc⟩ := Option.bind_eq_some_iff.mp hc
      refine ⟨[u.occurrence c.id], chronicle_record _ _, ?_⟩
      have hsame : Keeps p (p.record (u.occurrence c.id)) [] :=
        .of_sessions rfl rfl rfl (by simp)
      refine { hsame with reaching := fun o ho id hid => ⟨s, x, c, hx, hc, ?_⟩ }
      obtain rfl := List.mem_singleton.mp ho
      cases u <;> exact Option.some.inj hid
  next => exact .refl p

private theorem aged_close (x : Session) : Aged x x.close.1 := by
  rw [Session.close]
  split
  next => exact ⟨rfl, rfl, rfl, fun _ h => h⟩
  next => exact ⟨rfl, rfl, rfl, by simp⟩

private theorem connection_of_mem_close {o : Occurrence} (h : o ∈ x.close.2)
    (hid : o.connection? = some id) : ∃ c, x.connection = some c ∧ c.id = id := by
  have hclosed : o ≠ .logged (.closed x.path) := by
    intro heq
    simp [heq, Occurrence.connection?] at hid
  rw [Session.close] at h
  split at h
  next => exact (hclosed (List.mem_singleton.mp h)).elim
  next =>
    rcases List.mem_append.mp h with h | h
    · obtain ⟨c, hc, rfl⟩ := List.mem_map.mp h
      exact ⟨c, Option.mem_toList.mp hc, Option.some.inj hid⟩
    · exact (hclosed (List.mem_singleton.mp h)).elim

theorem keeps_closeOne (p : Pool) (key : Key) (s : Nat) :
    Keeps p (p.closeOne key s).1 (p.closeOne key s).2.1 ∧
      (p.closeOne key s).1.chronicle = p.chronicle := by
  have hvacant : Keeps p (p.setSlot key .vacant) [] := .of_sessions rfl rfl rfl (by simp)
  have hwarning : ∀ n, ∀ o ∈ (if 0 < n then [Occurrence.logged (.stillBorrowed key)] else []),
      o.connection? = none := by
    intro n o ho
    split at ho
    next =>
      obtain rfl := List.mem_singleton.mp ho
      rfl
    next => simp at ho
  simp only [closeOne]
  split
  next => exact ⟨hvacant, rfl⟩
  next x hx =>
    have hheld : ∀ y, (p.setSlot key .vacant).session? s = some y →
        Aged y { x with holders := x.holders - 1 } := by
      intro y hy
      obtain rfl : x = y := Option.some.inj (hx.symm.trans hy)
      exact ⟨rfl, rfl, rfl, fun _ h => h⟩
    split
    next =>
      refine ⟨hvacant.trans (keeps_modifySession hheld fun o ho id hid => ?_), rfl⟩
      simp [hwarning _ o ho] at hid
    next =>
      refine ⟨hvacant.trans (keeps_modifySession (fun y hy => (hheld y hy).trans (aged_close _))
        fun o ho id hid => ?_), rfl⟩
      rcases List.mem_append.mp ho with ho | ho
      · simp [hwarning _ o ho] at hid
      · obtain ⟨c, hc, hcid⟩ := connection_of_mem_close ho hid
        exact ⟨s, x, c, hx, hc, hcid⟩

private theorem keeps_closeEach (p : Pool) (kept : List (Key × Nat)) :
    Keeps p (p.closeEach kept).1 (p.closeEach kept).2.1 ∧
      (p.closeEach kept).1.chronicle = p.chronicle := by
  induction kept generalizing p with
  | nil => exact ⟨.of_sessions rfl rfl rfl (by simp [closeEach]), rfl⟩
  | cons e rest ih =>
    obtain ⟨key, s⟩ := e
    obtain ⟨hone, hchronicle⟩ := keeps_closeOne p key s
    obtain ⟨hrest, hchronicle'⟩ := ih (p.closeOne key s).1
    rw [closeEach_cons]
    exact ⟨hone.trans hrest, hchronicle'.trans hchronicle⟩

theorem chronicle_closeAll (p : Pool) :
    p.closeAll.1.chronicle = p.chronicle ++ (p.closeEach p.kept).2.1 := by
  have hlast : p.closeAll.1.chronicle =
      (p.closeEach p.kept).1.chronicle ++ (p.closeEach p.kept).2.1 :=
    chronicle_of_entry (.together _) rfl
  rw [hlast, (keeps_closeEach p p.kept).2]

theorem grown_closeAll (p : Pool) : Grown p p.closeAll.1 :=
  ⟨_, chronicle_closeAll p, { (keeps_closeEach p p.kept).1 with }⟩

end RemoteFirebird.Pool
