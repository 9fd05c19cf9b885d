import RemoteFirebird.Proofs.Pool.Growth

/-!
# Records of connections

Whatever is done with a connection is in the history. An attempt that has a connection is followed
by setting the connection up or by dropping it, and nothing else can come in between, whatever is
made from inside of the call that waits for it. Later on a connection is reached through its session
only, and the session still says how it was set up.
-/

namespace RemoteFirebird.Pool

open Session

variable {p q : Pool} {os : List Occurrence} {id : Nat} {x y : Session} {charset : String}
  {made : List Made} {login : Login}

/-! ### Records -/

/-- The attempt at a connection that a call has made, with what was said for it. -/
def Call.dialled? : Call → Option (Nat × Login)
  | connecting _ id login => some (id, login)
  | opened _ login c => some (c.id, login)
  | _ => none

/-- The attempts of the calls that are under way. -/
def dialled (p : Pool) : List (Nat × Login) :=
  p.calls.filterMap Call.dialled?

private theorem dialled_of_calls (h : q.calls = p.calls) : q.dialled.Sublist p.dialled := by
  rw [dialled, h]
  exact List.Sublist.refl _

private theorem dialled_of_tail {c : Call} (h : p.calls = c :: q.calls) :
    q.dialled.Sublist p.dialled := by
  rw [dialled, dialled, h]
  exact (List.sublist_cons_self c q.calls).filterMap _

/-- What is done with a connection until a session has it. -/
def setUp (id : Nat) (login : Login) : List Occurrence :=
  [.connect id login, .isReady id, .setAutocommit id true, .setMessageLevel id .debug2]

/-- What can have been done with a connection. -/
inductive Recorded (id : Nat) : List Occurrence → Prop
  | untried : Recorded id []
  | awaited (login : Login) : Recorded id [.connect id login]
  | rejected (login : Login) :
    Recorded id [.connect id login, .isReady id, .errorMessage id, .drop id]
  | ready (login : Login) (later : List Occurrence) : Recorded id (setUp id login ++ later)

/-- A session on a connection that has been set up, and that has not been changed since. -/
structure Furnished (p : Pool) (id : Nat) (login : Login) (x : Session) : Prop where
  path : x.path = login.path
  autocommit : x.autocommit = true
  level : x.level = .debug2
  record : ∃ later, p.about id = setUp id login ++ later

/-- What the history of a pool says about connections, given the sessions that have been made. -/
structure Chronicled (charset : String) (made : List Made) (p : Pool) : Prop where
  encoded : p.encoding = charset
  untried : ∀ id, p.attempts < id → p.about id = []
  distinct : p.dialled.Pairwise fun a b => a.1 ≠ b.1
  awaited : ∀ d ∈ p.dialled, p.about d.1 = [.connect d.1 d.2] ∧ d.2.encoding = charset
  reached : ∀ id, p.Reaching id → ∃ s owner, ⟨id, s, owner⟩ ∈ made
  furnished : ∀ id s owner, ⟨id, s, owner⟩ ∈ made → ∃ x login, p.session? s = some x ∧
    p.Furnished id login x ∧ login.encoding = charset
  recorded : ∀ id, Recorded id (p.about id)

private theorem Furnished.of_aged (h : p.Furnished id login x) (haged : Aged x y)
    (hrecord : ∃ later, q.about id = p.about id ++ later) : q.Furnished id login y := by
  obtain ⟨later, hlater⟩ := h.record
  obtain ⟨later', hlater'⟩ := hrecord
  exact ⟨haged.path.trans h.path, haged.autocommit.trans h.autocommit, haged.level.trans h.level,
    later ++ later', by rw [hlater', hlater, List.append_assoc]⟩

private theorem Chronicled.not_mem_made (h : Chronicled charset made p)
    (hlen : (p.about id).length < 4) (s : Nat) (owner : Option Key) : ⟨id, s, owner⟩ ∉ made := by
  intro hmem
  obtain ⟨x, login, -, hfurnished, -⟩ := h.furnished id s owner hmem
  obtain ⟨later, hlater⟩ := hfurnished.record
  have hfour : (setUp id login).length = 4 := rfl
  rw [hlater, List.length_append, hfour] at hlen
  omega

private theorem Chronicled.about_of_grown (h : Chronicled charset made p) (hkeeps : Keeps p q os)
    (hchronicle : q.chronicle = p.chronicle ++ os) (id : Nat) :
    q.about id = p.about id ∨ ∃ login later later',
      p.about id = setUp id login ++ later ∧ q.about id = setUp id login ++ later' := by
  rw [about_of_chronicle hchronicle]
  rcases concerning_eq_nil_or id os with hnil | ⟨o, ho, hid⟩
  · exact .inl (by rw [hnil, List.append_nil])
  · obtain ⟨s, owner, hmade⟩ := h.reached id (hkeeps.reaching o ho id hid)
    obtain ⟨x, login, -, hfurnished, -⟩ := h.furnished id s owner hmade
    obtain ⟨later, hlater⟩ := hfurnished.record
    exact .inr ⟨login, later, _, hlater, by rw [hlater, List.append_assoc]⟩

private theorem Chronicled.grow (h : Chronicled charset made p) (hgrown : Grown p q)
    (hdialled : q.dialled.Sublist p.dialled) : Chronicled charset made q := by
  obtain ⟨os, hchronicle, hkeeps⟩ := hgrown
  have habout := h.about_of_grown hkeeps hchronicle
  constructor
  case encoded => exact hkeeps.encoding.trans h.encoded
  case untried =>
    intro id hid
    have hnil := h.untried id (hkeeps.attempts ▸ hid)
    rcases habout id with hsame | ⟨login, later, -, hlater, -⟩
    · rw [hsame, hnil]
    · simp [hnil, setUp] at hlater
  case distinct => exact h.distinct.sublist hdialled
  case awaited =>
    intro d hmem
    obtain ⟨hone, hencoding⟩ := h.awaited d (hdialled.subset hmem)
    rcases habout d.1 with hsame | ⟨login, later, -, hlater, -⟩
    · exact ⟨hsame.trans hone, hencoding⟩
    · simp [hone, setUp] at hlater
  case reached => exact fun id hid => h.reached id (hkeeps.reaching_of hid)
  case furnished =>
    intro id s owner hmem
    obtain ⟨x, login, hx, hfurnished, hencoding⟩ := h.furnished id s owner hmem
    obtain ⟨y, hy⟩ := exists_session?_of_length hkeeps.length hx
    have hfurnished' := hfurnished.of_aged (hkeeps.aged s x y hx hy)
      ⟨_, about_of_chronicle hchronicle id⟩
    exact ⟨y, login, hy, hfurnished', hencoding⟩
  case recorded =>
    intro id
    rcases habout id with hsame | ⟨login, -, later', -, hlater'⟩
    · exact hsame ▸ h.recorded id
    · exact hlater' ▸ .ready login later'

private theorem Chronicled.touch {new : List Occurrence} (h : Chronicled charset made p) (id : Nat)
    (hlen : (p.about id).length < 4) (hrecorded : Recorded id (p.about id ++ new))
    (habout : ∀ k, q.about k = p.about k ++ if k = id then new else [])
    (hencoding : q.encoding = p.encoding) (hsessions : q.sessions = p.sessions)
    (hattempts : p.attempts ≤ q.attempts) (hid : id ≤ q.attempts)
    (hdistinct : q.dialled.Pairwise fun a b => a.1 ≠ b.1)
    (hdialled : ∀ d ∈ q.dialled, d ∈ p.dialled ∧ d.1 ≠ id ∨
      d.1 = id ∧ p.about id ++ new = [.connect id d.2] ∧ d.2.encoding = charset) :
    Chronicled charset made q := by
  have hother : ∀ k, k ≠ id → q.about k = p.about k := by
    intro k hk
    rw [habout, if_neg hk, List.append_nil]
  have hone : q.about id = p.about id ++ new := by rw [habout, if_pos rfl]
  have hsession : q.session? = p.session? := by
    funext s
    rw [session?, session?, hsessions]
  constructor
  case encoded => exact hencoding.trans h.encoded
  case untried =>
    intro k hk
    rw [hother k (by omega)]
    exact h.untried k (by omega)
  case distinct => exact hdistinct
  case awaited =>
    intro d hmem
    rcases hdialled d hmem with ⟨hmem, hd⟩ | ⟨hd, hconnect, hlogin⟩
    · rw [hother d.1 hd]
      exact h.awaited d hmem
    · rw [hd, hone]
      exact ⟨hconnect, hlogin⟩
  case reached =>
    intro k hk
    rw [Reaching, hsession] at hk
    exact h.reached k hk
  case furnished =>
    intro k s owner hmem
    have hk : k ≠ id := by
      intro heq
      subst heq
      exact h.not_mem_made hlen s owner hmem
    obtain ⟨x, login, hx, hfurnished, hlogin⟩ := h.furnished k s owner hmem
    have hfurnished' : q.Furnished k login x :=
      hfurnished.of_aged (.refl x) ⟨[], (hother k hk).trans (List.append_nil _).symm⟩
    exact ⟨x, login, hsession ▸ hx, hfurnished', hlogin⟩
  case recorded =>
    intro k
    by_cases hk : k = id
    · subst k
      exact hone ▸ hrecorded
    · exact hother k hk ▸ h.recorded k

/-- A session is made on a connection that has just been set up. -/
theorem Chronicled.append {c : Connection} (h : Chronicled charset made p) (owner : Option Key)
    (hrecord : p.about c.id = setUp c.id login) (hlogin : login.encoding = charset) :
    Chronicled charset (made ++ [⟨c.id, p.sessions.length, owner⟩])
      { p with sessions := p.sessions ++ [.fresh login.path c] } := by
  have hold : ∀ s x, p.session? s = some x →
      session? { p with sessions := p.sessions ++ [.fresh login.path c] } s = some x := by
    intro s x hx
    have hlt : s < p.sessions.length := (List.getElem?_eq_some_iff.mp hx).1
    simpa [session?, List.getElem?_append_left hlt] using hx
  have hnew : session? { p with sessions := p.sessions ++ [.fresh login.path c] }
      p.sessions.length = some (.fresh login.path c) := by
    simp [session?]
  refine { h with reached := ?_, furnished := ?_ }
  · intro id hid
    obtain ⟨s, x, d, hx, hd, rfl⟩ := hid
    have hx' : (p.sessions ++ [Session.fresh login.path c])[s]? = some x := hx
    rcases List.mem_append.mp (List.mem_of_getElem? hx') with hmem | hmem
    · obtain ⟨t, ht⟩ := List.getElem?_of_mem hmem
      obtain ⟨s, owner, hmade⟩ := h.reached d.id ⟨t, x, d, ht, hd, rfl⟩
      exact ⟨s, owner, List.mem_append_left _ hmade⟩
    · obtain rfl := List.mem_singleton.mp hmem
      obtain rfl : c = d := Option.some.inj hd
      exact ⟨_, owner, List.mem_append_right _ List.mem_cons_self⟩
  · intro id s owner' hmem
    rcases List.mem_append.mp hmem with hmem | hmem
    · obtain ⟨x, login', hx, hfurnished, hlogin'⟩ := h.furnished id s owner' hmem
      exact ⟨x, login', hold s x hx, { hfurnished with }, hlogin'⟩
    · obtain ⟨rfl, rfl, rfl⟩ : id = c.id ∧ s = p.sessions.length ∧ owner' = owner := by
        simpa using hmem
      exact ⟨_, login, hnew, ⟨rfl, rfl, rfl, [], hrecord.trans (List.append_nil _).symm⟩, hlogin⟩

/-! ### Moves -/

variable {l : Ledger}

/-- What a client sends to open a connection. -/
def loginFor (charset path : String) (user : Options.UserMapping) : Login :=
  ⟨path, user.username, user.password, charset⟩

theorem connect_of_path {server : Options.Server} {path : String} (owner : Option Key)
    (user : Options.UserMapping) (hpath : databasePath server = .ok path) :
    p.connect owner server user =
      ({ p with
          attempts := p.attempts + 1
          calls := .connecting owner (p.attempts + 1) (loginFor p.encoding path user) :: p.calls
          history := .single (.connect (p.attempts + 1) (loginFor p.encoding path user)) ::
            .single (.logged (.connecting (loginFor p.encoding path user))) ::
            .single (.logged (.databasePath path)) :: p.history },
        .waiting) := by
  simp only [Pool.connect, hpath]
  rfl

theorem Chronicled.connect (h : Chronicled charset made p) (owner : Option Key)
    (server : Options.Server) (user : Options.UserMapping) :
    Chronicled charset made (p.connect owner server user).1 := by
  cases hpath : databasePath server with
  | error fault =>
    simp only [Pool.connect, hpath]
    exact h.grow (grown_vacate p owner) (dialled_of_calls (calls_vacate p owner))
  | ok path =>
    have hnil : p.about (p.attempts + 1) = [] := h.untried _ (Nat.lt_succ_self _)
    have hfresh : ∀ d ∈ p.dialled, d.1 ≠ p.attempts + 1 := by
      intro d hd heq
      have hone := (h.awaited d hd).1
      simp [heq, hnil] at hone
    rw [connect_of_path owner user hpath]
    generalize hlogin : loginFor p.encoding path user = login
    have hnew : concerning (p.attempts + 1) [.logged (.databasePath path),
        .logged (.connecting login), .connect (p.attempts + 1) login] =
        [.connect (p.attempts + 1) login] := by
      simp [concerning, Occurrence.connection?]
    refine h.touch (p.attempts + 1) (by simp [hnil]) ?_
      (about_of_singles [.logged (.databasePath path), .logged (.connecting login),
        .connect (p.attempts + 1) login] rfl (by simp [Occurrence.connection?]))
      rfl rfl (Nat.le_succ _) (Nat.le_refl _) ?_ ?_
    · rw [hnil, hnew]
      exact .awaited login
    · exact List.pairwise_cons.mpr ⟨fun d hd => (hfresh d hd).symm, h.distinct⟩
    · intro d hd
      rcases List.mem_cons.mp hd with rfl | hd
      · have hencoding : login.encoding = charset := hlogin ▸ h.encoded
        exact .inr ⟨rfl, by rw [hnil, hnew, List.nil_append], hencoding⟩
      · exact .inl ⟨hd, hfresh d hd⟩

section

variable {owner : Option Key} {c : Connection} {calls : List Call}

/-- What is done when a connection turns out not to be ready. -/
def rejection (id : Nat) : List Occurrence :=
  [.isReady id, .errorMessage id, .drop id]

/-- What is done when a connection turns out to be ready. -/
def preparation (id : Nat) : List Occurrence :=
  [.isReady id, .setAutocommit id true, .setMessageLevel id .debug2]

theorem settle_of_unready (hcalls : p.calls = .opened owner login c :: calls)
    (hready : c.condition.ready = false) :
    p.settle = (vacate { p with
        calls, history := ((rejection c.id).map Entry.single).reverse ++ p.history } owner,
      .finished (.error (.notEstablished login.path c.condition.message))) := by
  simp only [settle, hcalls, hready]
  rfl

theorem settle_of_ready (hcalls : p.calls = .opened owner login c :: calls)
    (hready : c.condition.ready = true) :
    p.settle = ((addSession { p with
        calls
        history := ((preparation c.id ++ [Occurrence.logged (.connected login.path)]).map
          Entry.single).reverse ++ p.history } owner (.fresh login.path c)).1,
      .finished (.ok p.sessions.length)) := by
  simp only [settle, hcalls, hready]
  cases owner <;> rfl

private theorem Chronicled.conclude (h : Chronicled charset made p) (os : List Occurrence)
    (hcalls : p.calls = .opened owner login c :: calls)
    (hos : ∀ o ∈ os, ∀ k, o.connection? = some k → k = c.id)
    (hrecorded : Recorded c.id (.connect c.id login :: concerning c.id os)) :
    Chronicled charset made
      { p with calls, history := (os.map Entry.single).reverse ++ p.history } := by
  have hdialled : p.dialled = (c.id, login) :: calls.filterMap Call.dialled? := by
    rw [dialled, hcalls, List.filterMap_cons]
    rfl
  have hdistinct := h.distinct
  rw [hdialled, List.pairwise_cons] at hdistinct
  have hone : p.about c.id = [.connect c.id login] :=
    (h.awaited (c.id, login) (hdialled ▸ List.mem_cons_self)).1
  refine h.touch c.id (by simp [hone]) ?_ (about_of_singles os rfl hos) rfl rfl (Nat.le_refl _)
    ?_ hdistinct.2 fun d hd => .inl ⟨?_, (hdistinct.1 d hd).symm⟩
  · rw [hone]
    exact hrecorded
  · by_contra hlt
    have hnil := h.untried c.id (Nat.lt_of_not_le hlt)
    simp [hone] at hnil
  · rw [hdialled]
    exact List.mem_cons_of_mem _ hd

private theorem settle_of_idle
    (h : ¬∃ owner login c calls, p.calls = .opened owner login c :: calls)
    (keep : Option String) : p.settle = (p, .waiting) ∧ p.makes (.settle keep) = [] := by
  have hnot : ∀ owner login c calls, p.calls ≠ .opened owner login c :: calls :=
    fun owner login c calls hcalls => h ⟨owner, login, c, calls, hcalls⟩
  constructor
  · rw [settle]
    split
    next hcalls => exact (hnot _ _ _ _ hcalls).elim
    next => rfl
  · simp only [makes]
    split
    next hcalls => exact (hnot _ _ _ _ hcalls).elim
    next => rfl

theorem Chronicled.addSession (h : Chronicled charset made p)
    (hrecord : p.about c.id = setUp c.id login) (hlogin : login.encoding = charset) :
    Chronicled charset (made ++ [⟨c.id, p.sessions.length, owner⟩])
      (p.addSession owner (.fresh login.path c)).1 := by
  have hadded := h.append owner hrecord hlogin
  cases owner with
  | none => exact hadded
  | some key =>
    have hfilled := hadded.grow
      (q := setSlot { p with sessions := p.sessions ++ [.fresh login.path c] } key
        (.live p.sessions.length)) (.of_eq rfl rfl rfl rfl) (List.Sublist.refl _)
    exact hfilled.grow (grown_retain _ p.sessions.length) (List.Sublist.refl _)

theorem Chronicled.settle (h : Chronicled charset made p) (keep : Option String) :
    Chronicled charset (made ++ p.makes (.settle keep)) p.settle.1 := by
  by_cases hopened : ∃ owner login c calls, p.calls = .opened owner login c :: calls
  · obtain ⟨owner, login, c, calls, hcalls⟩ := hopened
    have hmem : (c.id, login) ∈ p.dialled := by
      rw [dialled, hcalls]
      exact List.mem_cons_self
    obtain ⟨hone, hlogin⟩ := h.awaited _ hmem
    cases hready : c.condition.ready with
    | false =>
      have hmakes : p.makes (.settle keep) = [] := by simp [makes, hcalls, hready]
      have hos : concerning c.id (rejection c.id) = rejection c.id := by
        simp [concerning, rejection, Occurrence.connection?]
      rw [settle_of_unready hcalls hready, hmakes, List.append_nil]
      have hconcluded := h.conclude (rejection c.id) hcalls
        (by simp [rejection, Occurrence.connection?]) (by rw [hos]; exact .rejected login)
      exact hconcluded.grow (grown_vacate _ owner) (dialled_of_calls (calls_vacate _ owner))
    | true =>
      let os : List Occurrence := preparation c.id ++ [.logged (.connected login.path)]
      have hmakes : p.makes (.settle keep) = [⟨c.id, p.sessions.length, owner⟩] := by
        simp [makes, hcalls, hready]
      have hos : concerning c.id os = preparation c.id := by
        simp [os, concerning, preparation, Occurrence.connection?]
      have hconcluded := h.conclude os hcalls (by simp [os, preparation, Occurrence.connection?])
        (by rw [hos]; exact .ready login [])
      rw [settle_of_ready hcalls hready, hmakes]
      refine hconcluded.addSession ?_ hlogin
      rw [about_of_chronicle (chronicle_of_singles os rfl), hone, hos]
      rfl
  · obtain ⟨hsettle, hmakes⟩ := settle_of_idle hopened keep
    rw [hsettle, hmakes, List.append_nil]
    exact h

end

private theorem dialled_lookup (p : Pool) (key : Key) (server : String) :
    (p.lookup key server).1.dialled.Sublist p.dialled := by
  simp only [lookup]
  split
  next => exact dialled_of_calls (calls_prepare p)
  next => exact dialled_of_calls (calls_prepare p)
  next => exact dialled_of_calls (p := p) (q := p.prepare) (calls_prepare p)

theorem Chronicled.answerServer (h : Chronicled charset made p)
    (answer : Except Fault Options.Server) :
    Chronicled charset made (p.answerServer answer).1 := by
  simp only [Pool.answerServer]
  split
  next key server calls hcalls =>
    cases answer with
    | error fault =>
      exact h.grow (.of_eq rfl rfl rfl rfl) (dialled_of_tail hcalls)
    | ok options =>
      refine h.grow (.of_sessions rfl rfl rfl (chronicle_of_singles [_] rfl)
        (by simp [Occurrence.connection?])) ?_
      exact dialled_of_tail (q := { p with calls }) hcalls
  next => exact h

theorem Chronicled.answerUser (h : Chronicled charset made p)
    (answer : Except Fault Options.UserMapping) :
    Chronicled charset made (p.answerUser answer).1 := by
  simp only [Pool.answerUser]
  split
  next key server options calls hcalls =>
    have hpopped : Chronicled charset made { p with calls } :=
      h.grow (.of_eq rfl rfl rfl rfl) (dialled_of_tail hcalls)
    cases answer with
    | error fault => exact hpopped.grow (.of_eq rfl rfl rfl rfl) (List.Sublist.refl _)
    | ok user => exact hpopped.connect (some key) options user
  next => exact h

theorem Chronicled.answerConnect (h : Chronicled charset made p)
    (answer : Except String Condition) :
    Chronicled charset made (p.answerConnect answer).1 := by
  simp only [Pool.answerConnect]
  split
  next owner id login calls hcalls =>
    cases answer with
    | error message =>
      have hpopped : Chronicled charset made { p with calls } :=
        h.grow (.of_eq rfl rfl rfl rfl) (dialled_of_tail hcalls)
      exact hpopped.grow (grown_vacate _ owner) (dialled_of_calls (calls_vacate _ owner))
    | ok condition =>
      refine h.grow (.of_eq rfl rfl rfl rfl) ?_
      -- The attempt of the call stays what it was.
      rw [dialled, dialled, hcalls]
      exact List.Sublist.refl _
  next => exact h

theorem Chronicled.endBorrow (h : Chronicled charset made p) :
    Chronicled charset made p.endBorrow := by
  refine h.grow (grown_endBorrow p) ?_
  by_cases hborrow : ∃ s calls, p.calls = .borrowing s :: calls
  · obtain ⟨s, calls, hcalls⟩ := hborrow
    have htail := calls_endBorrow hcalls
    exact dialled_of_tail (htail ▸ hcalls)
  · rw [endBorrow_of_idle hborrow]

theorem Chronicled.act (h : Chronicled charset l.made p) (m : Move) :
    Chronicled charset (l.enter p m).made (p.act m).1 := by
  have hquiet : Chronicled charset l.made (p.act m).1 → p.makes m = [] →
      Chronicled charset (l.enter p m).made (p.act m).1 := by
    intro hact hmakes
    rw [Ledger.enter, hmakes, List.append_nil]
    exact hact
  cases m with
  | lookup key server keep =>
    exact hquiet (h.grow (grown_lookup p key server) (dialled_lookup p key server)) rfl
  | establish server user => exact hquiet (h.connect none server user) rfl
  | answerServer answer => exact hquiet (h.answerServer answer) rfl
  | answerUser answer => exact hquiet (h.answerUser answer) rfl
  | answerConnect answer => exact hquiet (h.answerConnect answer) rfl
  | settle keep => exact h.settle keep
  | beginBorrow handle =>
    refine hquiet ?_ rfl
    simp only [Pool.act]
    split
    next q hq =>
      refine h.grow (grown_beginBorrow hq) ?_
      obtain ⟨s, x, -, -, -, -, -, rfl⟩ := beginBorrow_eq_some hq
      exact List.Sublist.refl _
    next => exact h
  | endBorrow => exact hquiet h.endBorrow rfl
  | use u =>
    exact hquiet (h.grow (grown_use p u) (dialled_of_calls (calls_use p u))) rfl
  | release handle =>
    exact hquiet (h.grow (grown_release p handle) (dialled_of_calls (calls_release p handle))) rfl
  | closeAll => exact hquiet (h.grow (grown_closeAll p) (dialled_of_calls (calls_closeAll p))) rfl
  | count => exact hquiet h rfl
  | report event => exact hquiet (h.grow (grown_log p event) (List.Sublist.refl _)) rfl

theorem Chronicled.step (h : Chronicled charset l.made p) (m : Move) :
    Chronicled charset (l.enter p m).made (p.step m) := by
  have hact := h.act m
  simp only [Pool.step]
  split
  next s _ => exact hact.grow (grown_stow _ s m.keep) (dialled_of_calls (calls_stow _ s m.keep))
  next => exact hact

/-- The history of every run of a fresh pool is in order. -/
theorem chronicled_after (charset : String) (ms : List Move) :
    Chronicled charset ((start charset).ledger ms).made ((start charset).after ms) := by
  induction ms using List.reverseRecOn with
  | nil =>
    constructor
    case encoded => rfl
    case recorded => exact fun id => .untried
    all_goals
      simp [start, after, about, chronicle, concerning, dialled, ledger, gather, Reaching, session?]
  | append_singleton ms m ih =>
    rw [ledger_snoc, after_append]
    exact ih.step m

theorem chronicled_before (charset : String) (ms : List Move) (n : Nat) :
    Chronicled charset ((start charset).ledger (ms.take n)).made ((start charset).before ms n) :=
  chronicled_after charset (ms.take n)

end RemoteFirebird.Pool
