import RemoteFirebird.Proofs.Pool.LookUps
import RemoteFirebird.Proofs.Pool.Records
import RemoteFirebird.Proofs.Session.Endpoint

/-!
# The stages of a handshake

A look-up that finds no session asks for the options of the server, for those of the user mapping
and for a connection, in this order, and then sets the connection up. It ends with the first answer
that is a failure. What the look-up does itself is told apart from what is made from inside of it by
the height of the stack: it is on top whenever it is answered.
-/

namespace RemoteFirebird.Pool

open Session

variable {p q : Pool} {m : Move} {ms ns : List Move} {os : List Occurrence} {i j n : Nat}
  {key : Key} {calls : List Call} {c : Call} {charset server : String} {made : List Made}
  {outcome : Except Fault Nat}

/-! ### Answers and what follows from them -/

/-- Whether a call waits for a move. -/
def Call.awaits : Call → Move → Bool
  | askingServer .., .answerServer _ => true
  | askingUser .., .answerUser _ => true
  | connecting .., .answerConnect _ => true
  | opened .., .settle _ => true
  | _, _ => false

def Occurrence.isLogged : Occurrence → Bool
  | logged _ => true
  | _ => false

/-- What a move does until its call returns, apart from what it logs. -/
def deeds (p : Pool) (m : Move) : List Occurrence :=
  ((p.act m).1.chronicle.drop p.chronicle.length).filter fun o => !o.isLogged

/-- Whether a move answers the latest call, with a stack of the given height below that. -/
def isAnswered (p : Pool) (m : Move) (height : Nat) : Bool :=
  match p.calls with
  | c :: calls => calls.length == height && c.awaits m
  | [] => false

/-- The answers that the look-up that begins with move `i` gets before move `n`, each with the pool
that it meets. -/
def answers (p : Pool) (ms : List Move) (i n : Nat) : List (Pool × Move) :=
  gather (fun q m => if q.isAnswered m (p.before ms i).calls.length then [(q, m)] else [])
    (p.before ms (i + 1)) ((ms.take n).drop (i + 1))

/-- What the look-up that begins with move `i` does itself before move `n`. -/
def ownDeeds (p : Pool) (ms : List Move) (i n : Nat) : List Occurrence :=
  (ms[i]?.elim [] fun m => (p.before ms i).deeds m) ++
    (answers p ms i n).flatMap fun a => a.1.deeds a.2

private theorem deeds_of_chronicle (os : List Occurrence)
    (h : (p.act m).1.chronicle = p.chronicle ++ os) :
    p.deeds m = os.filter fun o => !o.isLogged := by
  rw [deeds, h, List.drop_left]

private theorem deeds_of_singles (os : List Occurrence)
    (h : (p.act m).1.history = (os.map Entry.single).reverse ++ p.history) :
    p.deeds m = os.filter fun o => !o.isLogged :=
  deeds_of_chronicle os (chronicle_of_singles os h)

private theorem answers_succ (p : Pool) (hm : ms[n]? = some m) (hi : i < n) :
    p.answers ms i (n + 1) = p.answers ms i n ++
      if (p.before ms n).isAnswered m (p.before ms i).calls.length then [(p.before ms n, m)]
      else [] := by
  have hlt : n < ms.length := (List.getElem?_eq_some_iff.mp hm).1
  have htake : (ms.take (n + 1)).drop (i + 1) = (ms.take n).drop (i + 1) ++ [m] := by
    rw [List.take_add_one, hm, Option.toList_some, List.drop_append_of_le_length]
    rw [List.length_take]
    omega
  have hbefore : (p.before ms (i + 1)).after ((ms.take n).drop (i + 1)) = p.before ms n := by
    have hprefix : ms.take (i + 1) = (ms.take n).take (i + 1) := by
      rw [List.take_take, Nat.min_eq_left hi]
    rw [before, hprefix, ← after_append, List.take_append_drop, before]
  rw [answers, htake, gather_append, hbefore]
  simp [answers, gather]

private theorem answers_succ_of_none (hm : ms[n]? = none) :
    answers p ms i (n + 1) = answers p ms i n := by
  rw [answers, answers, List.take_add_one, hm, Option.toList_none, List.append_nil]

private theorem isAnswered_iff {fs base : List Call} (hcalls : q.calls = fs ++ c :: base) :
    q.isAnswered m base.length = true ↔ fs = [] ∧ c.awaits m = true := by
  rw [isAnswered, hcalls]
  cases fs with
  | nil => simp
  | cons f fs =>
    have hne : ¬(fs.length + (base.length + 1) = base.length) := by omega
    simp [hne]

private theorem answers_of_own (hm : ms[n]? = some m) (hi : i < n)
    (hcalls : (p.before ms n).calls = c :: (p.before ms i).calls) (hawaits : c.awaits m = true) :
    (p.answers ms i (n + 1)).map Prod.snd = (p.answers ms i n).map Prod.snd ++ [m] ∧
      p.ownDeeds ms i (n + 1) = p.ownDeeds ms i n ++ (p.before ms n).deeds m := by
  have hcalls' : (p.before ms n).calls = [] ++ c :: (p.before ms i).calls := hcalls
  have hanswers := p.answers_succ hm hi
  rw [if_pos ((isAnswered_iff hcalls').mpr ⟨rfl, hawaits⟩)] at hanswers
  simp [ownDeeds, hanswers]

private theorem answers_of_other {fs : List Call} (hm : ms[n]? = some m) (hi : i < n)
    (hcalls : (p.before ms n).calls = fs ++ c :: (p.before ms i).calls)
    (hother : ¬(fs = [] ∧ c.awaits m = true)) :
    p.answers ms i (n + 1) = p.answers ms i n ∧ p.ownDeeds ms i (n + 1) = p.ownDeeds ms i n := by
  have hanswers := p.answers_succ hm hi
  rw [if_neg (mt (isAnswered_iff hcalls).mp hother), List.append_nil] at hanswers
  exact ⟨hanswers, by rw [ownDeeds, ownDeeds, hanswers]⟩

/-! ### Stages -/

/-- How far a look-up has come: which answers it has got, what it has done, and its call. -/
inductive Stage (charset server : String) (key : Key) :
    List Move → List Occurrence → Call → Prop
  | server : Stage charset server key [] [.serverOptions server] (.askingServer key server)
  | user (options : Options.Server) :
    Stage charset server key [.answerServer (.ok options)]
      [.serverOptions server, .userOptions server] (.askingUser key server options)
  | connection {options : Options.Server} {path : String} (user : Options.UserMapping) (id : Nat)
    (hpath : databasePath options = .ok path) :
    Stage charset server key [.answerServer (.ok options), .answerUser (.ok user)]
      [.serverOptions server, .userOptions server, .connect id (loginFor charset path user)]
      (.connecting (some key) id (loginFor charset path user))
  | readiness {options : Options.Server} {path : String} (user : Options.UserMapping) (id : Nat)
    (condition : Condition) (hpath : databasePath options = .ok path) :
    Stage charset server key
      [.answerServer (.ok options), .answerUser (.ok user), .answerConnect (.ok condition)]
      [.serverOptions server, .userOptions server, .connect id (loginFor charset path user)]
      (.opened (some key) (loginFor charset path user) ⟨id, condition⟩)

/-- The whole course of a look-up: the answers that it gets, what it does, and what it comes to in
the pool in which it returns. -/
inductive Course (charset server : String) (q : Pool) :
    List Move → List Occurrence → Except Fault Nat → Prop
  | noServerOptions (fault : Fault) :
    Course charset server q [.answerServer (.error fault)] [.serverOptions server] (.error fault)
  | noUserOptions (options : Options.Server) (fault : Fault) :
    Course charset server q [.answerServer (.ok options), .answerUser (.error fault)]
      [.serverOptions server, .userOptions server] (.error fault)
  | noDatabase {options : Options.Server} (user : Options.UserMapping)
    (hnone : options.database = none) :
    Course charset server q [.answerServer (.ok options), .answerUser (.ok user)]
      [.serverOptions server, .userOptions server] (.error (.options (.missing "database")))
  | refused {options : Options.Server} {path : String} (user : Options.UserMapping) (id : Nat)
    (message : String) (hpath : databasePath options = .ok path) :
    Course charset server q
      [.answerServer (.ok options), .answerUser (.ok user), .answerConnect (.error message)]
      [.serverOptions server, .userOptions server, .connect id (loginFor charset path user)]
      (.error (.notEstablished path message))
  | notReady {options : Options.Server} {path : String} {id : Nat} {condition : Condition}
    (user : Options.UserMapping) (keep : Option String) (hpath : databasePath options = .ok path)
    (hready : condition.ready = false)
    (hrecord : q.about id = [.connect id (loginFor charset path user), .isReady id,
      .errorMessage id, .drop id]) :
    Course charset server q
      [.answerServer (.ok options), .answerUser (.ok user), .answerConnect (.ok condition),
        .settle keep]
      [.serverOptions server, .userOptions server, .connect id (loginFor charset path user),
        .isReady id, .errorMessage id, .drop id]
      (.error (.notEstablished path condition.message))
  | established {options : Options.Server} {path : String} {id s : Nat} {condition : Condition}
    {x : Session} (user : Options.UserMapping) (keep : Option String)
    (hpath : databasePath options = .ok path) (hready : condition.ready = true)
    (hrecord : q.about id = [.connect id (loginFor charset path user), .isReady id,
      .setAutocommit id true, .setMessageLevel id .debug2])
    (hsession : q.session? s = some x) (hconnection : x.connection = some ⟨id, condition⟩)
    (hstate : x.toSnapshot = { path, autocommit := true, level := .debug2, closed := false }) :
    Course charset server q
      [.answerServer (.ok options), .answerUser (.ok user), .answerConnect (.ok condition),
        .settle keep]
      [.serverOptions server, .userOptions server, .connect id (loginFor charset path user),
        .isReady id, .setAutocommit id true, .setMessageLevel id .debug2]
      (.ok s)

private theorem Stage.key?_eq (h : Stage charset server key ns os c) : c.key? = some key := by
  cases h <;> rfl

/-- An awaited answer brings a look-up to its next stage, or to its end. -/
inductive Answered (charset server : String) (key : Key) (calls : List Call) (ns : List Move)
    (os : List Occurrence) : Pool × Progress → Prop
  | next {q : Pool} {c : Call} (hcalls : q.calls = c :: calls)
    (hstage : Stage charset server key ns os c) :
    Answered charset server key calls ns os (q, .waiting)
  | done {q : Pool} {outcome : Except Fault Nat} (hcalls : q.calls = calls)
    (hcourse : Course charset server q ns os outcome) :
    Answered charset server key calls ns os (q, .finished outcome)

private theorem answered_server (answer : Except Fault Options.Server)
    (hcalls : p.calls = .askingServer key server :: calls) :
    Answered charset server key calls [.answerServer answer]
      ([.serverOptions server] ++ p.deeds (.answerServer answer))
      (p.act (.answerServer answer)) := by
  cases answer with
  | error fault =>
    have hact : p.act (.answerServer (.error fault)) =
        (setSlot { p with calls } key .vacant, .finished (.error fault)) := by
      simp only [act, answerServer, hcalls]
    have hdeeds : p.deeds (.answerServer (.error fault)) = [] :=
      deeds_of_singles [] (by rw [hact]; rfl)
    rw [hact, hdeeds]
    exact .done rfl (.noServerOptions fault)
  | ok options =>
    have hact : p.act (.answerServer (.ok options)) =
        (record { p with calls := .askingUser key server options :: calls } (.userOptions server),
          .waiting) := by
      simp only [act, answerServer, hcalls]
    have hdeeds : p.deeds (.answerServer (.ok options)) = [.userOptions server] :=
      deeds_of_singles [.userOptions server] (by rw [hact]; rfl)
    rw [hact, hdeeds]
    exact .next rfl (.user options)

private theorem answered_user {options : Options.Server} (answer : Except Fault Options.UserMapping)
    (hencoding : p.encoding = charset)
    (hcalls : p.calls = .askingUser key server options :: calls) :
    Answered charset server key calls [.answerServer (.ok options), .answerUser answer]
      ([.serverOptions server, .userOptions server] ++ p.deeds (.answerUser answer))
      (p.act (.answerUser answer)) := by
  cases answer with
  | error fault =>
    have hact : p.act (.answerUser (.error fault)) =
        (setSlot { p with calls } key .vacant, .finished (.error fault)) := by
      simp only [act, answerUser, hcalls]
    have hdeeds : p.deeds (.answerUser (.error fault)) = [] :=
      deeds_of_singles [] (by rw [hact]; rfl)
    rw [hact, hdeeds]
    exact .done rfl (.noUserOptions options fault)
  | ok user =>
    have hact : p.act (.answerUser (.ok user)) =
        connect { p with calls } (some key) options user := by
      simp only [act, answerUser, hcalls]
    cases hpath : databasePath options with
    | error fault =>
      obtain ⟨hnone, rfl⟩ := databasePath_eq_error_iff.mp hpath
      have hact' : p.act (.answerUser (.ok user)) = (setSlot { p with calls } key .vacant,
          .finished (.error (.options (.missing "database")))) := by
        rw [hact]
        simp only [connect, hpath]
        rfl
      have hdeeds : p.deeds (.answerUser (.ok user)) = [] :=
        deeds_of_singles [] (by rw [hact']; rfl)
      rw [hact', hdeeds]
      exact .done rfl (.noDatabase user hnone)
    | ok path =>
      rw [connect_of_path (some key) user hpath] at hact
      have hdeeds : p.deeds (.answerUser (.ok user)) =
          [.connect (p.attempts + 1) (loginFor p.encoding path user)] :=
        deeds_of_singles [.logged (.databasePath path),
          .logged (.connecting (loginFor p.encoding path user)),
          .connect (p.attempts + 1) (loginFor p.encoding path user)] (by rw [hact]; rfl)
      rw [hact, hdeeds, hencoding]
      exact .next rfl (.connection user (p.attempts + 1) hpath)

private theorem answered_connection {options : Options.Server} {path : String} {id : Nat}
    (user : Options.UserMapping) (answer : Except String Condition)
    (hpath : databasePath options = .ok path)
    (hcalls : p.calls = .connecting (some key) id (loginFor charset path user) :: calls) :
    Answered charset server key calls
      [.answerServer (.ok options), .answerUser (.ok user), .answerConnect answer]
      ([.serverOptions server, .userOptions server, .connect id (loginFor charset path user)] ++
        p.deeds (.answerConnect answer))
      (p.act (.answerConnect answer)) := by
  cases answer with
  | error message =>
    have hact : p.act (.answerConnect (.error message)) =
        (setSlot { p with calls } key .vacant,
          .finished (.error (.notEstablished path message))) := by
      simp only [act, answerConnect, hcalls]
      rfl
    have hdeeds : p.deeds (.answerConnect (.error message)) = [] :=
      deeds_of_singles [] (by rw [hact]; rfl)
    rw [hact, hdeeds]
    exact .done rfl (.refused user id message hpath)
  | ok condition =>
    have hact : p.act (.answerConnect (.ok condition)) =
        ({ p with calls := .opened (some key) (loginFor charset path user) ⟨id, condition⟩ ::
          calls }, .waiting) := by
      simp only [act, answerConnect, hcalls]
    have hdeeds : p.deeds (.answerConnect (.ok condition)) = [] :=
      deeds_of_singles [] (by rw [hact]; rfl)
    rw [hact, hdeeds]
    exact .next rfl (.readiness user id condition hpath)

private theorem answered_readiness {options : Options.Server} {path : String} {id : Nat}
    {condition : Condition} (h : Chronicled charset made p) (user : Options.UserMapping)
    (keep : Option String) (hpath : databasePath options = .ok path)
    (hcalls : p.calls = .opened (some key) (loginFor charset path user) ⟨id, condition⟩ :: calls) :
    Answered charset server key calls
      [.answerServer (.ok options), .answerUser (.ok user), .answerConnect (.ok condition),
        .settle keep]
      ([.serverOptions server, .userOptions server, .connect id (loginFor charset path user)] ++
        p.deeds (.settle keep))
      (p.act (.settle keep)) := by
  have hmem : (id, loginFor charset path user) ∈ p.dialled := by
    rw [dialled, hcalls]
    exact List.mem_cons_self
  have hone := (h.awaited _ hmem).1
  cases hready : condition.ready with
  | false =>
    have hact : p.act (.settle keep) = _ := settle_of_unready hcalls hready
    have hchronicle : (p.act (.settle keep)).1.chronicle = p.chronicle ++ rejection id := by
      rw [hact]
      exact chronicle_of_singles _ rfl
    have hrecord := about_of_chronicle hchronicle id
    have hos : concerning id (rejection id) = rejection id := by
      simp [concerning, rejection, Occurrence.connection?]
    rw [hone, hos] at hrecord
    have hdeeds : p.deeds (.settle keep) = rejection id := deeds_of_chronicle _ hchronicle
    rw [hdeeds, hact]
    rw [hact] at hrecord
    exact .done rfl (.notReady user keep hpath hready hrecord)
  | true =>
    let os : List Occurrence := preparation id ++ [.logged (.connected path)]
    have hact : p.act (.settle keep) = _ := settle_of_ready hcalls hready
    have hchronicle : (p.act (.settle keep)).1.chronicle = p.chronicle ++ os := by
      rw [hact]
      exact chronicle_of_singles _ rfl
    have hrecord := about_of_chronicle hchronicle id
    have hos : concerning id os = preparation id := by
      simp [os, concerning, preparation, Occurrence.connection?]
    rw [hone, hos] at hrecord
    have hdeeds : p.deeds (.settle keep) = preparation id := deeds_of_chronicle os hchronicle
    have hsession : (p.act (.settle keep)).1.session? p.sessions.length =
        some { Session.fresh path ⟨id, condition⟩ with holders := 2 } := by
      rw [hact]
      simp [addSession, retain, session?, modifySession, setSlot, Session.fresh, loginFor]
    rw [hact] at hsession hrecord
    rw [hdeeds, hact]
    exact .done rfl (.established user keep hpath hready hrecord hsession rfl rfl)

private theorem Stage.answered (hstage : Stage charset server key ns os c)
    (h : Chronicled charset made p) (hcalls : p.calls = c :: calls) (hawaits : c.awaits m = true) :
    Answered charset server key calls (ns ++ [m]) (os ++ p.deeds m) (p.act m) := by
  cases hstage with
  | server =>
    cases m with
    | answerServer answer => exact answered_server answer hcalls
    | _ => simp [Call.awaits] at hawaits
  | user options =>
    cases m with
    | answerUser answer => exact answered_user answer h.encoded hcalls
    | _ => simp [Call.awaits] at hawaits
  | connection user id hpath =>
    cases m with
    | answerConnect answer => exact answered_connection user answer hpath hcalls
    | _ => simp [Call.awaits] at hawaits
  | readiness user id condition hpath =>
    cases m with
    | settle keep => exact answered_readiness h user keep hpath hcalls
    | _ => simp [Call.awaits] at hawaits

/-! ### What is made from inside -/

private theorem act_of_unawaited (hcalls : p.calls = c :: calls) (hanswer : m.isAnswer = true)
    (hawaits : c.awaits m = false) : p.act m = (p, .waiting) := by
  have hnot : ∀ d rest, p.calls = d :: rest → d.awaits m = false := by
    intro d rest hd
    obtain ⟨rfl, -⟩ := List.cons.inj (hcalls.symm.trans hd)
    exact hawaits
  cases m with
  | answerServer answer =>
    simp only [act, answerServer]
    split
    next hd => exact absurd (hnot _ _ hd) (by simp [Call.awaits])
    next => rfl
  | answerUser answer =>
    simp only [act, answerUser]
    split
    next hd => exact absurd (hnot _ _ hd) (by simp [Call.awaits])
    next => rfl
  | answerConnect answer =>
    simp only [act, answerConnect]
    split
    next hd => exact absurd (hnot _ _ hd) (by simp [Call.awaits])
    next => rfl
  | settle keep =>
    simp only [act, settle]
    split
    next hd => exact absurd (hnot _ _ hd) (by simp [Call.awaits])
    next => rfl
  | _ => simp [Move.isAnswer] at hanswer

private theorem suffix_of_unawaited (hcalls : p.calls = c :: calls) (hc : c.key? = some key)
    (hawaits : c.awaits m = false) : p.calls <:+ (p.act m).1.calls := by
  have hkeep : ∀ r : Pool, r.calls = p.calls → p.calls <:+ r.calls :=
    fun r hr => hr ▸ List.suffix_refl p.calls
  by_cases hanswer : m.isAnswer = true
  · exact hkeep _ (by rw [act_of_unawaited hcalls hanswer hawaits])
  cases m with
  | lookup key server keep =>
    simp only [act, lookup]
    split
    next => exact hkeep _ (calls_prepare p)
    next => exact hkeep _ (calls_prepare p)
    next => exact calls_prepare p ▸ List.suffix_cons _ p.prepare.calls
  | establish server user =>
    simp only [act, establish, connect]
    split
    next => exact hkeep _ rfl
    next => exact List.suffix_cons _ _
  | beginBorrow handle =>
    simp only [act]
    split
    next q hq =>
      obtain ⟨s, x, -, -, -, -, -, rfl⟩ := beginBorrow_eq_some hq
      exact List.suffix_cons _ _
    next => exact hkeep _ rfl
  | endBorrow =>
    refine hkeep _ (congrArg Pool.calls (endBorrow_of_idle ?_))
    intro hborrow
    obtain ⟨s, calls', hcalls'⟩ := hborrow
    obtain ⟨rfl, -⟩ := List.cons.inj (hcalls.symm.trans hcalls')
    simp [Call.key?] at hc
  | use u => exact hkeep _ (calls_use p u)
  | release handle => exact hkeep _ (calls_release p handle)
  | closeAll => exact hkeep _ (calls_closeAll p)
  | count => exact hkeep _ rfl
  | report event => exact hkeep _ rfl
  | _ => exact (hanswer rfl).elim

/-! ### Whole look-ups -/

private theorem deeds_lookup_of_vacant (keep : Option String) (hs : p.slot key = .vacant) :
    p.deeds (.lookup key server keep) = [.serverOptions server] := by
  have hprepare : ∃ os : List Occurrence, p.prepare.chronicle = p.chronicle ++ os ∧
      os.filter (fun o => !o.isLogged) = [] := by
    rw [prepare]
    split
    next => exact ⟨[], (List.append_nil _).symm, rfl⟩
    next => exact ⟨_, chronicle_record p (.logged .initializingPool), rfl⟩
  obtain ⟨os, hos, hlogged⟩ := hprepare
  have hact : (p.act (.lookup key server keep)).1.chronicle =
      p.chronicle ++ (os ++ [.logged (.establishing server key), .serverOptions server]) := by
    simp only [act, lookup, slot_prepare, hs]
    rw [← List.append_assoc, ← hos]
    exact chronicle_of_singles [_, _] rfl
  rw [deeds_of_chronicle _ hact, List.filter_append, hlogged]
  rfl

private theorem Stage.suffix_of_other {fs : List Call} (h : Stage charset server key ns os c)
    (hcalls : p.calls = fs ++ c :: calls) (hother : ¬(fs = [] ∧ c.awaits m = true)) :
    c :: calls <:+ (p.act m).1.calls := by
  cases fs with
  | nil =>
    have hawaits : c.awaits m = false := by simpa using hother
    rw [List.nil_append] at hcalls
    exact hcalls ▸ suffix_of_unawaited hcalls h.key?_eq hawaits
  | cons f fs =>
    have htail := (turn_act p m).tail_suffix
    rw [hcalls] at htail
    exact (List.suffix_append fs (c :: calls)).trans htail

/-- While a look-up waits it is at one of the stages, and its call is on the stack. -/
theorem Establishing.stage (h : Establishing (start charset) ms i n key)
    (hbegin : ∃ keep, ms[i]? = some (.lookup key server keep)) :
    ∃ fs c, ((start charset).before ms n).calls = fs ++ c :: ((start charset).before ms i).calls ∧
      Stage charset server key (((start charset).answers ms i n).map Prod.snd)
        ((start charset).ownDeeds ms i n) c := by
  have hs := h.slot_eq_vacant
  obtain ⟨keep, hbegin⟩ := hbegin
  obtain ⟨-, hway⟩ := h
  have hlt := hway.lt
  induction hlt with
  | refl =>
    obtain ⟨history, hact⟩ := act_lookup_of_vacant server keep hs
    have hnone : (start charset).answers ms i (i + 1) = [] := by
      have hnil : (ms.take (i + 1)).drop (i + 1) = [] :=
        List.drop_eq_nil_of_le (List.length_take_le _ _)
      rw [answers, hnil, gather]
    refine ⟨[], .askingServer key server, ?_, ?_⟩
    · rw [before_succ hbegin, calls_step, hact]
      rfl
    · rw [ownDeeds, hnone, hbegin, Option.elim_some, deeds_lookup_of_vacant keep hs]
      exact .server
  | @step n hlt ih =>
    obtain ⟨fs, c, hcalls, hstage⟩ := ih (hway.pred hlt)
    have hlen := hway.above (n + 1) hway.lt (Nat.le_refl _)
    cases hm : ms[n]? with
    | none =>
      rw [before_succ_of_none hm, ownDeeds, answers_succ_of_none hm]
      exact ⟨fs, c, hcalls, hstage⟩
    | some m =>
      rw [before_succ hm, calls_step] at hlen ⊢
      by_cases hown : fs = [] ∧ c.awaits m = true
      · obtain ⟨rfl, hawaits⟩ := hown
        obtain ⟨hanswers, hdeeds⟩ := answers_of_own hm hlt hcalls hawaits
        have hanswered := hstage.answered (chronicled_before charset ms n) hcalls hawaits
        rw [hanswers, hdeeds]
        generalize ((start charset).before ms n).act m = r at hanswered hlen
        cases hanswered with
        | @next q c' hcalls' hstage' => exact ⟨[], c', hcalls', hstage'⟩
        | done hcalls' =>
          rw [hcalls'] at hlen
          exact (Nat.lt_irrefl _ hlen).elim
      · obtain ⟨hanswers, hdeeds⟩ := answers_of_other hm hlt hcalls hown
        rw [hanswers, hdeeds]
        obtain ⟨gs, hgs⟩ := hstage.suffix_of_other hcalls hown
        exact ⟨gs, c, hgs.symm, hstage⟩

/-- A look-up that has had to wait has run its course when it ends. -/
theorem Ended.course (h : Ended (start charset) ms i j key outcome)
    (hs : ((start charset).before ms i).slot key = .vacant) :
    ∃ server m, (∃ keep, ms[i]? = some (.lookup key server keep)) ∧ ms[j]? = some m ∧
      Course charset server (((start charset).before ms j).act m).1
        (((start charset).answers ms i (j + 1)).map Prod.snd)
        ((start charset).ownDeeds ms i (j + 1)) outcome := by
  have hlt := h.lt_of_vacant hs
  obtain ⟨server, keep, hbegin⟩ := h.begins
  obtain ⟨m, hm, hend⟩ := h.ends
  have hleaves := h.leaves
  rw [before_succ hm, calls_step] at hleaves
  obtain ⟨fs, c, hcalls, hstage⟩ := (h.establishing hlt (Nat.le_refl j)).stage ⟨keep, hbegin⟩
  have hown : fs = [] ∧ c.awaits m = true := by
    by_contra hother
    have hsuffix := (hstage.suffix_of_other hcalls hother).length_le
    rw [List.length_cons] at hsuffix
    omega
  obtain ⟨rfl, hawaits⟩ := hown
  obtain ⟨hanswers, hdeeds⟩ := answers_of_own hm hlt hcalls hawaits
  have hanswered := hstage.answered (chronicled_before charset ms j) hcalls hawaits
  refine ⟨server, m, ⟨keep, hbegin⟩, hm, ?_⟩
  rw [hanswers, hdeeds]
  generalize ((start charset).before ms j).act m = r at hanswered hend
  cases hanswered with
  | next => simp at hend
  | done _ hcourse =>
    obtain rfl := Progress.finished.inj hend
    exact hcourse

theorem exists_furnished {s : Nat} {x : Session}
    (hx : ((start charset).after ms).session? s = some x) :
    ∃ id owner login, ⟨id, s, owner⟩ ∈ ((start charset).ledger ms).made ∧
      ((start charset).after ms).Furnished id login x ∧ login.encoding = charset := by
  have hlt : s < ((start charset).after ms).sessions.length :=
    (List.getElem?_eq_some_iff.mp hx).1
  have hmem : s ∈ ((start charset).ledger ms).made.map Made.session := by
    rw [(sound_after charset ms).made]
    exact List.mem_range.mpr hlt
  obtain ⟨⟨id, s, owner⟩, hmade, rfl⟩ := List.mem_map.mp hmem
  obtain ⟨y, login, hy, hfurnished, hlogin⟩ :=
    (chronicled_after charset ms).furnished id s owner hmade
  obtain rfl : y = x := Option.some.inj (hy.symm.trans hx)
  exact ⟨id, owner, login, hmade, hfurnished, hlogin⟩

end RemoteFirebird.Pool
