import RemoteFirebird.Proofs.Pool.Conservation
import RemoteFirebird.Proofs.Pool.Nesting
import RemoteFirebird.Proofs.Rehearsal.Balance

/-!
# Exclusive borrows

Whether a borrow runs depends on two things only: whether its session has been closed, and whether
the session is lent already. The mark that a session is lent is there just while a borrow of it is
on the stack, whatever else is done meanwhile, and there is at most one such borrow.
-/

namespace RemoteFirebird

open Session

namespace Pool

variable {calls : List Call} {holds late : List Nat} {l : Ledger} {p : Pool} {x : Session}
  {handle : String} {s : Nat} {encoding : String} {ms : List Move} {i n n' : Nat}

/-- The pool once a borrow of a session has begun. -/
def lend (p : Pool) (s : Nat) : Pool :=
  { p with calls := .borrowing s :: p.calls }.modifySession s fun x =>
    { x with borrowed := true, holders := x.holders + 1 }

private theorem Sound.referenced_of_handle (hs : p.handles.lookup handle = some s) :
    p.Referenced s :=
  .inr (.inl (List.mem_map_of_mem (f := Prod.snd) (mem_of_lookup hs)))

private theorem Sound.exists_of_handle (h : Sound p.calls [] late l p)
    (hs : p.handles.lookup handle = some s) : ∃ x, p.session? s = some x :=
  h.exists_session (h.refs_pos_iff.mpr (referenced_of_handle hs))

private theorem Sound.beginBorrow_eq (h : Sound p.calls [] late l p)
    (hs : p.handles.lookup handle = some s) (hx : p.session? s = some x) :
    p.beginBorrow handle = some
      (if x.closed then .error (.closed x.path)
      else if .borrowing s ∈ p.calls then .error (.busy x.path)
      else .ok (p.lend s)) := by
  have hborrowed := h.borrowed_iff hx
  cases hclosed : x.closed with
  | true => simp [Pool.beginBorrow, hs, hx, hclosed]
  | false =>
    have hconnected := (h.connected_iff hx).mpr ⟨referenced_of_handle hs, .inl hclosed⟩
    obtain ⟨c, hc⟩ := Option.isSome_iff_exists.mp hconnected
    by_cases hlent : .borrowing s ∈ p.calls
    · simp [Pool.beginBorrow, hs, hx, hclosed, hborrowed.mpr hlent, hlent]
    · have hfree : x.borrowed = false := by simpa [hlent] using hborrowed
      simp [Pool.beginBorrow, hs, hx, hclosed, hfree, hc, hlent, lend]

private theorem Sound.count_borrowing_le (h : Sound calls holds late l p) (s : Nat) :
    calls.count (.borrowing s) ≤ 1 := by
  by_cases hrefs : 0 < p.refs calls holds s
  · obtain ⟨x, hx⟩ := h.exists_session hrefs
    rw [(h.fits s x hx).borrowed]
    split <;> omega
  · rw [refs] at hrefs
    omega

private theorem Lending.eq (h : Lending (start encoding) ms n i s)
    (h' : Lending (start encoding) ms n' i s) : n = n' := by
  obtain ⟨fs, hcalls⟩ := h.frame
  obtain ⟨fs', hcalls'⟩ := h'.frame
  have hcount := (sound_before encoding ms i).count_borrowing_le s
  have hbase : ((start encoding).before ms n).calls = ((start encoding).before ms n').calls := by
    rw [hcalls, List.count_append, List.count_cons_self] at hcount
    have hfs : .borrowing s ∉ fs := fun hmem => by
      have := List.count_pos_iff.mpr hmem
      omega
    have hbase : .borrowing s ∉ ((start encoding).before ms n).calls := fun hmem => by
      have := List.count_pos_iff.mpr hmem
      omega
    have heq := hcalls'.symm.trans hcalls
    exact ((List.append_cons_inj_of_notMem hfs hbase).mp heq.symm).2.2
  -- The later one of two borrows would have begun on a higher stack.
  rcases Nat.lt_trichotomy n n' with hlt | heq | hlt
  · have habove := h.2.above n' hlt (Nat.le_of_lt h'.2.lt)
    rw [hbase] at habove
    exact (Nat.lt_irrefl _ habove).elim
  · exact heq
  · have habove := h'.2.above n hlt (Nat.le_of_lt h.2.lt)
    rw [hbase] at habove
    exact (Nat.lt_irrefl _ habove).elim

private theorem step_beginBorrow {q : Pool} (hq : p.beginBorrow handle = some (.ok q)) :
    p.step (.beginBorrow handle) = q := by
  simp [step, result, act, hq, Progress.session?]

private theorem lending_snoc (hs : ((start encoding).after ms).handles.lookup handle = some s)
    (hbegin : ((start encoding).after ms).beginBorrow handle =
      some (.ok (((start encoding).after ms).lend s))) :
    Lending (start encoding) (ms ++ [.beginBorrow handle]) ms.length (ms.length + 1) s := by
  have hm : (ms ++ [Move.beginBorrow handle])[ms.length]? = some (.beginBorrow handle) := by simp
  have hbefore : (start encoding).before (ms ++ [.beginBorrow handle]) ms.length =
      (start encoding).after ms := by simp [before]
  refine ⟨⟨handle, hm, by rw [hbefore, hs]⟩, .of_begins ?_⟩
  rw [before_succ hm, hbefore, step_beginBorrow hbegin]
  exact Nat.lt_succ_self _

end Pool

namespace Rehearsal

open Pool

variable {late : List Nat} {l : Ledger} {x : Session} {handle : String} {s : Nat}

private theorem take_borrow (st : State) (h : Sound st.pool.calls [] late l st.pool)
    (hs : st.pool.handles.lookup handle = some s) (hx : st.pool.session? s = some x)
    (body : List Step) : take st (.borrow handle body) =
      if x.closed then (st, .refused (.closed x.path))
      else if .borrowing s ∈ st.pool.calls then (st, .refused (.busy x.path))
      else
        let inside := takeAll { st with pool := st.pool.lend s } body
        ({ inside.1 with pool := inside.1.pool.endBorrow }, .borrowed inside.2) := by
  simp only [take, h.beginBorrow_eq hs hx]
  cases x.closed with
  | true => rfl
  | false => by_cases hlent : .borrowing s ∈ st.pool.calls <;> simp [hlent]

theorem borrowed_iff (st : State) (h : Sound st.pool.calls [] late l st.pool)
    (hs : st.pool.handles.lookup handle = some s) (hx : st.pool.session? s = some x)
    (body : List Step) : (∃ replies, (take st (.borrow handle body)).2 = .borrowed replies) ↔
      x.closed = false ∧ .borrowing s ∉ st.pool.calls := by
  rw [take_borrow st h hs hx]
  cases x.closed with
  | true => simp
  | false => by_cases hlent : .borrowing s ∈ st.pool.calls <;> simp [hlent]

/-- What holds of borrows after every run, whatever calls are still under way. -/
theorem borrow_exclusive (encoding : String) (ms : List Move) :
    let p := (Pool.start encoding).after ms
    let lent (s : Nat) := ∃ n, Lending (Pool.start encoding) ms n ms.length s
    -- at most one borrow of a session is running
    (∀ s n n', Lending (Pool.start encoding) ms n ms.length s →
      Lending (Pool.start encoding) ms n' ms.length s → n = n') ∧
    ∀ handle s, p.handles.lookup handle = some s → ∃ x, p.session? s = some x ∧
      ∀ plans body,
        let st : State := ⟨p, plans⟩
        let result := take st (.borrow handle body)
        -- the body is run just if the session is open and not lent
        ((∃ replies, result.2 = .borrowed replies) ↔ x.closed = false ∧ ¬lent s) ∧
        -- otherwise nothing is done, and a closed session is refused as closed
        (x.closed = true → result = (st, .refused (.closed x.path))) ∧
        (x.closed = false → lent s → result = (st, .refused (.busy x.path))) ∧
        (x.closed = false → ¬lent s →
          -- the body is run from inside, and whatever it does its replies are those of the borrow
          Lending (Pool.start encoding) (ms ++ [.beginBorrow handle]) ms.length (ms.length + 1) s ∧
          result.2 = .borrowed (takeAll ⟨p.step (.beginBorrow handle), plans⟩ body).2 ∧
          -- afterwards the session can be borrowed again just if it is open
          ∀ handle', result.1.pool.handles.lookup handle' = some s →
            ∃ y, result.1.pool.session? s = some y ∧ ∀ body',
              (∃ replies, (take result.1 (.borrow handle' body')).2 = .borrowed replies) ↔
                y.closed = false) := by
  intro p lent
  have h : Sound p.calls [] [] ((Pool.start encoding).ledger ms) p := sound_after encoding ms
  refine ⟨fun s n n' hn hn' => hn.eq hn', fun handle s hs => ?_⟩
  obtain ⟨x, hx⟩ := h.exists_of_handle hs
  have hlent : lent s ↔ .borrowing s ∈ p.calls := exists_lending_after_iff
  refine ⟨x, hx, fun plans body => ?_⟩
  intro st result
  have hresult := take_borrow st h hs hx body
  refine ⟨?_, ?_, ?_, ?_⟩
  · rw [hlent]
    exact borrowed_iff st h hs hx body
  · intro hclosed
    exact hresult.trans (if_pos hclosed)
  · intro hopen hin
    rw [hopen, if_neg Bool.false_ne_true, if_pos (hlent.mp hin)] at hresult
    exact hresult
  · intro hopen hout
    have hfree : .borrowing s ∉ p.calls := fun hmem => hout (hlent.mpr hmem)
    have hbegin : p.beginBorrow handle = some (.ok (p.lend s)) := by
      rw [h.beginBorrow_eq hs hx, hopen, if_neg Bool.false_ne_true, if_neg hfree]
    rw [hopen, if_neg Bool.false_ne_true, if_neg hfree] at hresult
    refine ⟨lending_snoc hs hbegin, ?_, fun handle' hs' => ?_⟩
    · rw [step_beginBorrow hbegin]
      exact congrArg Prod.snd hresult
    · obtain ⟨ns, hns⟩ := reaches_take st (.borrow handle body)
      have hafter := sound_after encoding (ms ++ ns)
      rw [after_append, hns] at hafter
      obtain ⟨y, hy⟩ := hafter.exists_of_handle hs'
      refine ⟨y, hy, fun body' => ?_⟩
      rw [borrowed_iff result.1 hafter hs' hy, calls_take]
      exact and_iff_left hfree

/-- A run that is in the middle of a borrow. -/
def borrowingRun : List Move :=
  [.lookup ⟨1, 1⟩ "server" (some "session"), .answerServer (.ok { database := some "employee" }),
    .answerUser (.ok {}), .answerConnect (.ok ⟨true, ""⟩), .settle (some "session"),
    .beginBorrow "session"]

theorem borrow_exclusive_borrowingRun :
    (take ⟨(Pool.start "UTF8").after borrowingRun, []⟩ (.borrow "session" [])).2 =
        .refused (.busy "employee") ∧
      (take ⟨(Pool.start "UTF8").after (borrowingRun ++ [.closeAll]), []⟩
        (.borrow "session" [])).2 = .refused (.closed "employee") := by
  have lent : ∃ n, Lending (Pool.start "UTF8") borrowingRun n borrowingRun.length 0 :=
    exists_lending_after_iff.mpr (by decide)
  obtain ⟨x, hx, hborrow⟩ := (borrow_exclusive "UTF8" borrowingRun).2 "session" 0 (by decide)
  obtain ⟨y, hy, hclosed⟩ :=
    (borrow_exclusive "UTF8" (borrowingRun ++ [.closeAll])).2 "session" 0 (by decide)
  obtain rfl := Option.some.inj hx
  obtain rfl := Option.some.inj hy
  exact ⟨congrArg Prod.snd ((hborrow [] []).2.2.1 rfl lent),
    congrArg Prod.snd ((hclosed [] []).2.1 rfl)⟩

end Rehearsal

end RemoteFirebird
