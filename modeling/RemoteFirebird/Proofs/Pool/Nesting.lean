import RemoteFirebird.Proofs.Pool.Step

/-!
# Calls under way

A call is under way from the move that begins it until the stack is as low again as the call has
found it. That says when a move is made from inside a call, at whatever depth, by the positions of
moves in a run. The calls on the stack are just those that are under way: each one stems from a
move that has begun it and stays above what that move has found.
-/

namespace RemoteFirebird.Pool

open Session

variable {encoding : String} {ms : List Move} {i n : Nat} {key : Key} {s : Nat}

/-- The call that begins with move `i` has not ended when the run comes to move `n`. -/
structure UnderWay (p : Pool) (ms : List Move) (i n : Nat) : Prop where
  lt : i < n
  above : ∀ k, i < k → k ≤ n → (p.before ms i).calls.length < (p.before ms k).calls.length

/-- A session for the key is being established by the look-up that begins with move `i`. -/
def Establishing (p : Pool) (ms : List Move) (i n : Nat) (key : Key) : Prop :=
  (∃ server keep, ms[i]? = some (.lookup key server keep)) ∧ UnderWay p ms i n

/-- The session is lent to the borrow that begins with move `i`. -/
def Lending (p : Pool) (ms : List Move) (i n s : Nat) : Prop :=
  (∃ handle, ms[i]? = some (.beginBorrow handle) ∧
    (p.before ms i).handles.lookup handle = some s) ∧ UnderWay p ms i n

theorem UnderWay.pred {p : Pool} (h : UnderWay p ms i (n + 1)) (hlt : i < n) : UnderWay p ms i n :=
  ⟨hlt, fun k hi hk => h.above k hi (Nat.le_succ_of_le hk)⟩

theorem UnderWay.succ {p : Pool} (h : UnderWay p ms i n)
    (hlen : (p.before ms i).calls.length < (p.before ms (n + 1)).calls.length) :
    UnderWay p ms i (n + 1) := by
  refine ⟨Nat.lt_succ_of_lt h.lt, fun k hi hk => ?_⟩
  rcases Nat.lt_or_eq_of_le hk with hk | rfl
  · exact h.above k hi (Nat.le_of_lt_succ hk)
  · exact hlen

theorem UnderWay.of_begins {p : Pool}
    (hlen : (p.before ms i).calls.length < (p.before ms (i + 1)).calls.length) :
    UnderWay p ms i (i + 1) := by
  refine ⟨Nat.lt_succ_self i, fun k hi hk => ?_⟩
  obtain rfl : k = i + 1 := by omega
  exact hlen

/-- A call that is under way is on the stack, on top of what it has found there. -/
theorem UnderWay.frame {p : Pool} (h : UnderWay p ms i n) :
    ∃ m fs c, ms[i]? = some m ∧ (p.before ms n).calls = fs ++ c :: (p.before ms i).calls ∧
      (p.before ms i).Starts m c.aim := by
  have hlt := h.lt
  induction hlt with
  | refl =>
    have hlen := h.above (i + 1) (Nat.lt_succ_self i) (Nat.le_refl _)
    cases hm : ms[i]? with
    | none =>
      rw [before_succ_of_none hm] at hlen
      exact (Nat.lt_irrefl _ hlen).elim
    | some m =>
      rw [before_succ hm] at hlen ⊢
      obtain ⟨c, hcalls, hstarts⟩ := (turn_step _ m).begins hlen
      exact ⟨m, [], c, rfl, hcalls, hstarts⟩
  | @step n hlt ih =>
    obtain ⟨m, fs, c, hm, hcalls, hstarts⟩ := ih (h.pred hlt)
    have hlen := h.above (n + 1) h.lt (Nat.le_refl _)
    cases hn : ms[n]? with
    | none =>
      rw [before_succ_of_none hn]
      exact ⟨m, fs, c, hm, hcalls, hstarts⟩
    | some m' =>
      rw [before_succ hn] at hlen ⊢
      obtain ⟨fs', c', hcalls', haim⟩ := (turn_step _ m').above hcalls hlen
      exact ⟨m, fs', c', hm, hcalls', haim ▸ hstarts⟩

private theorem exists_underWay {fs base : List Call} {c : Call}
    (hcalls : ((start encoding).before ms n).calls = fs ++ c :: base) :
    ∃ i m, UnderWay (start encoding) ms i n ∧ ms[i]? = some m ∧
      ((start encoding).before ms i).calls = base ∧
      ((start encoding).before ms i).Starts m c.aim := by
  induction n generalizing fs c with
  | zero => simp [before, after, start] at hcalls
  | succ n ih =>
    have hlen : base.length < ((start encoding).before ms (n + 1)).calls.length := by
      rw [hcalls, List.length_append, List.length_cons]
      omega
    cases hn : ms[n]? with
    | none =>
      rw [before_succ_of_none hn] at hcalls
      obtain ⟨i, m, hway, hm, hbase, hstarts⟩ := ih hcalls
      exact ⟨i, m, hway.succ (hbase ▸ hlen), hm, hbase, hstarts⟩
    | some m =>
      rw [before_succ hn] at hcalls
      rcases (turn_step _ m).below hcalls with ⟨hbase, hstarts⟩ | ⟨fs', c', hcalls', haim⟩
      · exact ⟨n, m, .of_begins (hbase ▸ hlen), hn, hbase.symm, hstarts⟩
      · obtain ⟨i, m', hway, hm', hbase, hstarts⟩ := ih hcalls'
        exact ⟨i, m', hway.succ (hbase ▸ hlen), hm', hbase, haim ▸ hstarts⟩

private theorem starts_session {p : Pool} {m : Move} :
    p.Starts m (.session (some key)) ↔ ∃ server keep, m = .lookup key server keep := by
  cases m <;> simp [Starts, eq_comm]

private theorem starts_borrow {p : Pool} {m : Move} :
    p.Starts m (.borrow s) ↔ ∃ handle, m = .beginBorrow handle ∧
      p.handles.lookup handle = some s := by
  cases m <;> simp [Starts, eq_comm]

theorem Establishing.frame {p : Pool} (h : Establishing p ms i n key) :
    ∃ fs c, (p.before ms n).calls = fs ++ c :: (p.before ms i).calls ∧ c.key? = some key := by
  obtain ⟨⟨server, keep, hbegin⟩, hway⟩ := h
  obtain ⟨m, fs, c, hm, hcalls, hstarts⟩ := hway.frame
  obtain rfl : m = .lookup key server keep := Option.some.inj (hm.symm.trans hbegin)
  exact ⟨fs, c, hcalls, Call.aim_eq_session.mp hstarts⟩

/-- A session for the key is being established just if a call on the stack is for the key. -/
theorem exists_establishing_iff :
    (∃ i, Establishing (start encoding) ms i n key) ↔
      ∃ c ∈ ((start encoding).before ms n).calls, c.key? = some key := by
  constructor
  · intro hex
    obtain ⟨i, h⟩ := hex
    obtain ⟨fs, c, hcalls, hc⟩ := h.frame
    exact ⟨c, by simp [hcalls], hc⟩
  · intro hex
    obtain ⟨c, hmem, hc⟩ := hex
    obtain ⟨fs, base, hcalls⟩ := List.append_of_mem hmem
    obtain ⟨i, m, hway, hm, -, hstarts⟩ := exists_underWay hcalls
    rw [Call.aim_eq_session.mpr hc] at hstarts
    obtain ⟨server, keep, rfl⟩ := starts_session.mp hstarts
    exact ⟨i, ⟨server, keep, hm⟩, hway⟩

theorem Lending.frame {p : Pool} (h : Lending p ms i n s) :
    ∃ fs, (p.before ms n).calls = fs ++ .borrowing s :: (p.before ms i).calls := by
  obtain ⟨⟨handle, hbegin, hhandle⟩, hway⟩ := h
  obtain ⟨m, fs, c, hm, hcalls, hstarts⟩ := hway.frame
  obtain rfl : m = .beginBorrow handle := Option.some.inj (hm.symm.trans hbegin)
  obtain ⟨t, ht, haim⟩ := hstarts
  obtain rfl : t = s := Option.some.inj (ht.symm.trans hhandle)
  obtain rfl := Call.aim_eq_borrow.mp haim
  exact ⟨fs, hcalls⟩

private theorem exists_lending_iff :
    (∃ i, Lending (start encoding) ms i n s) ↔
      .borrowing s ∈ ((start encoding).before ms n).calls := by
  constructor
  · intro hex
    obtain ⟨i, h⟩ := hex
    obtain ⟨fs, hcalls⟩ := h.frame
    simp [hcalls]
  · intro hmem
    obtain ⟨fs, base, hcalls⟩ := List.append_of_mem hmem
    obtain ⟨i, m, hway, hm, -, hstarts⟩ := exists_underWay hcalls
    obtain ⟨handle, rfl, hhandle⟩ := starts_borrow.mp hstarts
    exact ⟨i, ⟨handle, hm, hhandle⟩, hway⟩

theorem exists_lending_after_iff :
    (∃ n, Lending (start encoding) ms n ms.length s) ↔
      .borrowing s ∈ ((start encoding).after ms).calls := by
  rw [exists_lending_iff, before, List.take_length]

end RemoteFirebird.Pool
