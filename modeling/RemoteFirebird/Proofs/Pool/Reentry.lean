import RemoteFirebird.Proofs.Pool.LookUps

/-!
# Look-ups from inside

A key is marked while a session for it is being established, and at no other time: the mark is set
by the first move of a look-up and taken off by its last one, whichever answer that is. So a look-up
is refused just if it is made from inside of one of the same key.
-/

namespace RemoteFirebird.Pool

open Session

variable {p : Pool} {ms : List Move} {i j : Nat} {key : Key} {server name : String}
  {keep : Option String} {outcome : Except Fault Nat}

theorem refused_iff :
    (p.act (.lookup key server keep)).2 = .finished (.error (.inProgress server)) ↔
    p.slot key = .pending := by
  cases hs : p.slot key with
  | vacant =>
    obtain ⟨history, hact⟩ := act_lookup_of_vacant server keep hs
    simp [hact]
  | pending => simp [act, lookup_of_pending server hs]
  | live s => simp [act_lookup_of_live server keep hs]

theorem step_of_pending (server : String) (keep : Option String) (hs : p.slot key = .pending) :
    p.step (.lookup key server keep) = p := by
  simp [step, result, act, lookup_of_pending server hs, Progress.session?]

theorem Ended.outcome_of_pending (h : Ended p ms i j key outcome)
    (hbegin : ms[i]? = some (.lookup key server keep)) (hs : (p.before ms i).slot key = .pending) :
    j = i ∧ outcome = .error (.inProgress server) := by
  obtain rfl := h.eq_of_slot_ne (by simp [hs])
  obtain ⟨m, hm, hend⟩ := h.ends
  obtain rfl : m = .lookup key server keep := Option.some.inj (hm.symm.trans hbegin)
  rw [refused_iff.mpr hs] at hend
  exact ⟨rfl, (Progress.finished.inj hend).symm⟩

theorem Ended.outcome_of_live {s : Nat} (h : Ended p ms i j key outcome)
    (hs : (p.before ms i).slot key = .live s) : j = i ∧ outcome = .ok s := by
  obtain rfl := h.eq_of_slot_ne (by simp [hs])
  obtain ⟨server, keep, hbegin⟩ := h.begins
  obtain ⟨m, hm, hend⟩ := h.ends
  obtain rfl : m = .lookup key server keep := Option.some.inj (hm.symm.trans hbegin)
  rw [act_lookup_of_live server keep hs] at hend
  exact ⟨rfl, (Progress.finished.inj hend).symm⟩

private theorem Ended.inProgress_iff (h : Ended p ms i j key outcome) (hlt : i < j) :
    outcome = .error (.inProgress name) ↔
      ms[j]? = some (.answerServer (.error (.inProgress name))) ∨
        ms[j]? = some (.answerUser (.error (.inProgress name))) := by
  obtain ⟨m, q, hm, -, hway⟩ := h.headway hlt
  rw [hm]
  cases hway with
  | fail _ _ hcause => cases hcause <;> simp
  | done _ _ _ hsettle =>
    obtain ⟨keep, rfl⟩ := hsettle
    simp

/-- A look-up that is made from inside of one of the same key leaves everything as it is. -/
theorem before_succ_of_establishing {encoding : String} {n : Nat}
    (hbegin : ms[i]? = some (.lookup key server keep))
    (hinside : Establishing (start encoding) ms n i key) :
    (start encoding).before ms (i + 1) = (start encoding).before ms i := by
  rw [before_succ hbegin]
  exact step_of_pending server keep (pending_iff_establishing.mpr ⟨n, hinside⟩)

/-- Why a look-up fails with a key being established: it is refused, or its own provider says so. -/
theorem Ended.inProgress_iff_inside {encoding : String}
    (h : Ended (start encoding) ms i j key outcome)
    (hbegin : ms[i]? = some (.lookup key server keep)) :
    outcome = .error (.inProgress name) ↔
      (∃ n, Establishing (start encoding) ms n i key) ∧ name = server ∨
        ms[j]? = some (.answerServer (.error (.inProgress name))) ∨
        ms[j]? = some (.answerUser (.error (.inProgress name))) := by
  rw [← pending_iff_establishing]
  cases hs : ((start encoding).before ms i).slot key with
  | pending =>
    obtain ⟨rfl, rfl⟩ := h.outcome_of_pending hbegin hs
    simp [hbegin, eq_comm]
  | live s =>
    obtain ⟨rfl, rfl⟩ := h.outcome_of_live hs
    simp [hbegin]
  | vacant => simpa using h.inProgress_iff (h.lt_of_vacant hs)

/-- A look-up that has ended leaves its key marked only if it was made from inside of another. -/
theorem Ended.pending_iff {encoding : String} (h : Ended (start encoding) ms i j key outcome) :
    ((start encoding).before ms (j + 1)).slot key = .pending ↔
      ∃ n, Establishing (start encoding) ms n i key := by
  rw [← pending_iff_establishing]
  obtain ⟨server, keep, hbegin⟩ := h.begins
  cases hs : ((start encoding).before ms i).slot key with
  | pending =>
    obtain ⟨rfl, -⟩ := h.outcome_of_pending hbegin hs
    rw [before_succ hbegin, step_of_pending server keep hs, hs]
  | live s =>
    obtain ⟨rfl, -⟩ := h.outcome_of_live hs
    have hstay := (sound_before encoding ms j).slot_step hs (m := .lookup key server keep) (by simp)
    simp [before_succ hbegin, hstay]
  | vacant =>
    rw [h.slot (h.lt_of_vacant hs)]
    cases outcome <;> simp

end RemoteFirebird.Pool
