import Mathlib.Tactic.IntervalCases
import RemoteFirebird.Proofs.Pool.LookUps

/-!
# Identity of sessions

A look-up that returns a session leaves it in the slot of its key: either it was there, or the call
that had marked the slot has filled it. From then on only a closing of all sessions takes it out
again. So look-ups of one key give one session until all sessions are closed, and a new one
afterwards, and look-ups of different keys never give the same session.
-/

namespace RemoteFirebird.Pool

open Session

variable {p : Pool} {l : Ledger} {key : Key} {s : Nat}

private theorem slot_before_of_undisturbed {encoding : String} {ms : List Move} {i j : Nat}
    (hs : ((start encoding).before ms i).slot key = .live s) (hle : i ≤ j)
    (hnone : ∀ n, i ≤ n → n < j → ms[n]? ≠ some .closeAll) :
    ((start encoding).before ms j).slot key = .live s := by
  induction hle with
  | refl => exact hs
  | @step j hle ih =>
    have hj := ih fun n hi hn => hnone n hi (Nat.lt_succ_of_lt hn)
    cases hm : ms[j]? with
    | none =>
      rw [before_succ_of_none hm]
      exact hj
    | some m =>
      rw [before_succ hm]
      apply (sound_before encoding ms j).slot_step hj
      intro heq
      subst heq
      exact hnone j hle (Nat.lt_succ_self j) hm

section

variable {encoding : String} {ms : List Move} {i j i' j' : Nat} {key' : Key} {s' : Nat}

/-- A look-up that returns a session leaves it in the slot of its key. -/
theorem Returned.slot (h : Returned (start encoding) ms i j key s) :
    ((start encoding).before ms (j + 1)).slot key = .live s := by
  rcases Nat.eq_or_lt_of_le h.le with heq | hlt
  · -- The session was found.
    subst heq
    obtain ⟨server, keep, hbegin⟩ := h.begins
    obtain ⟨m, hend, hs⟩ := h.returns
    obtain rfl : m = .lookup key server keep := by simpa [hbegin] using hend.symm
    rw [before_succ hend]
    rcases result_eq_some hs with ⟨k, _, _, hk, hlive⟩ | ⟨⟨_, hk⟩, -⟩
    · obtain ⟨rfl, -, -⟩ := Move.lookup.inj hk
      exact (sound_before encoding ms i).slot_step hlive (by simp)
    · simp at hk
  · -- The session has been established by the call.
    exact h.ended.slot hlt

/-! ### Closing all sessions -/

private theorem taken_take_subset (p : Pool) (ms : List Move) (h : i ≤ j) :
    (p.ledger (ms.take i)).taken ⊆ (p.ledger (ms.take j)).taken := by
  have htake : (ms.take j).take i = ms.take i := by rw [List.take_take, Nat.min_eq_left h]
  rw [← htake]
  exact gather_take_subset takes p (ms.take j) i

private theorem ledger_take_succ {p : Pool} {m : Move} (h : ms[i]? = some m) :
    p.ledger (ms.take (i + 1)) = (p.ledger (ms.take i)).enter (p.before ms i) m := by
  rw [List.take_add_one, h, Option.toList_some, ledger_snoc, before]

private theorem live_or_taken (hs : ((start encoding).before ms i).slot key = .live s)
    (hle : i ≤ j) :
    ((start encoding).before ms j).slot key = .live s ∨
      s ∈ ((start encoding).ledger (ms.take j)).taken := by
  induction hle with
  | refl => exact .inl hs
  | @step j hle ih =>
    rcases ih with hlive | htaken
    · cases hm : ms[j]? with
      | none =>
        rw [before_succ_of_none hm]
        exact .inl hlive
      | some m =>
        by_cases hclose : m = .closeAll
        · right
          rw [ledger_take_succ hm, hclose]
          exact List.mem_append_right _
            ((sound_before encoding ms j).mem_takes_closeAll.mpr ⟨key, hlive⟩)
        · left
          rw [before_succ hm]
          exact (sound_before encoding ms j).slot_step hlive hclose
    · exact .inr (taken_take_subset _ _ (Nat.le_succ j) htaken)

private theorem taken_of_closeAll (hs : ((start encoding).before ms i).slot key = .live s)
    (hle : i ≤ j) (hclose : ms[j]? = some .closeAll) :
    s ∈ ((start encoding).ledger (ms.take (j + 1))).taken := by
  rcases live_or_taken hs hle with hlive | htaken
  · rw [ledger_take_succ hclose]
    exact List.mem_append_right _ ((sound_before encoding ms j).mem_takes_closeAll.mpr ⟨key, hlive⟩)
  · exact taken_take_subset _ _ (Nat.le_succ j) htaken

/-! ### Repeated look-ups -/

@[simp] theorem asked_letGo (p : Pool) (s : Nat) : (p.letGo s).asked = p.asked := by
  simp only [letGo]
  split
  · simp only [dropConnection]
    split <;> rfl
  · rfl

@[simp] theorem asked_stow (p : Pool) (s : Nat) (keep : Option String) :
    (p.stow s keep).asked = p.asked := by
  cases keep with
  | none => exact asked_letGo p s
  | some handle =>
    cases h : p.handles.lookup handle with
    | none => simp only [stow, h, Option.elim_none]; rfl
    | some t => simp only [stow, h, Option.elim_some, asked_letGo]; rfl

@[simp] theorem asked_prepare (p : Pool) : p.prepare.asked = p.asked := by
  simp only [prepare]
  split <;> rfl

private theorem Returned.of_live {p : Pool} {t : Nat} (h : Returned p ms i j key s)
    (ht : (p.before ms i).slot key = .live t) :
    s = t ∧ j = i ∧ (p.before ms (j + 1)).asked = (p.before ms i).asked := by
  obtain ⟨server, keep, hbegin⟩ := h.begins
  obtain ⟨m, hend, hs⟩ := h.returns
  have hact := act_lookup_of_live server keep ht
  have hji : j = i := h.ended.eq_of_slot_ne (by simp [ht])
  subst j
  obtain rfl : m = .lookup key server keep := by simpa [hbegin] using hend.symm
  rw [result, hact] at hs
  refine ⟨by simpa [Progress.session?] using hs.symm, rfl, ?_⟩
  rw [before_succ hbegin, step, result, hact]
  simp only [Progress.session?, asked_stow]
  exact asked_prepare _

/-- Two look-ups of one key, the second after the first, return the same session just if all
sessions have not been closed in between. If they have not, then the second returns at once and
asks the outside for nothing. Look-ups of different keys never return the same session. -/
theorem session_identity (first : Returned (start encoding) ms i j key s)
    (second : Returned (start encoding) ms i' j' key' s') :
    (key = key' → j < i' →
      (s = s' ↔ ¬ClosedBetween ms j i') ∧
      (¬ClosedBetween ms j i' → j' = i' ∧
        ((start encoding).before ms (j' + 1)).asked = ((start encoding).before ms i').asked)) ∧
      (key ≠ key' → s ≠ s') := by
  refine ⟨?_, ?_⟩
  · intro hkey hlt
    subst hkey
    have hhit : ¬ClosedBetween ms j i' → s' = s ∧ j' = i' ∧
        ((start encoding).before ms (j' + 1)).asked = ((start encoding).before ms i').asked := by
      intro hnone
      refine second.of_live (slot_before_of_undisturbed first.slot hlt fun n hj hi hn => ?_)
      exact hnone ⟨n, hj, hi, hn⟩
    refine ⟨⟨?_, fun hnone => (hhit hnone).1.symm⟩, fun hnone => (hhit hnone).2⟩
    intro hsame hclosed
    subst hsame
    obtain ⟨n, hj, hi, hn⟩ := hclosed
    have htaken := taken_of_closeAll first.slot hj hn
    have hle : n + 1 ≤ j' + 1 := by
      have := second.le
      omega
    exact ((sound_before encoding ms (j' + 1)).live key s second.slot).1
      (taken_take_subset _ _ hle htaken)
  · intro hne hsame
    subst hsame
    obtain ⟨id, hmade⟩ := ((sound_before encoding ms (j + 1)).live key s first.slot).2
    obtain ⟨id', hmade'⟩ := ((sound_before encoding ms (j' + 1)).live key' s second.slot).2
    have howner := (sound_after encoding ms).made_unique (gather_take_subset makes _ _ _ hmade)
      (gather_take_subset makes _ _ _ hmade')
    exact hne (by simpa using howner.2)

end

/-- A run in which the look-up of one key is made while that of another waits, and in which all
sessions are closed once. -/
def nestedRun : List Move :=
  let ready : Except String Condition := .ok ⟨true, ""⟩
  let server : Except Fault Options.Server := .ok { database := some "employee" }
  [.lookup ⟨1, 1⟩ "remote" (some "outer"), .answerServer server,
    .lookup ⟨1, 2⟩ "remote" (some "inner"), .answerServer server, .answerUser (.ok {}),
    .answerConnect ready, .settle (some "inner"),
    .answerUser (.ok {}), .answerConnect ready, .settle (some "outer"),
    .lookup ⟨1, 1⟩ "remote" none, .closeAll,
    .lookup ⟨1, 1⟩ "remote" none, .answerServer server, .answerUser (.ok {}),
    .answerConnect ready, .settle none]

theorem session_identity_nestedRun :
    Returned (start "UTF8") nestedRun 0 9 ⟨1, 1⟩ 1 ∧
      Returned (start "UTF8") nestedRun 2 6 ⟨1, 2⟩ 0 ∧
      Returned (start "UTF8") nestedRun 10 10 ⟨1, 1⟩ 1 ∧
      Returned (start "UTF8") nestedRun 12 16 ⟨1, 1⟩ 2 ∧
      1 ≠ 0 ∧ ¬ClosedBetween nestedRun 9 10 ∧ ClosedBetween nestedRun 10 12 := by
  have outer : Returned (start "UTF8") nestedRun 0 9 ⟨1, 1⟩ 1 :=
    ⟨⟨_, _, rfl⟩, by decide, fun n hi hj => by interval_cases n <;> decide, ⟨_, rfl, rfl⟩,
      by decide⟩
  have inner : Returned (start "UTF8") nestedRun 2 6 ⟨1, 2⟩ 0 :=
    ⟨⟨_, _, rfl⟩, by decide, fun n hi hj => by interval_cases n <;> decide, ⟨_, rfl, rfl⟩,
      by decide⟩
  have again : Returned (start "UTF8") nestedRun 10 10 ⟨1, 1⟩ 1 :=
    ⟨⟨_, _, rfl⟩, by decide, fun n hi hj => by omega, ⟨_, rfl, rfl⟩, by decide⟩
  have anew : Returned (start "UTF8") nestedRun 12 16 ⟨1, 1⟩ 2 :=
    ⟨⟨_, _, rfl⟩, by decide, fun n hi hj => by interval_cases n <;> decide, ⟨_, rfl, rfl⟩,
      by decide⟩
  refine ⟨outer, inner, again, anew, ?_, ?_, ?_⟩
  · exact (session_identity outer inner).2 (by decide)
  · exact ((session_identity outer again).1 rfl (by decide)).1.mp rfl
  · by_contra hnone
    exact absurd (((session_identity again anew).1 rfl (by decide)).1.mpr hnone) (by decide)

end RemoteFirebird.Pool
