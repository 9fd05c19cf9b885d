import Mathlib.Data.List.Forall2

/-!
# Outcomes of steps

A step either has a result or fails with a fault. Several steps in a row have a result just if each
of them has one, and otherwise fail with the first fault.
-/

namespace RemoteFirebird

variable {α β ε : Type}

theorem bind_eq_ok {x : Except ε α} {f : α → Except ε β} {b : β} :
    (x >>= f) = .ok b ↔ ∃ a, x = .ok a ∧ f a = .ok b := by
  cases x <;> simp [bind, Except.bind]

theorem bind_eq_error {x : Except ε α} {f : α → Except ε β} {e : ε} :
    (x >>= f) = .error e ↔ x = .error e ∨ ∃ a, x = .ok a ∧ f a = .error e := by
  cases x <;> simp [bind, Except.bind]

theorem mapM_some_eq_ok {f : α → Except ε β} {a : α} {b : Option β} :
    (some a).mapM f = .ok b ↔ ∃ c, f a = .ok c ∧ some c = b := by
  cases h : f a <;> simp [h, Functor.map, Except.map]

theorem mapM_some_eq_error {f : α → Except ε β} {a : α} {e : ε} :
    (some a).mapM f = .error e ↔ f a = .error e := by
  cases h : f a <;> simp [h, Functor.map, Except.map]

theorem mapM_eq_ok {f : α → Except ε β} {xs : List α} {ys : List β} :
    xs.mapM f = .ok ys ↔ List.Forall₂ (fun x y => f x = .ok y) xs ys := by
  induction xs generalizing ys with
  | nil =>
    have hnil : ([] : List α).mapM f = .ok [] := rfl
    rw [hnil, List.forall₂_nil_left_iff, Except.ok.injEq, eq_comm]
  | cons x xs ih =>
    rw [List.mapM_cons, List.forall₂_cons_left_iff]
    simp only [← ih]
    cases hx : f x with
    | error fault => simp [bind, Except.bind]
    | ok y =>
      cases hxs : xs.mapM f with
      | error fault => simp [bind, Except.bind]
      | ok rest => simp [bind, Except.bind, pure, Except.pure, eq_comm]

/-- A row of steps fails just with the fault of the first one that fails. -/
theorem mapM_eq_error {f : α → Except ε β} {xs : List α} {e : ε} :
    xs.mapM f = .error e ↔ ∃ before x after, xs = before ++ x :: after ∧
      (∀ y ∈ before, ∃ b, f y = .ok b) ∧ f x = .error e := by
  induction xs with
  | nil => simp [pure, Except.pure]
  | cons x xs ih =>
    rw [List.mapM_cons]
    cases hx : f x with
    | error fault =>
      constructor
      · intro h
        obtain rfl : fault = e := by simpa [bind, Except.bind] using h
        exact ⟨[], x, xs, rfl, by simp, hx⟩
      · intro h
        obtain ⟨before, y, after, heq, hbefore, hy⟩ := h
        cases before with
        | nil =>
          obtain ⟨rfl, -⟩ := List.cons.inj heq
          rw [← hx, hy]
          rfl
        | cons z before =>
          obtain ⟨rfl, -⟩ := List.cons.inj heq
          obtain ⟨b, hb⟩ := hbefore x List.mem_cons_self
          simp [hx] at hb
    | ok b =>
      have hrest : (do let ys ← xs.mapM f; return b :: ys : Except ε (List β)) = .error e ↔
          xs.mapM f = .error e := by
        cases xs.mapM f <;> simp [bind, Except.bind, pure, Except.pure]
      refine hrest.trans (ih.trans ?_)
      constructor
      · intro h
        obtain ⟨before, y, after, rfl, hbefore, hy⟩ := h
        refine ⟨x :: before, y, after, rfl, fun z hz => ?_, hy⟩
        rcases List.mem_cons.mp hz with rfl | hz
        · exact ⟨b, hx⟩
        · exact hbefore z hz
      · intro h
        obtain ⟨before, y, after, heq, hbefore, hy⟩ := h
        cases before with
        | nil =>
          obtain ⟨rfl, -⟩ := List.cons.inj heq
          simp [hx] at hy
        | cons z before =>
          obtain ⟨-, rfl⟩ := List.cons.inj heq
          exact ⟨before, y, after, rfl, fun w hw => hbefore w (List.mem_cons_of_mem z hw), hy⟩

/-- If a row of steps fails, it fails with the fault of one of them. -/
theorem exists_of_mapM_eq_error {f : α → Except ε β} {xs : List α} {e : ε}
    (h : xs.mapM f = .error e) : ∃ x ∈ xs, f x = .error e := by
  obtain ⟨before, x, after, rfl, -, hx⟩ := mapM_eq_error.mp h
  exact ⟨x, by simp, hx⟩

end RemoteFirebird
