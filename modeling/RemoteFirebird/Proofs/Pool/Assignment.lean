import Mathlib.Data.List.Nodup
import RemoteFirebird.Pool.Basic

/-!
# Assignments

The slots and the handles of a pool are lists of keys with values. This module says what a change
at one key does to look-ups, to the keys, and to the number of times that a value occurs, which is
what the number of holders of a session is counted from.
-/

namespace RemoteFirebird.Pool

variable {κ β : Type} [BEq κ] [LawfulBEq κ]

theorem lookup_assign (k k' : κ) (v : β) (es : List (κ × β)) :
    (assign k v es).lookup k' = if k' == k then some v else es.lookup k' := by
  induction es with
  | nil => cases h : k' == k <;> simp [assign, List.lookup_cons, h]
  | cons e es ih =>
    obtain ⟨k₀, v₀⟩ := e
    by_cases h₀ : k₀ = k
    · subst k₀
      cases h : k' == k <;> simp [assign, List.lookup_cons, h]
    · have hne : (k₀ == k) = false := by simpa using h₀
      simp only [assign, hne, Bool.false_eq_true, ↓reduceIte, List.lookup_cons, ih]
      by_cases h : k' = k
      · subst k'
        have : (k == k₀) = false := by simpa using fun he => h₀ he.symm
        simp [this]
      · have : (k' == k) = false := by simpa using h
        simp [this]

theorem mem_of_lookup {k : κ} {v : β} {es : List (κ × β)} (h : es.lookup k = some v) :
    (k, v) ∈ es := by
  obtain ⟨before, after, rfl, -⟩ := List.lookup_eq_some_iff.mp h
  simp

theorem lookup_of_mem {k : κ} {v : β} {es : List (κ × β)} (hn : (es.map Prod.fst).Nodup)
    (h : (k, v) ∈ es) : es.lookup k = some v := by
  obtain ⟨before, after, rfl⟩ := List.append_of_mem h
  rw [List.map_append, List.map_cons] at hn
  refine List.lookup_eq_some_iff.mpr ⟨before, after, rfl, fun e he => ?_⟩
  have hne : k ≠ e.1 := fun hk =>
    (List.nodup_append.mp hn).2.2 e.1 (List.mem_map_of_mem he) k (by simp) hk.symm
  simpa using hne

private theorem mem_keys_assign {k k' : κ} {v : β} {es : List (κ × β)}
    (h : k' ∈ (assign k v es).map Prod.fst) : k' = k ∨ k' ∈ es.map Prod.fst := by
  induction es with
  | nil => simpa [assign] using h
  | cons e es ih =>
    obtain ⟨k₀, v₀⟩ := e
    by_cases h₀ : k₀ = k
    · subst k₀
      simp only [assign, beq_self_eq_true, ↓reduceIte] at h
      exact .inr h
    · have hne : (k₀ == k) = false := by simpa using h₀
      simp only [assign, hne, Bool.false_eq_true, ↓reduceIte, List.map_cons, List.mem_cons] at h ⊢
      rcases h with h | h
      · exact .inr (.inl h)
      · exact (ih h).imp_right .inr

theorem nodup_assign (k : κ) (v : β) {es : List (κ × β)} (hn : (es.map Prod.fst).Nodup) :
    ((assign k v es).map Prod.fst).Nodup := by
  induction es with
  | nil => simp [assign]
  | cons e es ih =>
    obtain ⟨k₀, v₀⟩ := e
    have ⟨hk, hn'⟩ := List.nodup_cons.mp hn
    by_cases h₀ : k₀ = k
    · subst k₀
      simpa [assign] using ⟨by simpa using hk, hn'⟩
    · have hne : (k₀ == k) = false := by simpa using h₀
      simp only [assign, hne, Bool.false_eq_true, ↓reduceIte, List.map_cons]
      refine List.nodup_cons.mpr ⟨fun hm => ?_, ih hn'⟩
      exact (mem_keys_assign hm).elim h₀ hk

theorem mem_keys_assign_self (k : κ) (v : β) (es : List (κ × β)) :
    k ∈ (assign k v es).map Prod.fst := by
  have hlook : (assign k v es).lookup k = some v := by simp [lookup_assign]
  exact List.mem_map_of_mem (f := Prod.fst) (mem_of_lookup hlook)

theorem assign_assign (k : κ) (v v' : β) (es : List (κ × β)) :
    assign k v' (assign k v es) = assign k v' es := by
  induction es with
  | nil => simp [assign]
  | cons e es ih =>
    obtain ⟨k₀, v₀⟩ := e
    by_cases h₀ : k₀ = k <;> simp [assign, h₀, ih]

theorem assign_of_lookup {k : κ} {v : β} {es : List (κ × β)} (h : es.lookup k = some v) :
    assign k v es = es := by
  induction es with
  | nil => simp at h
  | cons e es ih =>
    obtain ⟨k₀, v₀⟩ := e
    by_cases h₀ : k₀ = k
    · subst k₀
      obtain rfl : v₀ = v := by simpa using h
      simp [assign]
    · have hne : (k == k₀) = false := by simpa using Ne.symm h₀
      rw [List.lookup_cons, hne] at h
      simp [assign, h₀, ih h]

variable [DecidableEq β]

/-- A change at one key takes away the value that was there and adds the new one. -/
theorem count_assign (k : κ) (v x : β) (es : List (κ × β)) :
    ((assign k v es).map Prod.snd).count x + (if es.lookup k = some x then 1 else 0) =
      (es.map Prod.snd).count x + if v = x then 1 else 0 := by
  induction es with
  | nil => simp [assign, List.count_cons]
  | cons e es ih =>
    obtain ⟨k₀, v₀⟩ := e
    by_cases h₀ : k₀ = k
    · subst k₀
      simp only [assign, beq_self_eq_true, ↓reduceIte, List.map_cons, List.count_cons,
        List.lookup_cons, Option.some.injEq, beq_iff_eq]
      omega
    · have hne : (k₀ == k) = false := by simpa using h₀
      have hne' : (k == k₀) = false := by simpa using fun he => h₀ he.symm
      simp only [assign, hne, hne', Bool.false_eq_true, ↓reduceIte, List.map_cons, List.count_cons,
        List.lookup_cons]
      omega

theorem count_filter_ne {k : κ} (x : β) {es : List (κ × β)} (hn : (es.map Prod.fst).Nodup) :
    ((es.filter (·.1 != k)).map Prod.snd).count x + (if es.lookup k = some x then 1 else 0) =
      (es.map Prod.snd).count x := by
  induction es with
  | nil => simp
  | cons e es ih =>
    obtain ⟨k₀, v₀⟩ := e
    have ⟨hk, hn'⟩ := List.nodup_cons.mp hn
    by_cases h₀ : k₀ = k
    · subst k₀
      have hall : es.filter (·.1 != k) = es := by
        apply List.filter_eq_self.mpr
        intro e he
        have hne : e.1 ≠ k := fun h => hk (List.mem_map.mpr ⟨e, he, h⟩)
        simpa using hne
      simp [hall, List.count_cons]
    · have hne : (k == k₀) = false := by simpa using fun he => h₀ he.symm
      have hkeep : (k₀ != k) = true := by simpa using h₀
      simp only [List.filter_cons, hkeep, ↓reduceIte, List.map_cons, List.count_cons,
        List.lookup_cons, hne]
      have := ih hn'
      omega

end RemoteFirebird.Pool
