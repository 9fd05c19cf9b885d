import RemoteFirebird.Sorted

/-!
# Arranging and searching sorted sequences

Putting elements into order keeps those with the same key in the order they came in. The search by
halving finds what is there and nothing else: it keeps the position of the element that is looked
for inside the range of positions that are left.
-/

namespace RemoteFirebird.Sorted

variable {α κ : Type} [LT κ] [Std.Asymm (α := κ) (· < ·)]

/-! ### Arranging -/

section Arranging

variable [DecidableLT κ] [DecidableEq κ]

private theorem filter_place (key : α → κ) (k : κ) (a : α) (as : List α) :
    (place key a as).filter (fun x => key x = k) = (a :: as).filter fun x => key x = k := by
  induction as with
  | nil => rfl
  | cons b rest ih =>
    rw [place]
    split
    next hless =>
      -- The two change places, and at most one of them has the key.
      rw [List.filter_cons, ih]
      by_cases hb : key b = k
      · have ha : key a ≠ k := by
          intro ha
          rw [ha, hb] at hless
          exact Std.Asymm.asymm _ _ hless hless
        simp [hb, ha]
      · simp [List.filter_cons, hb]
    next => rfl

private theorem filter_arrange (key : α → κ) (k : κ) (as : List α) :
    (arrange key as).filter (fun x => key x = k) = as.filter fun x => key x = k := by
  induction as with
  | nil => rfl
  | cons a rest ih =>
    have hstep : arrange key (a :: rest) = place key a (arrange key rest) := rfl
    rw [hstep, filter_place, List.filter_cons, List.filter_cons, ih]

theorem find?_arrange (key : α → κ) (k : κ) (as : List α) :
    (arrange key as).find? (fun x => key x = k) = as.find? fun x => key x = k := by
  rw [← List.head?_filter, filter_arrange, List.head?_filter]

end Arranging

/-! ### Searching -/

private theorem key_lt_iff {key : α → κ} {xs : Array α}
    (hsorted : xs.toList.Pairwise fun x y => key x < key y) {a b : Nat} (ha : a < xs.size)
    (hb : b < xs.size) : key xs[a] < key xs[b] ↔ a < b := by
  have hmono : ∀ {a b : Nat} (ha : a < xs.size) (hb : b < xs.size), a < b →
      key xs[a] < key xs[b] := by
    intro a b ha hb hab
    exact List.pairwise_iff_getElem.mp hsorted a b ha hb hab
  refine ⟨fun hless => ?_, hmono ha hb⟩
  rcases Nat.lt_trichotomy a b with hab | rfl | hba
  · exact hab
  · exact (Std.Asymm.asymm _ _ hless hless).elim
  · exact (Std.Asymm.asymm _ _ hless (hmono hb ha hba)).elim

variable [DecidableLT κ]

private theorem searchBetween_eq_some {key : α → κ} {xs : Array α} {i lo hi : Nat}
    (hsorted : xs.toList.Pairwise fun x y => key x < key y) (hin : i < xs.size)
    (h : hi ≤ xs.size) (hlo : lo ≤ i) (hlt : i < hi) :
    searchBetween key xs (key xs[i]) lo hi h = some xs[i] := by
  have hiff := fun {a b : Nat} => key_lt_iff (a := a) (b := b) hsorted
  fun_induction searchBetween key xs (key xs[i]) lo hi h with
  | case1 lo hi h hne mid hmid y hless ih =>
    have hmid' : mid < i := (hiff (by omega) hin).mp hless
    exact ih hmid' hlt
  | case2 lo hi h hne mid hmid y hless hgreater ih =>
    have hmid' : i < mid := (hiff hin (by omega)).mp hgreater
    exact ih hlo hmid'
  | case3 lo hi h hne mid hmid y hless hgreater =>
    have heq : mid = i := by
      rw [hiff (by omega) hin] at hless
      rw [hiff hin (by omega)] at hgreater
      omega
    subst heq
    rfl
  | case4 lo hi h hne => omega

theorem search_eq_some {key : α → κ} {xs : Array α} {x : α}
    (hsorted : xs.toList.Pairwise fun x y => key x < key y) (hx : x ∈ xs.toList) :
    search key xs (key x) = some x := by
  obtain ⟨i, hin, rfl⟩ := List.getElem_of_mem hx
  have hin' : i < xs.size := by simpa using hin
  have hfound := searchBetween_eq_some hsorted hin' (Nat.le_refl _) (Nat.zero_le i) hin'
  simpa [search] using hfound

omit [Std.Asymm (α := κ) (· < ·)] in
private theorem mem_of_searchBetween {key : α → κ} {xs : Array α} {k : κ} {x : α} {lo hi : Nat}
    {h : hi ≤ xs.size} (hfound : searchBetween key xs k lo hi h = some x) :
    x ∈ xs.toList ∧ ¬key x < k ∧ ¬k < key x := by
  fun_induction searchBetween key xs k lo hi h with
  | case1 lo hi h hne mid hmid y hless ih => exact ih hfound
  | case2 lo hi h hne mid hmid y hless hgreater ih => exact ih hfound
  | case3 lo hi h hne mid hmid y hless hgreater =>
    obtain rfl := Option.some.inj hfound
    exact ⟨by simp [y], hless, hgreater⟩
  | case4 lo hi h hne => simp at hfound

omit [Std.Asymm (α := κ) (· < ·)] in
private theorem mem_of_search {key : α → κ} {xs : Array α} {k : κ} {x : α}
    (h : search key xs k = some x) : x ∈ xs.toList ∧ ¬key x < k ∧ ¬k < key x :=
  mem_of_searchBetween h

/-- The search finds just the element that has the key. -/
theorem search_eq_some_iff [Std.Trichotomous (α := κ) (· < ·)] {key : α → κ} {xs : Array α} {k : κ}
    {x : α} (hsorted : xs.toList.Pairwise fun x y => key x < key y) :
    search key xs k = some x ↔ x ∈ xs.toList ∧ key x = k := by
  constructor
  · intro h
    obtain ⟨hmem, hless, hgreater⟩ := mem_of_search h
    exact ⟨hmem, Std.Trichotomous.trichotomous _ _ hless hgreater⟩
  · intro h
    obtain ⟨hmem, rfl⟩ := h
    exact search_eq_some hsorted hmem

end RemoteFirebird.Sorted
