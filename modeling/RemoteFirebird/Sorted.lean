/-!
# Sorted sequences

Putting elements into ascending order of a key, and looking one up by its key in an array that is in
that order, which halves the range of positions at every step.
-/

namespace RemoteFirebird.Sorted

variable {α κ : Type} [LT κ] [DecidableLT κ]

/-- Puts an element into an ascending list, before those that have the same key. -/
def place (key : α → κ) (a : α) : List α → List α
  | [] => [a]
  | b :: rest => if key b < key a then b :: place key a rest else a :: b :: rest

/-- The elements in ascending order. Those with the same key keep the order they came in. -/
def arrange (key : α → κ) (as : List α) : List α :=
  as.foldr (place key) []

/-- Looks among the positions from `lo` up to `hi`. -/
def searchBetween (key : α → κ) (xs : Array α) (k : κ) (lo hi : Nat) (h : hi ≤ xs.size) :
    Option α :=
  if hlt : lo < hi then
    let mid := lo + (hi - lo) / 2
    have hmid : mid < hi := by omega
    let x := xs[mid]
    if key x < k then searchBetween key xs k (mid + 1) hi h
    else if k < key x then searchBetween key xs k lo mid (Nat.le_trans (Nat.le_of_lt hmid) h)
    else some x
  else none
termination_by hi - lo

/-- The element with the given key. -/
def search (key : α → κ) (xs : Array α) (k : κ) : Option α :=
  searchBetween key xs k 0 xs.size (Nat.le_refl _)

theorem place_perm (key : α → κ) (a : α) (as : List α) : (place key a as).Perm (a :: as) := by
  induction as with
  | nil => exact .refl _
  | cons b rest ih =>
    simp only [place]
    split
    · exact (ih.cons b).trans (.swap a b rest)
    · exact .refl _

theorem arrange_perm (key : α → κ) (as : List α) : (arrange key as).Perm as := by
  induction as with
  | nil => exact .refl _
  | cons a rest ih => exact (place_perm key a _).trans (ih.cons a)

theorem pairwise_place {key : α → Int} {a : α} {as : List α}
    (h : as.Pairwise fun x y => key x ≤ key y) :
    (place key a as).Pairwise fun x y => key x ≤ key y := by
  induction as with
  | nil => exact List.pairwise_singleton _ _
  | cons b rest ih =>
    have ⟨hb, hrest⟩ := List.pairwise_cons.mp h
    simp only [place]
    split
    next hlt =>
      refine List.pairwise_cons.mpr ⟨fun c hc => ?_, ih hrest⟩
      rcases List.mem_cons.mp ((place_perm key a rest).mem_iff.mp hc) with rfl | hc
      · exact Int.le_of_lt hlt
      · exact hb c hc
    next hge =>
      refine List.pairwise_cons.mpr ⟨fun c hc => ?_, h⟩
      rcases List.mem_cons.mp hc with rfl | hc
      · exact Int.not_lt.mp hge
      · exact Int.le_trans (Int.not_lt.mp hge) (hb c hc)

theorem pairwise_arrange (key : α → Int) (as : List α) :
    (arrange key as).Pairwise fun x y => key x ≤ key y := by
  induction as with
  | nil => exact .nil
  | cons a rest ih => exact pairwise_place ih

end RemoteFirebird.Sorted
