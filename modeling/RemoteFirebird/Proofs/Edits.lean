/-!
# Edits in a row

Something is changed by edits, one after another. What no edit touches stays as it was. If each edit
either sets an aspect of it or leaves that alone, the last one that sets it decides.
-/

namespace RemoteFirebird

variable {σ ε β : Type} {edit : σ → ε → σ}

/-- What the last of some edits gives, among those that give anything. -/
def lastGiven (given? : ε → Option β) (edits : List ε) : Option β :=
  (edits.filterMap given?).getLast?

private theorem lastGiven_cons (given? : ε → Option β) (e : ε) (edits : List ε) :
    lastGiven given? (e :: edits) = (lastGiven given? edits).or (given? e) := by
  rw [lastGiven, lastGiven, List.filterMap_cons]
  cases given? e with
  | none => rw [Option.or_none]
  | some b =>
    rw [List.getLast?_cons]
    cases (edits.filterMap given?).getLast? <;> rfl

theorem aspect_foldl_of_kept (aspect : σ → β) (hkept : ∀ s e, aspect (edit s e) = aspect s)
    (s : σ) (edits : List ε) : aspect (edits.foldl edit s) = aspect s := by
  induction edits generalizing s with
  | nil => rfl
  | cons e rest ih => exact (ih (edit s e)).trans (hkept s e)

/-- The last edit that gives an aspect decides, and the state before all edits if there is none. -/
theorem aspect_foldl (aspect : σ → β) {given? : ε → Option β}
    (hstep : ∀ s e, aspect (edit s e) = (given? e).getD (aspect s)) (s : σ) (edits : List ε) :
    aspect (edits.foldl edit s) = (lastGiven given? edits).getD (aspect s) := by
  induction edits generalizing s with
  | nil => rfl
  | cons e rest ih =>
    rw [List.foldl_cons, ih, hstep, lastGiven_cons]
    cases lastGiven given? rest <;> rfl

end RemoteFirebird
