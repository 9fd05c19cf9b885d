/-!
# Ranges of characters

Sets of characters, given by the ranges of their code points. The ranges of a set ascend and lie
apart, so a look-up ends at the first one that begins behind the character.
-/

namespace RemoteFirebird.Text

/-- Whether the ranges ascend and lie apart, none of them beginning before `least`. -/
def apartFrom (least : Nat) : List (Nat × Nat) → Bool
  | [] => true
  | r :: rest => least ≤ r.1 && r.1 ≤ r.2 && apartFrom (r.2 + 1) rest

/-- Whether one of the ascending ranges covers a code point. -/
def covers (n : Nat) : List (Nat × Nat) → Bool
  | [] => false
  | r :: rest => r.1 ≤ n && (n ≤ r.2 || covers n rest)

/-- A set of characters, by ranges of code points with both ends included. -/
structure Ranges where
  toList : List (Nat × Nat)
  apart : apartFrom 0 toList = true

/-- Whether a character belongs to the set. -/
def Ranges.contains (rs : Ranges) (c : Char) : Bool :=
  covers c.toNat rs.toList

theorem le_of_apartFrom {least : Nat} {rs : List (Nat × Nat)} (h : apartFrom least rs = true) :
    ∀ r ∈ rs, least ≤ r.1 := by
  induction rs generalizing least with
  | nil => simp
  | cons r rest ih =>
    simp only [apartFrom, Bool.and_eq_true, decide_eq_true_eq] at h
    obtain ⟨⟨hleast, hr⟩, hrest⟩ := h
    intro s hs
    rcases List.mem_cons.mp hs with rfl | hs
    · exact hleast
    · have := ih hrest s hs
      omega

theorem covers_iff {n least : Nat} {rs : List (Nat × Nat)} (h : apartFrom least rs = true) :
    covers n rs = true ↔ ∃ r ∈ rs, r.1 ≤ n ∧ n ≤ r.2 := by
  induction rs generalizing least with
  | nil => simp [covers]
  | cons r rest ih =>
    simp only [apartFrom, Bool.and_eq_true, decide_eq_true_eq] at h
    obtain ⟨⟨_, hr⟩, hrest⟩ := h
    simp only [covers, Bool.and_eq_true, Bool.or_eq_true, decide_eq_true_eq, ih hrest,
      List.mem_cons, exists_eq_or_imp]
    constructor
    · rintro ⟨hlo, hhi | hs⟩
      · exact .inl ⟨hlo, hhi⟩
      · exact .inr hs
    · rintro (⟨hlo, hhi⟩ | ⟨s, hs, hlo, hhi⟩)
      · exact ⟨hlo, .inl hhi⟩
      · have := le_of_apartFrom hrest s hs
        exact ⟨by omega, .inr ⟨s, hs, hlo, hhi⟩⟩

theorem Ranges.contains_iff (rs : Ranges) (c : Char) :
    rs.contains c = true ↔ ∃ r ∈ rs.toList, r.1 ≤ c.toNat ∧ c.toNat ≤ r.2 :=
  covers_iff rs.apart

end RemoteFirebird.Text
