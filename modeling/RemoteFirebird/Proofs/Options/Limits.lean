import RemoteFirebird.Proofs.Options.Values

/-!
# Numbers at their limits

A value gives a number if it is a numeral for an integer of 64 bits, the blanks at its ends aside.
The readers of numbers agree on that and differ in the narrower ranges that they ask for, and in how
they report a number outside of these. A number that is accepted is stored without loss, and a value
that gives no number is shown as it was written, with its blanks.
-/

namespace RemoteFirebird.Options.Value

open Text

variable {value : String} {n : Int} {fault : Fault}

/-- The number that a value gives, if it fits into 64 bits. -/
def Gives (value : String) (n : Int) : Prop :=
  Numeral (trim value.toList) n ∧ -2 ^ 63 ≤ n ∧ n ≤ 2 ^ 63 - 1

private theorem gives_iff :
    Gives value n ↔ Denotes value.toList n ∧ -2 ^ 63 ≤ n ∧ n ≤ 2 ^ 63 - 1 := by
  rw [Gives, numeral_trim_iff]

private theorem gives_within {lo hi : Int} {P : Prop} (hlo : -2 ^ 63 ≤ lo) (hhi : hi ≤ 2 ^ 63 - 1) :
    Gives value n ∧ lo ≤ n ∧ n ≤ hi ∧ P ↔ Denotes value.toList n ∧ lo ≤ n ∧ n ≤ hi ∧ P := by
  rw [gives_iff]
  constructor
  · intro h
    obtain ⟨⟨hn, -, -⟩, hrest⟩ := h
    exact ⟨hn, hrest⟩
  · intro h
    obtain ⟨hn, hlo', hhi', hP⟩ := h
    exact ⟨⟨hn, by omega, by omega⟩, hlo', hhi', hP⟩

private theorem port_eq_ok_iff_gives {p : UInt16} :
    port value = .ok p ↔ ∃ n, Gives value n ∧ 1 ≤ n ∧ n ≤ 65535 ∧ (p.toNat : Int) = n := by
  rw [port_eq_ok_iff]
  apply exists_congr
  intro n
  exact (gives_within (by decide) (by decide)).symm

private theorem port_eq_error_iff_gives :
    port value = .error fault ↔
      (fault = .notInteger "port" value ∧ ¬∃ n, Gives value n) ∨
        (fault = .portOutOfRange ∧ ∃ n, Gives value n ∧ ¬(1 ≤ n ∧ n ≤ 65535)) := by
  rw [port_eq_error_iff]
  simp only [gives_iff, and_assoc]

private theorem batchSize_eq_ok_iff_gives {b : UInt32} :
    batchSize value = .ok b ↔
      ∃ n, Gives value n ∧ 1 ≤ n ∧ n ≤ 2 ^ 32 - 1 ∧ (b.toNat : Int) = n := by
  rw [batchSize_eq_ok_iff]
  apply exists_congr
  intro n
  exact (gives_within (by decide) (by decide)).symm

private theorem batchSize_eq_error_iff_gives :
    batchSize value = .error fault ↔
      (fault = .notInteger "batch_size" value ∧
          ((∃ n, Gives value n ∧ 2 ^ 32 - 1 < n) ∨ ¬∃ n, Gives value n)) ∨
        (fault = .batchSizeTooSmall ∧ ∃ n, Gives value n ∧ n < 1) := by
  have hlarge : (¬∃ n : Int, Denotes value.toList n ∧ -2 ^ 63 ≤ n ∧ n ≤ 2 ^ 32 - 1) ↔
      (∃ n, Gives value n ∧ 2 ^ 32 - 1 < n) ∨ ¬∃ n, Gives value n := by
    simp only [gives_iff]
    constructor
    · intro hnone
      by_cases hgives : ∃ n : Int, Denotes value.toList n ∧ -2 ^ 63 ≤ n ∧ n ≤ 2 ^ 63 - 1
      · obtain ⟨n, hn, hlo, hhi⟩ := hgives
        refine .inl ⟨n, ⟨hn, hlo, hhi⟩, ?_⟩
        by_contra hle
        exact hnone ⟨n, hn, hlo, by omega⟩
      · exact .inr hgives
    · intro h hsmall
      obtain ⟨n, hn, hlo, hhi⟩ := hsmall
      rcases h with ⟨m, ⟨hm, -, -⟩, hlarge⟩ | hnone
      · have heq : m = n := hm.unique hn
        omega
      · exact hnone ⟨n, hn, hlo, by omega⟩
  have hsmall : (∃ n : Int, Denotes value.toList n ∧ -2 ^ 63 ≤ n ∧ n < 1) ↔
      ∃ n, Gives value n ∧ n < 1 := by
    apply exists_congr
    intro n
    rw [gives_iff]
    constructor
    · intro h
      obtain ⟨hn, hlo, hone⟩ := h
      exact ⟨⟨hn, hlo, by omega⟩, hone⟩
    · intro h
      obtain ⟨⟨hn, hlo, -⟩, hone⟩ := h
      exact ⟨hn, hlo, hone⟩
  rw [batchSize_eq_error_iff, hlarge, hsmall]

/-- What the readers of numbers return for every value, be it a number or not. -/
theorem numbers_exact (value : String) :
    -- what is read is the value without the blanks at its ends, and it has one such form only
    (∀ t, Stripped value.toList t ↔ t = trim value.toList) ∧
    (∀ name n, integer name value = .ok n ↔ Gives value n) ∧
    (∀ name fault, integer name value = .error fault ↔
      fault = .notInteger name value ∧ ¬∃ n, Gives value n) ∧
    (∀ p, port value = .ok p ↔
      ∃ n, Gives value n ∧ 1 ≤ n ∧ n ≤ 65535 ∧ (p.toNat : Int) = n) ∧
    (∀ fault, port value = .error fault ↔
      (fault = .notInteger "port" value ∧ ¬∃ n, Gives value n) ∨
        (fault = .portOutOfRange ∧ ∃ n, Gives value n ∧ ¬(1 ≤ n ∧ n ≤ 65535))) ∧
    (∀ b, batchSize value = .ok b ↔
      ∃ n, Gives value n ∧ 1 ≤ n ∧ n ≤ 2 ^ 32 - 1 ∧ (b.toNat : Int) = n) ∧
    ∀ fault, batchSize value = .error fault ↔
      (fault = .notInteger "batch_size" value ∧
          ((∃ n, Gives value n ∧ 2 ^ 32 - 1 < n) ∨ ¬∃ n, Gives value n)) ∨
        (fault = .batchSizeTooSmall ∧ ∃ n, Gives value n ∧ n < 1) := by
  refine ⟨fun t => stripped_iff, fun name n => ?_, fun name fault => ?_,
    fun p => port_eq_ok_iff_gives, fun fault => port_eq_error_iff_gives,
    fun b => batchSize_eq_ok_iff_gives, fun fault => batchSize_eq_error_iff_gives⟩
  · rw [integer_eq_ok_iff, gives_iff]
  · rw [integer_eq_error_iff]
    simp only [gives_iff]

/-- The least integer of 64 bits is read, and the next below it is not. -/
example : integer "n" " -09223372036854775808\n" = .ok (-2 ^ 63) ∧
    integer "n" "-9223372036854775809 " = .error (.notInteger "n" "-9223372036854775809 ") := by
  decide +kernel

end RemoteFirebird.Options.Value
