import RemoteFirebird.Options.Value
import RemoteFirebird.Proofs.Outcome
import RemoteFirebird.Proofs.Text.Numeral

/-!
# What option values denote

Each reader of values accepts just the texts that denote something in its range: a numeral within
the bounds of its option, or one of the spellings of a truth value. What it returns is what the text
denotes, since the bounds leave nothing to be cut off when a number is stored.
-/

namespace RemoteFirebird.Options.Value

open Text

variable {name value : String}

/-! ### Numbers -/

theorem integer_eq_ok_iff {n : Int} :
    integer name value = .ok n ↔ Denotes value.toList n ∧ -2 ^ 63 ≤ n ∧ n ≤ 2 ^ 63 - 1 := by
  have hmin : Int64.minValue.toInt = -2 ^ 63 := rfl
  have hmax : Int64.maxValue.toInt = 2 ^ 63 - 1 := rfl
  rw [← integer?_trim_eq_some_iff, integer, hmin, hmax]
  cases Decimal.integer? (trim value.toList) with
  | none => simp
  | some k =>
    simp only [Option.some.injEq]
    split
    next hk =>
      rw [Except.ok.injEq]
      constructor
      · rintro rfl
        exact ⟨rfl, hk⟩
      · exact And.left
    next hk =>
      simp only [reduceCtorEq, false_iff]
      rintro ⟨rfl, hn⟩
      exact hk hn

theorem integer_eq_error_iff {fault : Fault} :
    integer name value = .error fault ↔ fault = .notInteger name value ∧
      ¬∃ n : Int, Denotes value.toList n ∧ -2 ^ 63 ≤ n ∧ n ≤ 2 ^ 63 - 1 := by
  have hfault : ∀ fault, integer name value = .error fault → fault = .notInteger name value := by
    intro fault h
    rw [integer] at h
    split at h
    next =>
      split at h
      next => simp at h
      next => exact (Except.error.inj h).symm
    next => exact (Except.error.inj h).symm
  simp only [← @integer_eq_ok_iff name]
  constructor
  · intro h
    refine ⟨hfault fault h, ?_⟩
    simp [h]
  · intro h
    obtain ⟨rfl, hnone⟩ := h
    cases hread : integer name value with
    | ok n => exact (hnone ⟨n, hread⟩).elim
    | error fault => rw [hfault fault hread]

private theorem toNat_port {n : Int} (hlo : 1 ≤ n) (hhi : n ≤ 65535) :
    ((UInt16.ofNat n.toNat).toNat : Int) = n := by
  have hfits : n.toNat < UInt16.size := by
    rw [UInt16.size]
    omega
  rw [UInt16.toNat_ofNat_of_lt' hfits]
  omega

private theorem toNat_batchSize {n : Int} (hlo : 1 ≤ n) (hhi : n ≤ 2 ^ 32 - 1) :
    ((UInt32.ofNat n.toNat).toNat : Int) = n := by
  have hfits : n.toNat < UInt32.size := by
    rw [UInt32.size]
    omega
  rw [UInt32.toNat_ofNat_of_lt' hfits]
  omega

theorem port_eq_ok_iff {p : UInt16} :
    port value = .ok p ↔
      ∃ n : Int, Denotes value.toList n ∧ 1 ≤ n ∧ n ≤ 65535 ∧ (p.toNat : Int) = n := by
  rw [port, bind_eq_ok]
  simp only [integer_eq_ok_iff]
  constructor
  · rintro ⟨n, ⟨hn, -⟩, hp⟩
    split at hp
    next hrange =>
      rw [← Except.ok.inj hp]
      exact ⟨n, hn, hrange.1, hrange.2, toNat_port hrange.1 hrange.2⟩
    next => simp at hp
  · rintro ⟨n, hn, hlo, hhi, hp⟩
    refine ⟨n, ⟨hn, by omega, by omega⟩, ?_⟩
    rw [if_pos ⟨hlo, hhi⟩, ← hp, Int.toNat_natCast, UInt16.ofNat_toNat]

theorem port_eq_error_iff {fault : Fault} :
    port value = .error fault ↔
      (fault = .notInteger "port" value ∧
        ¬∃ n : Int, Denotes value.toList n ∧ -2 ^ 63 ≤ n ∧ n ≤ 2 ^ 63 - 1) ∨
      (fault = .portOutOfRange ∧ ∃ n : Int, Denotes value.toList n ∧ -2 ^ 63 ≤ n ∧
        n ≤ 2 ^ 63 - 1 ∧ ¬(1 ≤ n ∧ n ≤ 65535)) := by
  rw [port, bind_eq_error, integer_eq_error_iff]
  simp only [integer_eq_ok_iff]
  refine or_congr_right ?_
  constructor
  · intro h
    obtain ⟨n, ⟨hn, hlo, hhi⟩, hfault⟩ := h
    split at hfault
    next => simp at hfault
    next hrange => exact ⟨(Except.error.inj hfault).symm, n, hn, hlo, hhi, hrange⟩
  · intro h
    obtain ⟨rfl, n, hn, hlo, hhi, hrange⟩ := h
    exact ⟨n, ⟨hn, hlo, hhi⟩, if_neg hrange⟩

theorem batchSize_eq_ok_iff {b : UInt32} :
    batchSize value = .ok b ↔
      ∃ n : Int, Denotes value.toList n ∧ 1 ≤ n ∧ n ≤ 2 ^ 32 - 1 ∧ (b.toNat : Int) = n := by
  rw [batchSize, bind_eq_ok]
  simp only [integer_eq_ok_iff]
  constructor
  · rintro ⟨n, ⟨hn, -⟩, hb⟩
    split at hb
    next => simp at hb
    next hlo =>
      split at hb
      next hfits =>
        rw [UInt32.size] at hfits
        have hlo' : 1 ≤ n := by omega
        have hhi : n ≤ 2 ^ 32 - 1 := by omega
        rw [← Except.ok.inj hb]
        exact ⟨n, hn, hlo', hhi, toNat_batchSize hlo' hhi⟩
      next => simp at hb
  · rintro ⟨n, hn, hlo, hhi, hb⟩
    have hfits : n.toNat < UInt32.size := by
      rw [UInt32.size]
      omega
    refine ⟨n, ⟨hn, by omega, by omega⟩, ?_⟩
    rw [if_neg (by omega), if_pos hfits, ← hb, Int.toNat_natCast, UInt32.ofNat_toNat]

/-- A number of rows that is too large for its field is reported like a text that is no number. -/
theorem batchSize_eq_error_iff {fault : Fault} :
    batchSize value = .error fault ↔
      (fault = .notInteger "batch_size" value ∧
        ¬∃ n : Int, Denotes value.toList n ∧ -2 ^ 63 ≤ n ∧ n ≤ 2 ^ 32 - 1) ∨
      (fault = .batchSizeTooSmall ∧
        ∃ n : Int, Denotes value.toList n ∧ -2 ^ 63 ≤ n ∧ n < 1) := by
  rw [batchSize, bind_eq_error, integer_eq_error_iff]
  simp only [integer_eq_ok_iff]
  constructor
  · intro h
    rcases h with ⟨rfl, hnone⟩ | ⟨n, ⟨hn, hlo, hhi⟩, hfault⟩
    · refine .inl ⟨rfl, fun h => hnone ?_⟩
      obtain ⟨n, hn, hlo, hhi⟩ := h
      exact ⟨n, hn, hlo, by omega⟩
    · split at hfault
      next hsmall => exact .inr ⟨(Except.error.inj hfault).symm, n, hn, hlo, hsmall⟩
      next =>
        split at hfault
        next => simp at hfault
        next hlarge =>
          rw [UInt32.size] at hlarge
          refine .inl ⟨(Except.error.inj hfault).symm, fun h => ?_⟩
          obtain ⟨m, hm, -, hm'⟩ := h
          obtain rfl := hn.unique hm
          omega
  · intro h
    rcases h with ⟨rfl, hnone⟩ | ⟨rfl, n, hn, hlo, hsmall⟩
    · by_cases hfits : ∃ n : Int, Denotes value.toList n ∧ -2 ^ 63 ≤ n ∧ n ≤ 2 ^ 63 - 1
      · obtain ⟨n, hn, hlo, hhi⟩ := hfits
        have hlarge : 2 ^ 32 - 1 < n := by
          by_contra hle
          exact hnone ⟨n, hn, hlo, by omega⟩
        refine .inr ⟨n, ⟨hn, hlo, hhi⟩, ?_⟩
        rw [if_neg (by omega), if_neg (by rw [UInt32.size]; omega)]
      · exact .inl ⟨rfl, hfits⟩
    · exact .inr ⟨n, ⟨hn, hlo, by omega⟩, if_pos hsmall⟩

private theorem rowCount_eq_ok_iff {r : Int64} :
    rowCount value = .ok r ↔
      ∃ n : Int, Denotes value.toList n ∧ -2 ^ 63 ≤ n ∧ n ≤ 2 ^ 63 - 1 ∧ r.toInt = n := by
  rw [rowCount, bind_eq_ok]
  simp only [integer_eq_ok_iff, Except.ok.injEq]
  constructor
  · rintro ⟨n, ⟨hn, hlo, hhi⟩, rfl⟩
    exact ⟨n, hn, hlo, hhi, Int64.toInt_ofInt_of_le hlo (by omega)⟩
  · rintro ⟨n, hn, hlo, hhi, hr⟩
    exact ⟨n, ⟨hn, hlo, hhi⟩, by rw [← hr, Int64.ofInt_toInt]⟩

private theorem rowCount_eq_error_iff {fault : Fault} :
    rowCount value = .error fault ↔ fault = .notInteger "estimated_row_count" value ∧
      ¬∃ n : Int, Denotes value.toList n ∧ -2 ^ 63 ≤ n ∧ n ≤ 2 ^ 63 - 1 := by
  rw [rowCount, bind_eq_error, integer_eq_error_iff]
  simp

/-! ### Truth values -/

/-- Whether two characters are the same, the case of ASCII letters aside. -/
def SameLetter (a b : Char) : Prop :=
  a = b ∨ ∃ k < 26, (a.toNat = 65 + k ∧ b.toNat = 97 + k) ∨ (a.toNat = 97 + k ∧ b.toNat = 65 + k)

def SameWord (s t : String) : Prop :=
  List.Forall₂ SameLetter s.toList t.toList

def spellings : Bool → List String
  | true => ["true", "on", "yes", "1", "t", "y"]
  | false => ["false", "off", "no", "0", "f", "n"]

/-- Whether a text is a spelling of a truth value. -/
def Spells (value : String) (b : Bool) : Prop :=
  ∃ word ∈ spellings b, SameWord value word

private theorem toNat_toLower (c : Char) :
    c.toLower.toNat = if 65 ≤ c.toNat ∧ c.toNat ≤ 90 then c.toNat + 32 else c.toNat := by
  by_cases h : 65 ≤ c.toNat ∧ c.toNat ≤ 90
  · have hrange : c.val ≥ 'A'.val ∧ c.val ≤ 'Z'.val := h
    have hlower : c.toLower.val = c.val + ('a'.val - 'A'.val) :=
      congrArg Char.val (dif_pos hrange)
    have hgap : ('a'.val - 'A'.val).toNat = 32 := rfl
    rw [if_pos h, ← Char.toNat_val, hlower, UInt32.toNat_add, hgap, Char.toNat_val]
    omega
  · have hrange : ¬(c.val ≥ 'A'.val ∧ c.val ≤ 'Z'.val) := h
    have hlower : c.toLower = c := dif_neg hrange
    rw [if_neg h, hlower]

private theorem toLower_eq_toLower_iff {a b : Char} : a.toLower = b.toLower ↔ SameLetter a b := by
  rw [← Char.toNat_inj, toNat_toLower, toNat_toLower, SameLetter, ← Char.toNat_inj]
  constructor
  · intro h
    by_cases ha : 65 ≤ a.toNat ∧ a.toNat ≤ 90
    · by_cases hb : 65 ≤ b.toNat ∧ b.toNat ≤ 90
      · rw [if_pos ha, if_pos hb] at h
        exact .inl (by omega)
      · rw [if_pos ha, if_neg hb] at h
        exact .inr ⟨a.toNat - 65, by omega, .inl ⟨by omega, by omega⟩⟩
    · by_cases hb : 65 ≤ b.toNat ∧ b.toNat ≤ 90
      · rw [if_neg ha, if_pos hb] at h
        exact .inr ⟨b.toNat - 65, by omega, .inr ⟨by omega, by omega⟩⟩
      · rw [if_neg ha, if_neg hb] at h
        exact .inl h
  · intro h
    rcases h with h | ⟨k, hk, ⟨ha, hb⟩ | ⟨ha, hb⟩⟩
    · rw [h]
    · rw [if_pos (by omega), if_neg (by omega)]
      omega
    · rw [if_neg (by omega), if_pos (by omega)]
      omega

private theorem lowered_eq_lowered_iff {s t : String} : lowered s = lowered t ↔ SameWord s t := by
  rw [lowered, lowered, String.ofList_inj, ← List.forall₂_eq_eq_eq, List.forall₂_map_left_iff,
    List.forall₂_map_right_iff]
  simp only [toLower_eq_toLower_iff]
  exact Iff.rfl

private theorem lowered_mem_iff {words : List String} (h : ∀ word ∈ words, lowered word = word) :
    lowered value ∈ words ↔ ∃ word ∈ words, SameWord value word := by
  simp only [← lowered_eq_lowered_iff]
  constructor
  · intro hmem
    exact ⟨lowered value, hmem, (h _ hmem).symm⟩
  · rintro ⟨word, hmem, hsame⟩
    rwa [hsame, h word hmem]

theorem lowered_mem_trueWords_iff : lowered value ∈ trueWords ↔ Spells value true :=
  lowered_mem_iff (by decide)

private theorem lowered_mem_falseWords_iff : lowered value ∈ falseWords ↔ Spells value false :=
  lowered_mem_iff (by decide)

theorem flag_eq_ok_iff {b : Bool} : flag name value = .ok b ↔ Spells value b := by
  have hdisjoint : ∀ word ∈ falseWords, word ∉ trueWords := by decide
  rw [flag]
  cases b with
  | true =>
    rw [← lowered_mem_trueWords_iff]
    split
    next htrue => simp [htrue]
    next htrue => split <;> simp [htrue]
  | false =>
    rw [← lowered_mem_falseWords_iff]
    split
    next htrue =>
      have hfalse : lowered value ∉ falseWords := fun h => hdisjoint _ h htrue
      simp [hfalse]
    next => split <;> simp [*]

private theorem flag_eq_error_iff {fault : Fault} :
    flag name value = .error fault ↔
      fault = .notFlag name value ∧ ¬Spells value true ∧ ¬Spells value false := by
  rw [← lowered_mem_trueWords_iff, ← lowered_mem_falseWords_iff, flag]
  split
  next htrue => simp [htrue]
  next htrue =>
    split
    next hfalse => simp [hfalse]
    next hfalse => simp [htrue, hfalse, eq_comm]

/-! ### Faults of values -/

theorem cause?_eq_none_iff {α : Type} {x : Except Fault α} : cause? x = none ↔ ∃ a, x = .ok a := by
  cases x <;> simp [cause?]

private theorem cause?_eq_some_iff {α : Type} {x : Except Fault α} {fault : Fault} :
    cause? x = some fault ↔ x = .error fault := by
  cases x <;> simp [cause?]

theorem fault?_flag_eq_none_iff :
    fault? .flag name value = none ↔ Spells value true ∨ Spells value false := by
  rw [fault?, cause?_eq_none_iff]
  simp only [flag_eq_ok_iff, Bool.exists_bool]
  exact or_comm

theorem fault?_port_eq_none_iff :
    fault? .port name value = none ↔
      ∃ n : Int, Denotes value.toList n ∧ 1 ≤ n ∧ n ≤ 65535 := by
  rw [fault?, cause?_eq_none_iff]
  simp only [port_eq_ok_iff]
  constructor
  · rintro ⟨p, n, hn, hlo, hhi, -⟩
    exact ⟨n, hn, hlo, hhi⟩
  · rintro ⟨n, hn, hlo, hhi⟩
    exact ⟨_, n, hn, hlo, hhi, toNat_port hlo hhi⟩

theorem fault?_batchSize_eq_none_iff :
    fault? .batchSize name value = none ↔
      ∃ n : Int, Denotes value.toList n ∧ 1 ≤ n ∧ n ≤ 2 ^ 32 - 1 := by
  rw [fault?, cause?_eq_none_iff]
  simp only [batchSize_eq_ok_iff]
  constructor
  · rintro ⟨b, n, hn, hlo, hhi, -⟩
    exact ⟨n, hn, hlo, hhi⟩
  · rintro ⟨n, hn, hlo, hhi⟩
    exact ⟨_, n, hn, hlo, hhi, toNat_batchSize hlo hhi⟩

theorem fault?_rowCount_eq_none_iff :
    fault? .rowCount name value = none ↔
      ∃ n : Int, Denotes value.toList n ∧ -2 ^ 63 ≤ n ∧ n ≤ 2 ^ 63 - 1 := by
  rw [fault?, cause?_eq_none_iff]
  simp only [rowCount_eq_ok_iff]
  constructor
  · rintro ⟨r, n, hn, hlo, hhi, -⟩
    exact ⟨n, hn, hlo, hhi⟩
  · rintro ⟨n, hn, hlo, hhi⟩
    exact ⟨_, n, hn, hlo, hhi, Int64.toInt_ofInt_of_le hlo (by omega)⟩

/-- The faults of a value that is not of the kind that its option holds. -/
inductive Misread (name value : String) : Kind → Fault → Prop
  | flag (htrue : ¬Spells value true) (hfalse : ¬Spells value false) :
    Misread name value .flag (.notFlag name value)
  | port (hnone : ¬∃ n : Int, Denotes value.toList n ∧ -2 ^ 63 ≤ n ∧ n ≤ 2 ^ 63 - 1) :
    Misread name value .port (.notInteger "port" value)
  | portOutOfRange {n : Int} (hn : Denotes value.toList n) (hlo : -2 ^ 63 ≤ n)
    (hhi : n ≤ 2 ^ 63 - 1) (hrange : ¬(1 ≤ n ∧ n ≤ 65535)) :
    Misread name value .port .portOutOfRange
  | batchSize (hnone : ¬∃ n : Int, Denotes value.toList n ∧ -2 ^ 63 ≤ n ∧ n ≤ 2 ^ 32 - 1) :
    Misread name value .batchSize (.notInteger "batch_size" value)
  | batchSizeTooSmall {n : Int} (hn : Denotes value.toList n) (hlo : -2 ^ 63 ≤ n)
    (hsmall : n < 1) : Misread name value .batchSize .batchSizeTooSmall
  | rowCount (hnone : ¬∃ n : Int, Denotes value.toList n ∧ -2 ^ 63 ≤ n ∧ n ≤ 2 ^ 63 - 1) :
    Misread name value .rowCount (.notInteger "estimated_row_count" value)

theorem fault?_eq_some_iff {kind : Kind} {fault : Fault} :
    fault? kind name value = some fault ↔ Misread name value kind fault := by
  constructor
  · intro h
    cases kind with
    | text => simp [fault?] at h
    | flag =>
      obtain ⟨rfl, htrue, hfalse⟩ := flag_eq_error_iff.mp (cause?_eq_some_iff.mp h)
      exact .flag htrue hfalse
    | port =>
      rcases port_eq_error_iff.mp (cause?_eq_some_iff.mp h) with
        ⟨rfl, hnone⟩ | ⟨rfl, n, hn, hlo, hhi, hrange⟩
      · exact .port hnone
      · exact .portOutOfRange hn hlo hhi hrange
    | batchSize =>
      rcases batchSize_eq_error_iff.mp (cause?_eq_some_iff.mp h) with
        ⟨rfl, hnone⟩ | ⟨rfl, n, hn, hlo, hsmall⟩
      · exact .batchSize hnone
      · exact .batchSizeTooSmall hn hlo hsmall
    | rowCount =>
      obtain ⟨rfl, hnone⟩ := rowCount_eq_error_iff.mp (cause?_eq_some_iff.mp h)
      exact .rowCount hnone
  · intro h
    have hcause : ∀ {α : Type} {x : Except Fault α}, x = .error fault → cause? x = some fault :=
      cause?_eq_some_iff.mpr
    cases h with
    | flag htrue hfalse => exact hcause (flag_eq_error_iff.mpr ⟨rfl, htrue, hfalse⟩)
    | port hnone => exact hcause (port_eq_error_iff.mpr (.inl ⟨rfl, hnone⟩))
    | portOutOfRange hn hlo hhi hrange =>
      exact hcause (port_eq_error_iff.mpr (.inr ⟨rfl, _, hn, hlo, hhi, hrange⟩))
    | batchSize hnone => exact hcause (batchSize_eq_error_iff.mpr (.inl ⟨rfl, hnone⟩))
    | batchSizeTooSmall hn hlo hsmall =>
      exact hcause (batchSize_eq_error_iff.mpr (.inr ⟨rfl, _, hn, hlo, hsmall⟩))
    | rowCount hnone => exact hcause (rowCount_eq_error_iff.mpr ⟨rfl, hnone⟩)

end RemoteFirebird.Options.Value
