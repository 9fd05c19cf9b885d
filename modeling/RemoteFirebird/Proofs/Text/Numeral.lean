import Mathlib.Data.List.TakeWhile
import Mathlib.Data.Nat.Digits.Defs
import RemoteFirebird.Text.Blank
import RemoteFirebird.Text.Decimal

/-!
# Numerals

An integer is given in a text by an optional sign and one or more ASCII digits, and there may be
blanks around it. A text denotes an integer just if the reader of integers, run on the text without
its outer blanks, finds that integer. So no text denotes two of them.
-/

namespace RemoteFirebird.Text

/-- The number that a digit stands for. -/
def digit (c : Char) : Nat := c.toNat - '0'.toNat

/-- A row of ASCII digits and the number it denotes in the decimal system. -/
structure Digits (ds : List Char) (n : Nat) : Prop where
  nonempty : ds ≠ []
  digits : ∀ d ∈ ds, d.isDigit
  value : Nat.ofDigits 10 (ds.reverse.map digit) = n

/-- A numeral and the integer it denotes. -/
inductive Numeral : List Char → Int → Prop
  | unsigned {ds : List Char} {n : Nat} (h : Digits ds n) : Numeral ds n
  | plus {ds : List Char} {n : Nat} (h : Digits ds n) : Numeral ('+' :: ds) n
  | minus {ds : List Char} {n : Nat} (h : Digits ds n) : Numeral ('-' :: ds) (-n)

/-- The code points with the Unicode property `White_Space`. -/
def whiteSpace : List Nat :=
  [0x9, 0xa, 0xb, 0xc, 0xd, 0x20, 0x85, 0xa0, 0x1680, 0x2000, 0x2001, 0x2002, 0x2003, 0x2004,
    0x2005, 0x2006, 0x2007, 0x2008, 0x2009, 0x200a, 0x2028, 0x2029, 0x202f, 0x205f, 0x3000]

def Blank (c : Char) : Prop :=
  c.toNat ∈ whiteSpace

/-- Whether a text consists of a numeral for an integer, apart from blanks around it. -/
def Denotes (s : List Char) (n : Int) : Prop :=
  ∃ before numeral after, s = before ++ numeral ++ after ∧ Numeral numeral n ∧
    (∀ c ∈ before, Blank c) ∧ ∀ c ∈ after, Blank c

/-! ### Blanks around a text -/

private theorem isBlank_iff {c : Char} : isBlank c = true ↔ Blank c := by
  simp only [isBlank, Blank, whiteSpace, Bool.or_eq_true, Bool.and_eq_true, decide_eq_true_eq,
    beq_iff_eq, List.mem_cons, List.not_mem_nil, or_false]
  omega

private theorem isBlank_eq_false_iff {c : Char} : isBlank c = false ↔ ¬Blank c := by
  rw [← isBlank_iff, Bool.not_eq_true]

/-- A text without the blanks at its ends. -/
structure Stripped (s t : List Char) : Prop where
  around : ∃ before after, s = before ++ t ++ after ∧ (∀ c ∈ before, Blank c) ∧
    ∀ c ∈ after, Blank c
  first : ∀ c ∈ t.head?, ¬Blank c
  last : ∀ c ∈ t.getLast?, ¬Blank c

private theorem dropWhile_isBlank {before s : List Char} (hbefore : ∀ c ∈ before, Blank c)
    (hs : ∀ c ∈ s.head?, ¬Blank c) : (before ++ s).dropWhile isBlank = s := by
  have hfront : ∀ c ∈ before, isBlank c = true := fun c hc => isBlank_iff.mpr (hbefore c hc)
  rw [List.dropWhile_append_of_pos hfront]
  cases s with
  | nil => rfl
  | cons c s =>
    have hc : isBlank c = false := isBlank_eq_false_iff.mpr (hs c rfl)
    rw [List.dropWhile_cons_of_neg (by simp [hc])]

private theorem blank_of_mem_takeWhile {s : List Char} {c : Char} (h : c ∈ s.takeWhile isBlank) :
    Blank c :=
  isBlank_iff.mp (List.mem_takeWhile_imp h)

private theorem head?_dropWhile_isBlank (s : List Char) :
    ∀ c ∈ (s.dropWhile isBlank).head?, ¬Blank c := by
  intro c hc
  have hnot := List.head?_dropWhile_not isBlank s
  rw [Option.mem_def.mp hc] at hnot
  exact isBlank_eq_false_iff.mp hnot

private theorem stripped_trim (s : List Char) : Stripped s (trim s) := by
  let t := (s.dropWhile isBlank).reverse
  have hfront : s.takeWhile isBlank ++ s.dropWhile isBlank = s := List.takeWhile_append_dropWhile
  have hback : (t.dropWhile isBlank).reverse ++ (t.takeWhile isBlank).reverse =
      s.dropWhile isBlank := by
    rw [← List.reverse_append, List.takeWhile_append_dropWhile, List.reverse_reverse]
  constructor
  case around =>
    refine ⟨s.takeWhile isBlank, (t.takeWhile isBlank).reverse, ?_, ?_, ?_⟩
    · rw [trim, List.append_assoc, hback, hfront]
    · intro c hc
      exact blank_of_mem_takeWhile hc
    · intro c hc
      exact blank_of_mem_takeWhile (List.mem_reverse.mp hc)
  case first =>
    -- The blanks at the back are taken away last, so the front is that of the rest.
    intro c hc
    have hhead : (t.dropWhile isBlank).reverse.head? = some c := hc
    apply head?_dropWhile_isBlank s
    rw [← hback, List.head?_append, hhead, Option.some_or]
    rfl
  case last =>
    intro c hc
    rw [trim, List.getLast?_reverse] at hc
    exact head?_dropWhile_isBlank _ c hc

private theorem Stripped.trim_eq {s t : List Char} (h : Stripped s t) : trim s = t := by
  obtain ⟨before, after, rfl, hbefore, hafter⟩ := h.around
  have hafter' : ∀ c ∈ after.reverse, Blank c := fun c hc => hafter c (List.mem_reverse.mp hc)
  cases t with
  | nil =>
    have hblank : ∀ c ∈ before ++ after, Blank c := by
      intro c hc
      exact (List.mem_append.mp hc).elim (hbefore c) (hafter c)
    have hnone : (before ++ [] ++ after).dropWhile isBlank = [] := by
      simpa using dropWhile_isBlank hblank (s := []) (by simp)
    rw [trim, hnone]
    rfl
  | cons c t =>
    have hlast : ∀ d ∈ (c :: t).reverse.head?, ¬Blank d := by
      rw [List.head?_reverse]
      exact h.last
    rw [trim, List.append_assoc, dropWhile_isBlank hbefore (by simpa using h.first),
      List.reverse_append, dropWhile_isBlank hafter' hlast, List.reverse_reverse]

theorem stripped_iff {s t : List Char} : Stripped s t ↔ t = trim s := by
  constructor
  · intro h
    exact h.trim_eq.symm
  · intro h
    rw [h]
    exact stripped_trim s

/-! ### Reading a numeral -/

private theorem toNat_of_isDigit {c : Char} (h : c.isDigit) : 48 ≤ c.toNat ∧ c.toNat ≤ 57 := by
  simpa [Char.isDigit, UInt32.le_iff_toNat_le] using h

private theorem not_blank_of_isDigit {c : Char} (h : c.isDigit) : ¬Blank c := by
  have hrange := toNat_of_isDigit h
  simp only [Blank, whiteSpace, List.mem_cons, List.not_mem_nil, or_false]
  omega

private theorem Decimal.value_eq (ds : List Char) :
    value ds = Nat.ofDigits 10 (ds.reverse.map digit) := by
  rw [value, Nat.ofDigits_eq_foldr, List.foldr_map, List.foldr_reverse]
  simp [digit, Nat.add_comm]

private theorem Decimal.natural?_eq_some_iff {s : List Char} {n : Nat} :
    natural? s = some n ↔ Digits s n := by
  rw [natural?, Option.ite_none_right_eq_some, value_eq, Option.some.injEq]
  constructor
  · rintro ⟨hs, hvalue⟩
    simp only [Bool.and_eq_true, Bool.not_eq_true', List.isEmpty_eq_false_iff,
      List.all_eq_true] at hs
    exact ⟨hs.1, hs.2, hvalue⟩
  · rintro ⟨hne, hdigits, hvalue⟩
    exact ⟨by simpa [hne] using hdigits, hvalue⟩

private theorem Decimal.integer?_eq_some_iff {s : List Char} {n : Int} :
    integer? s = some n ↔ Numeral s n := by
  constructor
  · intro h
    unfold integer? at h
    split at h
    all_goals
      obtain ⟨k, hk, rfl⟩ := Option.map_eq_some_iff.mp h
      rw [natural?_eq_some_iff] at hk
    next => exact .plus hk
    next => exact .minus hk
    next => exact .unsigned hk
  · intro h
    cases h with
    | unsigned h =>
      have hplus : ∀ rest, s ≠ '+' :: rest := by
        rintro rest rfl
        exact absurd (h.digits '+' (by simp)) (by decide)
      have hminus : ∀ rest, s ≠ '-' :: rest := by
        rintro rest rfl
        exact absurd (h.digits '-' (by simp)) (by decide)
      rw [integer?.eq_3 s hplus hminus, natural?_eq_some_iff.mpr h]
      rfl
    | plus h =>
      rw [integer?, natural?_eq_some_iff.mpr h]
      rfl
    | minus h =>
      rw [integer?, natural?_eq_some_iff.mpr h]
      rfl

private theorem Numeral.not_blank {s : List Char} {n : Int} (h : Numeral s n) :
    ∀ c ∈ s, ¬Blank c := by
  have hdigits : ∀ {ds k}, Digits ds k → ∀ c ∈ ds, ¬Blank c :=
    fun h c hc => not_blank_of_isDigit (h.digits c hc)
  cases h with
  | unsigned h => exact hdigits h
  | plus h => exact List.forall_mem_cons.mpr ⟨by unfold Blank; decide, hdigits h⟩
  | minus h => exact List.forall_mem_cons.mpr ⟨by unfold Blank; decide, hdigits h⟩

private theorem Numeral.stripped {before numeral after : List Char} {n : Int}
    (h : Numeral numeral n) (hbefore : ∀ c ∈ before, Blank c) (hafter : ∀ c ∈ after, Blank c) :
    Stripped (before ++ numeral ++ after) numeral where
  around := ⟨before, after, rfl, hbefore, hafter⟩
  first c hc := h.not_blank c (List.mem_of_mem_head? hc)
  last c hc := h.not_blank c (List.mem_of_mem_getLast? hc)

theorem numeral_trim_iff {s : List Char} {n : Int} : Numeral (trim s) n ↔ Denotes s n := by
  constructor
  · intro h
    obtain ⟨before, after, hs, hbefore, hafter⟩ := (stripped_trim s).around
    exact ⟨before, trim s, after, hs, h, hbefore, hafter⟩
  · rintro ⟨before, numeral, after, rfl, h, hbefore, hafter⟩
    rwa [(h.stripped hbefore hafter).trim_eq]

/-- The reader of integers finds just what a text denotes, once the outer blanks are gone. -/
theorem integer?_trim_eq_some_iff {s : List Char} {n : Int} :
    Decimal.integer? (trim s) = some n ↔ Denotes s n := by
  rw [Decimal.integer?_eq_some_iff, numeral_trim_iff]

theorem Denotes.unique {s : List Char} {m n : Int} (hm : Denotes s m) (hn : Denotes s n) :
    m = n := by
  rw [← integer?_trim_eq_some_iff] at hm hn
  exact Option.some.inj (hm.symm.trans hn)

end RemoteFirebird.Text
