import Mathlib.Data.List.Duplicate
import Mathlib.Order.Bounds.Basic
import RemoteFirebird.Proofs.ForeignTable.Building

/-!
# Lists of columns

A list of columns is refused because of its smallest number if that is not positive, and otherwise
because of the smallest number that occurs more than once. A table that is made of a list has each
of its columns, finds it by its number, and keeps it through all edits.
-/

namespace RemoteFirebird.ForeignTable

variable {localName : String} {columns : List Column} {t : ForeignTable}

/-! ### Defects -/

/-- What is wrong with a list of columns. The column to blame for a number that is not positive is
the first one listed that has the smallest number of all. -/
inductive Defective (columns : List Column) : ColumnDefect → Prop
  | notPositive {n : Int} {c : Column} (hleast : IsLeast {k | k ∈ columns.map Column.number} n)
    (hn : n ≤ 0) (hfirst : columns.find? (fun d => d.number = n) = some c) :
    Defective columns (.notPositive c.localName c.number)
  | usedTwice {n : Int} (hpositive : ∀ c ∈ columns, 0 < c.number)
    (hleast : IsLeast {k | List.Duplicate k (columns.map Column.number)} n) :
    Defective columns (.usedTwice n)

private theorem ordered_arranged (columns : List Column) :
    (arranged columns).Pairwise fun a b => a.number ≤ b.number :=
  Sorted.pairwise_arrange Column.number columns

private theorem defective_of_find? {c : Column}
    (h : (arranged columns).find? (fun c => c.number ≤ 0) = some c) :
    Defective columns (.notPositive c.localName c.number) := by
  obtain ⟨hc, before, after, hsplit, hbefore⟩ := List.find?_eq_some_iff_append.mp h
  have hordered := ordered_arranged columns
  rw [hsplit] at hordered
  have hnone : before = [] := by
    -- A column in front of it would have no larger number, and would be found in its place.
    apply List.eq_nil_iff_forall_not_mem.mpr
    intro b hb
    have hle : b.number ≤ c.number :=
      (List.pairwise_append.mp hordered).2.2 b hb c List.mem_cons_self
    have hpositive := hbefore b hb
    simp only [decide_eq_true_eq, Bool.not_eq_true', decide_eq_false_iff_not] at hc hpositive
    omega
  subst hnone
  rw [List.nil_append] at hsplit hordered
  refine .notPositive (n := c.number) ⟨?_, ?_⟩ (by simpa using hc) ?_
  · have hmem : c ∈ columns := mem_arranged.mp (hsplit ▸ List.mem_cons_self)
    exact List.mem_map_of_mem hmem
  · intro k hk
    obtain ⟨d, hd, rfl⟩ := List.mem_map.mp hk
    have hd' : d ∈ c :: after := hsplit ▸ mem_arranged.mpr hd
    rcases List.mem_cons.mp hd' with rfl | hd'
    · exact Int.le_refl _
    · exact List.rel_of_pairwise_cons hordered hd'
  · have hfirst := Sorted.find?_arrange Column.number c.number columns
    rw [← arranged, hsplit] at hfirst
    rw [← hfirst]
    simp

private theorem isLeast_firstRepeat {cs : List Column} {c : Column}
    (hordered : cs.Pairwise fun a b => a.number ≤ b.number) (h : firstRepeat cs = some c) :
    IsLeast {k | List.Duplicate k (cs.map Column.number)} c.number := by
  fun_induction firstRepeat cs with
  | case1 a b rest hab =>
    obtain rfl := Option.some.inj h
    constructor
    · exact List.duplicate_cons_iff.mpr (.inl ⟨rfl, by simp [hab]⟩)
    · intro k hk
      obtain ⟨d, hd, rfl⟩ := List.mem_map.mp hk.mem
      rcases List.mem_cons.mp hd with rfl | hd
      · exact Int.le_refl _
      · exact List.rel_of_pairwise_cons hordered hd
  | case2 a b rest hab ih =>
    obtain ⟨ha, hrest⟩ := List.pairwise_cons.mp hordered
    have hfresh : a.number ∉ (b :: rest).map Column.number := by
      -- All numbers further on are at least that of `b`, which is above that of `a`.
      intro hmem
      obtain ⟨d, hd, heq⟩ := List.mem_map.mp hmem
      have hle := ha b List.mem_cons_self
      rcases List.mem_cons.mp hd with rfl | hd
      · exact hab heq.symm
      · have hle' := List.rel_of_pairwise_cons hrest hd
        omega
    have hsame : ∀ k, List.Duplicate k ((a :: b :: rest).map Column.number) ↔
        List.Duplicate k ((b :: rest).map Column.number) := by
      intro k
      rw [List.map_cons, List.duplicate_cons_iff]
      refine or_iff_right ?_
      intro hk
      obtain ⟨rfl, hmem⟩ := hk
      exact hfresh hmem
    simp only [hsame]
    exact ih hrest h
  | case3 => simp at h

private theorem duplicate_arranged_iff {n : Int} :
    List.Duplicate n ((arranged columns).map Column.number) ↔
      List.Duplicate n (columns.map Column.number) := by
  have hperm := (Sorted.arrange_perm Column.number columns).map Column.number
  rw [List.duplicate_iff_two_le_count, List.duplicate_iff_two_le_count, arranged,
    hperm.count_eq]

private theorem defective_of_firstRepeat {c : Column}
    (hpositive : (arranged columns).find? (fun c => c.number ≤ 0) = none)
    (h : firstRepeat (arranged columns) = some c) : Defective columns (.usedTwice c.number) := by
  apply Defective.usedTwice
  · intro d hd
    have hd' := List.find?_eq_none.mp hpositive d (mem_arranged.mpr hd)
    simpa using hd'
  · have hleast := isLeast_firstRepeat (ordered_arranged columns) h
    simpa only [duplicate_arranged_iff] using hleast

private theorem exists_defective {fault : Fault} (h : ofColumns localName columns = .error fault) :
    ∃ defect, fault = .invalidColumns localName defect ∧ Defective columns defect := by
  rw [ofColumns] at h
  split at h
  next c hc => exact ⟨_, (Except.error.inj h).symm, defective_of_find? hc⟩
  next hpositive =>
    split at h
    next c hc => exact ⟨_, (Except.error.inj h).symm, defective_of_firstRepeat hpositive hc⟩
    next => simp at h

theorem Defective.unique {defect defect' : ColumnDefect} (h : Defective columns defect)
    (h' : Defective columns defect') : defect = defect' := by
  have hexclusive : ∀ {n : Int}, IsLeast {k | k ∈ columns.map Column.number} n → n ≤ 0 →
      ¬∀ c ∈ columns, 0 < c.number := by
    intro n hleast hn hpositive
    obtain ⟨c, hc, rfl⟩ := List.mem_map.mp hleast.1
    have hc' := hpositive c hc
    omega
  cases h with
  | notPositive hleast hn hfirst =>
    cases h' with
    | notPositive hleast' hn' hfirst' =>
      obtain rfl := hleast.unique hleast'
      obtain rfl := Option.some.inj (hfirst.symm.trans hfirst')
      rfl
    | usedTwice hpositive => exact (hexclusive hleast hn hpositive).elim
  | usedTwice hpositive hleast =>
    cases h' with
    | notPositive hleast' hn' => exact (hexclusive hleast' hn' hpositive).elim
    | usedTwice _ hleast' => rw [hleast.unique hleast']

private theorem Defective.not_wellNumbered {defect : ColumnDefect} (h : Defective columns defect) :
    ¬WellNumbered columns := by
  intro hnumbered
  cases h with
  | notPositive hleast hn =>
    obtain ⟨c, hc, rfl⟩ := List.mem_map.mp hleast.1
    have hpositive := hnumbered.positive c hc
    omega
  | usedTwice _ hleast =>
    exact List.exists_duplicate_iff_not_nodup.mp ⟨_, hleast.1⟩ hnumbered.distinct

private theorem ofColumns_eq_error_iff {fault : Fault} :
    ofColumns localName columns = .error fault ↔
    ∃ defect, fault = .invalidColumns localName defect ∧ Defective columns defect := by
  constructor
  · exact exists_defective
  · intro h
    obtain ⟨defect, rfl, hdefective⟩ := h
    obtain ⟨defect', hdefect'⟩ := (@exists_defect_iff localName columns).mpr
      hdefective.not_wellNumbered
    obtain ⟨found, hfault, hfound⟩ := exists_defective hdefect'
    rw [hdefect', hfault, hdefective.unique hfound]

/-! ### Tables -/

/-- Whether a table has just the columns of a list, and finds them by their numbers. -/
structure Tabulates (t : ForeignTable) (columns : List Column) : Prop where
  perm : t.columns.toList.Perm columns
  ascending : t.columns.toList.Pairwise fun a b => a.number < b.number
  found : ∀ n c, t.column? n = some c ↔ c ∈ columns ∧ c.number = n
  missing : ∀ n, t.column? n = none ↔ ∀ c ∈ columns, c.number ≠ n

private theorem tabulates_of_perm (h : t.columns.toList.Perm columns) : t.Tabulates columns where
  perm := h
  ascending := t.ascending
  found n c := by rw [column?_eq_some_iff, h.mem_iff]
  missing n := by
    rw [column?_eq_none_iff, Lacks]
    simp only [h.mem_iff]

/-- A column is found just as if the list were searched from its beginning. -/
theorem Tabulates.column?_eq (h : t.Tabulates columns) (n : Int) :
    t.column? n = columns.find? fun c => c.number = n := by
  cases hfind : columns.find? fun c => c.number = n with
  | none =>
    apply (h.missing n).mpr
    simpa using List.find?_eq_none.mp hfind
  | some c =>
    apply (h.found n c).mpr
    exact ⟨List.mem_of_find?_eq_some hfind, by simpa using List.find?_some hfind⟩

/-- A table keeps the columns it was made of through all edits. -/
theorem tabulates_edited (h : ofColumns localName columns = .ok t) (edits : List Edit) :
    (t.edited edits).Tabulates columns := by
  obtain ⟨-, -, -, -, hcolumns⟩ := ofColumns_eq_ok_iff.mp h
  apply tabulates_of_perm
  rw [columns_edited, hcolumns]
  exact Sorted.arrange_perm _ columns

/-- A list of columns makes a table just if their numbers are positive and all different, and is
refused with its defect otherwise. A table has the columns it was made of, whatever edits are made
to it. -/
theorem columns_tabulated (localName : String) (columns : List Column) :
    ((∃ t, ofColumns localName columns = .ok t) ↔ WellNumbered columns) ∧
      (∀ fault, ofColumns localName columns = .error fault ↔
        ∃ defect, fault = .invalidColumns localName defect ∧ Defective columns defect) ∧
      ∀ t, ofColumns localName columns = .ok t → ∀ edits, (t.edited edits).Tabulates columns :=
  ⟨exists_ofColumns_iff, fun _ => ofColumns_eq_error_iff, fun _ h => tabulates_edited h⟩

/-- Columns in no particular order, one of them dropped. -/
def salaryColumns : List Column :=
  [{ number := 5, localName := "new_salary" }, { number := 2, localName := "old", dropped := true },
    { number := 1, localName := "emp_no", remoteName := some "EMP" }]

/-- Two of these have the smallest number, and two others share a number as well. -/
def misnumberedColumns : List Column :=
  [{ number := 7, localName := "a" }, { number := -2, localName := "b" },
    { number := 7, localName := "c" }, { number := -2, localName := "d" }]

theorem columns_tabulated_salary :
    (∃ t, ofColumns "salary" salaryColumns = .ok t ∧
      (t.edited [.query "SELECT 1", .remoteName "SALARY"]).column? 2 =
        some { number := 2, localName := "old", dropped := true } ∧
      (t.edited [.query "SELECT 1", .remoteName "SALARY"]).column? 3 = none) ∧
    ofColumns "salary" misnumberedColumns =
      .error (.invalidColumns "salary" (.notPositive "b" (-2))) := by
  have hsalary := columns_tabulated "salary" salaryColumns
  have hmisnumbered := columns_tabulated "salary" misnumberedColumns
  constructor
  · obtain ⟨t, ht⟩ := hsalary.1.mpr ⟨by decide, by decide⟩
    have htable := hsalary.2.2 t ht [.query "SELECT 1", .remoteName "SALARY"]
    exact ⟨t, ht, (htable.found 2 _).mpr ⟨by decide, rfl⟩, (htable.missing 3).mpr (by decide)⟩
  · have hleast : IsLeast {k | k ∈ misnumberedColumns.map Column.number} (-2) :=
      ⟨by decide, by simp [misnumberedColumns, lowerBounds]⟩
    exact (hmisnumbered.2.1 _).mpr ⟨_, rfl, .notPositive hleast (by decide) rfl⟩

end RemoteFirebird.ForeignTable
