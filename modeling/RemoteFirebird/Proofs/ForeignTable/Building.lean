import Mathlib.Data.List.Perm.Basic
import RemoteFirebird.ForeignTable.Basic
import RemoteFirebird.Proofs.Edits
import RemoteFirebird.Proofs.Sorted

/-!
# Building foreign tables

A table can be made of a list of columns just if their numbers are positive and all different. It
has the columns in ascending order, and there is only one such order, so it does not matter how they
are listed. After that a table is changed by edits, which say how it is named, quoted and defined.
-/

namespace RemoteFirebird.ForeignTable

variable {localName : String} {columns : List Column} {t : ForeignTable}

/-! ### Columns -/

/-- Whether a table can have these columns. -/
structure WellNumbered (columns : List Column) : Prop where
  positive : ∀ c ∈ columns, 0 < c.number
  distinct : (columns.map Column.number).Nodup

theorem mem_arranged {c : Column} : c ∈ arranged columns ↔ c ∈ columns :=
  (Sorted.arrange_perm _ columns).mem_iff

private theorem pairwise_arranged (h : WellNumbered columns) :
    (arranged columns).Pairwise fun a b => a.number < b.number := by
  have hperm := (Sorted.arrange_perm Column.number columns).map Column.number
  have hne : (arranged columns).Pairwise fun a b => a.number ≠ b.number :=
    List.pairwise_map.mp (hperm.nodup_iff.mpr h.distinct)
  exact ((Sorted.pairwise_arrange Column.number columns).and hne).imp Int.lt_iff_le_and_ne.mpr

theorem WellNumbered.reorder {columns' : List Column} (hperm : columns'.Perm columns)
    (h : WellNumbered columns) : WellNumbered columns' where
  positive c hc := h.positive c (hperm.mem_iff.mp hc)
  distinct := (hperm.map Column.number).nodup_iff.mpr h.distinct

/-- Columns with different numbers have a single ascending order. -/
theorem arranged_eq_of_perm {columns' : List Column} (hperm : columns'.Perm columns)
    (h : WellNumbered columns) : arranged columns' = arranged columns := by
  have hperm' : (arranged columns').Perm (arranged columns) :=
    (Sorted.arrange_perm _ columns').trans (hperm.trans (Sorted.arrange_perm _ columns).symm)
  refine List.Perm.eq_of_pairwise (fun a b _ _ hab hba => ?_)
    (pairwise_arranged (h.reorder hperm)) (pairwise_arranged h) hperm'
  exact (Int.lt_asymm hab hba).elim

private theorem firstRepeat_eq_none_of_pairwise_lt {cs : List Column}
    (h : cs.Pairwise fun a b => a.number < b.number) : firstRepeat cs = none := by
  induction cs with
  | nil => rfl
  | cons a rest ih =>
    obtain ⟨ha, hrest⟩ := List.pairwise_cons.mp h
    cases rest with
    | nil => rfl
    | cons b rest =>
      have hne : a.number ≠ b.number := Int.ne_of_lt (ha b List.mem_cons_self)
      rw [firstRepeat, if_neg hne]
      exact ih hrest

/-- A table is made of the columns just if it has them in ascending order and nothing else has been
said about it. -/
theorem ofColumns_eq_ok_iff :
    ofColumns localName columns = .ok t ↔
      t.localName = localName ∧ t.remoteName = none ∧ t.query = none ∧ t.forceQuotes = false ∧
        t.columns.toList = arranged columns := by
  constructor
  · intro h
    rw [ofColumns] at h
    split at h
    next => simp at h
    next =>
      split at h
      next => simp at h
      next =>
        obtain rfl := Except.ok.inj h
        exact ⟨rfl, rfl, rfl, rfl, rfl⟩
  · rintro ⟨hlocal, hremote, hquery, hforce, hcolumns⟩
    have hpositive : ∀ c ∈ arranged columns, 0 < c.number := hcolumns ▸ t.positive
    have hascending := firstRepeat_eq_none_of_pairwise_lt (hcolumns ▸ t.ascending)
    rw [ofColumns]
    split
    next c hc =>
      have hle : c.number ≤ 0 := by simpa using List.find?_some hc
      have hlt := hpositive c (List.mem_of_find?_eq_some hc)
      omega
    next =>
      split
      next c hc => simp [hascending] at hc
      next =>
        have harray : (arranged columns).toArray = t.columns := by rw [← hcolumns]
        cases t
        simp_all

theorem exists_ofColumns_iff :
    (∃ t, ofColumns localName columns = .ok t) ↔ WellNumbered columns := by
  simp only [ofColumns_eq_ok_iff]
  constructor
  · rintro ⟨t, -, -, -, -, hcolumns⟩
    have hascending : (arranged columns).Pairwise fun a b => a.number < b.number :=
      hcolumns ▸ t.ascending
    have hpositive : ∀ c ∈ arranged columns, 0 < c.number := hcolumns ▸ t.positive
    have hdistinct : ((arranged columns).map Column.number).Nodup :=
      List.pairwise_map.mpr (hascending.imp Int.ne_of_lt)
    exact {
      positive := fun c hc => hpositive c (mem_arranged.mpr hc)
      distinct := ((Sorted.arrange_perm _ columns).map _).nodup_iff.mp hdistinct }
  · intro h
    exact ⟨{
      localName
      columns := (arranged columns).toArray
      ascending := pairwise_arranged h
      positive := fun c hc => h.positive c (mem_arranged.mp hc) }, rfl, rfl, rfl, rfl, rfl⟩

/-- Columns that no table can have are refused as such. -/
theorem exists_defect_iff :
    (∃ defect, ofColumns localName columns = .error (.invalidColumns localName defect)) ↔
      ¬WellNumbered columns := by
  rw [← @exists_ofColumns_iff localName]
  constructor
  · rintro ⟨defect, hdefect⟩ ⟨t, ht⟩
    rw [hdefect] at ht
    simp at ht
  · intro hnone
    cases h : ofColumns localName columns with
    | ok t => exact (hnone ⟨t, h⟩).elim
    | error fault =>
      rw [ofColumns] at h
      split at h
      next => exact ⟨_, (congrArg _ (Except.error.inj h)).symm⟩
      next =>
        split at h
        next => exact ⟨_, (congrArg _ (Except.error.inj h)).symm⟩
        next => simp at h

/-! ### Looking columns up -/

/-- Whether no column of the table has the number, not even a dropped one. -/
def Lacks (t : ForeignTable) (n : Int) : Prop :=
  ∀ c ∈ t.columns.toList, c.number ≠ n

theorem column?_eq_some_iff {n : Int} {c : Column} :
    t.column? n = some c ↔ c ∈ t.columns.toList ∧ c.number = n :=
  Sorted.search_eq_some_iff t.ascending

theorem column?_eq_none_iff {n : Int} : t.column? n = none ↔ t.Lacks n := by
  simp only [Option.eq_none_iff_forall_ne_some, ne_eq, column?_eq_some_iff, not_and, Lacks]

/-- Columns are numbered from one, so no other number is that of a column. -/
theorem lacks_of_nonpos {n : Int} (h : n ≤ 0) : t.Lacks n := by
  intro c hc
  have hpositive := t.positive c hc
  omega

/-! ### Edits -/

/-- What may be said about a table after its columns are known. -/
inductive Edit
  | options (server : Options.Server) (table : Options.Table)
  | remoteName (name : String)
  | query (text : String)
  | forcedQuotes (forced : Bool)

/-- The table after one edit. -/
def edit (t : ForeignTable) : Edit → ForeignTable
  | .options server table => t.withOptions server table
  | .remoteName name => t.withRemoteName name
  | .query text => t.withQuery text
  | .forcedQuotes forced => t.withForcedQuotes forced

/-- The table after some edits, one after another. -/
def edited (t : ForeignTable) (edits : List Edit) : ForeignTable :=
  edits.foldl edit t

theorem localName_edited (t : ForeignTable) (edits : List Edit) :
    (t.edited edits).localName = t.localName := by
  apply aspect_foldl_of_kept ForeignTable.localName
  intro t e
  cases e <;> rfl

theorem columns_edited (t : ForeignTable) (edits : List Edit) :
    (t.edited edits).columns = t.columns := by
  apply aspect_foldl_of_kept ForeignTable.columns
  intro t e
  cases e <;> rfl

end RemoteFirebird.ForeignTable
