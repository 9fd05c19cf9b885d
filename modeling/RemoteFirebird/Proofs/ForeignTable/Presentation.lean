import RemoteFirebird.ForeignTable.Statements
import RemoteFirebird.Proofs.AttributeSet
import RemoteFirebird.Proofs.ForeignTable.Building

/-!
# Orders of presentation

A caller may list the columns of a table and the attributes that it wants in any order, and may name
an attribute more than once. The statements and target lists that it gets do not depend on that, and
neither do the faults.
-/

namespace RemoteFirebird.ForeignTable

/-- Whether a table answers all that may be asked about a set of attributes as another table does
about another set: what to fetch, and what to return from a modification of the targets. -/
structure SameAnswers (t : ForeignTable) (s : AttributeSet) (t' : ForeignTable) (s' : AttributeSet)
    (targets : List Int) : Prop where
  targetList : t'.targetList s' = t.targetList s
  select : t'.selectStatement s' = t.selectStatement s
  insert : t'.insertStatement targets (some s') = t.insertStatement targets (some s)
  update : t'.updateStatement targets (some s') = t.updateStatement targets (some s)
  delete : t'.deleteStatement (some s') = t.deleteStatement (some s)

private theorem ofColumns_reorder {localName : String} {columns columns' : List Column}
    {t : ForeignTable} (hperm : columns'.Perm columns)
    (h : ofColumns localName columns = .ok t) : ofColumns localName columns' = .ok t := by
  have hnumbered := exists_ofColumns_iff.mp ⟨t, h⟩
  rw [ofColumns_eq_ok_iff] at h ⊢
  rwa [arranged_eq_of_perm hperm hnumbered]

/-- Two lists of the same columns make the same table or none, and two lists of the same attributes
get the same answers from it, whatever edits were made before. -/
theorem presentation_irrelevant (localName : String) {columns columns' : List Column}
    (hcolumns : columns'.Perm columns) {ns ns' : List Int} (hns : ∀ n, n ∈ ns' ↔ n ∈ ns) :
    (∃ t t', ofColumns localName columns = .ok t ∧ ofColumns localName columns' = .ok t' ∧
        t' = t ∧ ∀ edits targets, SameAnswers (t.edited edits) (.ofList ns) (t'.edited edits)
          (.ofList ns') targets) ∨
      ∃ defect defect',
        ofColumns localName columns = .error (.invalidColumns localName defect) ∧
          ofColumns localName columns' = .error (.invalidColumns localName defect') := by
  have hset : AttributeSet.ofList ns' = .ofList ns := AttributeSet.ofList_eq hns
  by_cases hnumbered : WellNumbered columns
  · obtain ⟨t, ht⟩ := (@exists_ofColumns_iff localName columns).mpr hnumbered
    refine .inl ⟨t, t, ht, ofColumns_reorder hcolumns ht, rfl, fun edits targets => ?_⟩
    rw [hset]
    exact ⟨rfl, rfl, rfl, rfl, rfl⟩
  · have hnumbered' : ¬WellNumbered columns' := mt (WellNumbered.reorder hcolumns.symm) hnumbered
    obtain ⟨defect, hdefect⟩ := (@exists_defect_iff localName columns).mpr hnumbered
    obtain ⟨defect', hdefect'⟩ := (@exists_defect_iff localName columns').mpr hnumbered'
    exact .inr ⟨defect, defect', hdefect, hdefect'⟩

/-- Columns of a table in no particular order, one of them dropped. -/
def projectColumns : List Column :=
  [{ number := 3, localName := "head", remoteName := some "HEAD_OF" },
    { number := 1, localName := "proj_id", forceQuotes := some true },
    { number := 2, localName := "old", dropped := true }]

theorem presentation_irrelevant_project :
    ∃ t, ofColumns "project" projectColumns = .ok t ∧
      ofColumns "project" projectColumns.reverse = .ok t ∧
      SameAnswers (t.withRemoteName "PROJECT") (.ofList [3, -1, 1, 3])
        (t.withRemoteName "PROJECT") (.ofList [1, 3, -1]) [3] := by
  have hns : ∀ n : Int, n ∈ [1, 3, -1] ↔ n ∈ [3, -1, 1, 3] := by
    intro n
    simp only [List.mem_cons, List.not_mem_nil, or_false]
    omega
  have hnumbered : WellNumbered projectColumns := ⟨by decide, by decide⟩
  rcases presentation_irrelevant "project" projectColumns.reverse_perm hns with
    ⟨t, _, ht, ht', rfl, hsame⟩ | ⟨defect, _, hdefect, -⟩
  · exact ⟨_, ht, ht', hsame [.remoteName "PROJECT"] [3]⟩
  · exact (exists_defect_iff.mp ⟨defect, hdefect⟩ hnumbered).elim

end RemoteFirebird.ForeignTable
