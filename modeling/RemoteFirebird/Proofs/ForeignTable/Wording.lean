import RemoteFirebird.Proofs.ForeignTable.Refusals

/-!
# The wording of statements

The text of a statement is settled by how the names of its table are spelled: the table has one
spelling, and so has each of its columns, wherever it is written. Apart from them there are only
fixed words, parameters, the row identity, and the query in place of a table that has one.
-/

namespace RemoteFirebird.ForeignTable

open Sql

/-- How the names of a table are written in its statements. -/
structure Spelling where
  table : String
  /-- What a SELECT reads from. -/
  source : String
  /-- The column that has a number, if there is one. -/
  column? : Int → Option String

namespace Spelling

variable {sp : Spelling}

/-- What fetches an attribute. -/
def expression? (sp : Spelling) (n : Int) : Option String :=
  if n = Attribute.rowIdentity then some Attribute.rowIdentityColumn else sp.column? n

/-- Whether a text fetches some attributes in their order. -/
inductive Retrieves (sp : Spelling) : List Int → String → Prop
  | nothing : Retrieves sp [] "NULL"
  | list {ns : List Int} {es : List String} (hne : ns ≠ [])
    (hes : List.Forall₂ (fun n e => sp.expression? n = some e) ns es) :
    Retrieves sp ns (", ".intercalate es)

/-- Whether a text is the end of a modification that returns some attributes. -/
inductive Ends (sp : Spelling) : List Int → String → Prop
  | nothing : Ends sp [] ""
  | returning {ns : List Int} {list : String} (hlist : sp.Retrieves ns list) :
    Ends sp ns (" RETURNING " ++ list)

/-- Whether a text is that of a statement that has been asked for, and whose result holds some
attributes. -/
inductive Words (sp : Spelling) (ns : List Int) : Request → String → Prop
  | insertDefaults {returning : Option AttributeSet} {ending : String}
    (hending : sp.Ends ns ending) :
    Words sp ns (.insert [] returning) ("INSERT INTO " ++ sp.table ++ " DEFAULT VALUES" ++ ending)
  | insert {targets : List Int} {names : List String} {returning : Option AttributeSet}
    {ending : String} (hne : targets ≠ [])
    (hnames : List.Forall₂ (fun n name => sp.column? n = some name) targets names)
    (hending : sp.Ends ns ending) :
    Words sp ns (.insert targets returning)
      ("INSERT INTO " ++ sp.table ++ " (" ++ ", ".intercalate names ++ ") VALUES (" ++
        ", ".intercalate (names.map fun _ => "?") ++ ")" ++ ending)
  | update {targets : List Int} {names : List String} {returning : Option AttributeSet}
    {ending : String}
    (hnames : List.Forall₂ (fun n name => sp.column? n = some name) targets names)
    (hending : sp.Ends ns ending) :
    Words sp ns (.update targets returning)
      ("UPDATE " ++ sp.table ++ " SET " ++
        ", ".intercalate (names.map fun name => name ++ " = ?") ++
        " WHERE rdb$db_key = ?" ++ ending)
  | delete {returning : Option AttributeSet} {ending : String} (hending : sp.Ends ns ending) :
    Words sp ns (.delete returning)
      ("DELETE FROM " ++ sp.table ++ " WHERE rdb$db_key = ?" ++ ending)
  | select {wanted : AttributeSet} {list : String} (hlist : sp.Retrieves ns list) :
    Words sp ns (.select wanted) ("SELECT " ++ list ++ " FROM " ++ sp.source)

end Spelling

variable {t : ForeignTable}

/-- The spelling of a table as it stands. -/
def spelling (t : ForeignTable) : Spelling where
  table := t.identifier.sql
  source := t.source.sql
  column? n := (t.column? n).map t.columnSql

/-! ### Parts of statements -/

private theorem column?_of_liveColumn {n : Int} {c : Column} (h : t.liveColumn n = .ok c) :
    t.column? n = some c := by
  rw [liveColumn] at h
  split at h
  next => simp at h
  next c' hc' =>
    split at h
    next => simp at h
    next => rw [hc', Except.ok.inj h]

private theorem spelled_column {c : Column} (h : c ∈ t.columns.toList) :
    t.spelling.column? c.number = some (t.columnSql c) := by
  have hfound : t.column? c.number = some c := column?_eq_some_iff.mpr ⟨h, rfl⟩
  simp [spelling, hfound]

private theorem spelled_targets {ns : List Int} {targets : List Identifier}
    (h : t.targets ns = .ok targets) :
    List.Forall₂ (fun n name => t.spelling.column? n = some name) ns
      (targets.map Identifier.sql) := by
  rw [List.forall₂_map_right_iff]
  refine (mapM_eq_ok.mp h).imp fun n i hi => ?_
  obtain ⟨c, hc, hi⟩ := bind_eq_ok.mp hi
  obtain rfl := Except.ok.inj hi
  obtain ⟨hmem, rfl⟩ := column?_eq_some_iff.mp (column?_of_liveColumn hc)
  exact spelled_column hmem

private theorem expression?_of_mem {c : Column} (h : c ∈ t.columns.toList) :
    t.spelling.expression? c.number = some (t.columnSql c) := by
  rw [Spelling.expression?, if_neg (number_ne_rowIdentity h), spelled_column h]

private theorem spelled_expressions {wanted : AttributeSet} {list : TargetList}
    (h : t.targetList wanted = .ok list) :
    List.Forall₂ (fun n e => t.spelling.expression? n = some e) list.retrieved
      list.expressions := by
  rw [targetList_eq_ok h]
  refine List.rel_append ?_ ?_
  · rw [List.map_map, List.map_map, List.forall₂_map_left_iff, List.forall₂_map_right_iff,
      List.forall₂_same]
    intro c hc
    exact expression?_of_mem (mem_wantedColumns.mp hc).1
  · cases wanted.hasRowIdentity with
    | true => exact .cons (if_pos rfl) .nil
    | false => exact .nil

private theorem spelled_targetList {wanted : AttributeSet} {list : TargetList}
    (h : t.targetList wanted = .ok list) : t.spelling.Retrieves list.retrieved list.sql := by
  by_cases hnone : list.retrieved = []
  · rw [sql_eq_null_iff.mpr hnone, hnone]
    exact .nothing
  · rw [sql_eq_intercalate hnone]
    exact .list hnone (spelled_expressions h)

private theorem spelled_returned {returning : Option AttributeSet} {list : Option TargetList}
    (h : t.returned returning = .ok list) :
    t.spelling.Ends ((list.map TargetList.retrieved).getD [])
      (Statement.returningClause list) := by
  rw [returned_eq] at h
  cases hasked : asked returning with
  | none =>
    obtain rfl : none = list := by simpa [hasked, pure, Except.pure] using h
    exact .nothing
  | some set =>
    rw [hasked, mapM_some_eq_ok] at h
    obtain ⟨fetched, hfetched, rfl⟩ := h
    exact .returning (spelled_targetList hfetched)

/-! ### Statements -/

private theorem sql_insert_of_ne_nil {table : Identifier} {targets : List Identifier}
    {list : Option TargetList} (h : targets ≠ []) :
    (Statement.insert table targets list).sql =
      "INSERT INTO " ++ table.sql ++ " (" ++ ", ".intercalate (targets.map Identifier.sql) ++
        ") VALUES (" ++ ", ".intercalate (targets.map fun _ => "?") ++ ")" ++
          Statement.returningClause list := by
  cases targets with
  | nil => exact (h rfl).elim
  | cons target rest =>
    -- The equations of `Statement.sql` are slow to generate.
    delta Statement.sql
    simp only [Statement.insertedRow, String.append_assoc]

/-- Every statement is worded as its table is spelled. -/
theorem words_of_statement {request : Request} {s : Statement} (h : t.statement request = .ok s) :
    t.spelling.Words s.retrieved request s.sql := by
  cases generates_of_statement h with
  | @insert ns returning targets list _ htargets hlist =>
    have hending := spelled_returned hlist
    by_cases hnone : ns = []
    · obtain rfl := (targets_eq_nil_iff htargets).mpr hnone
      subst hnone
      exact .insertDefaults hending
    · have hne : targets ≠ [] := mt (targets_eq_nil_iff htargets).mp hnone
      have hwords : t.spelling.Words _ (.insert ns returning) _ :=
        .insert hnone (spelled_targets htargets) hending
      rw [List.map_map] at hwords
      rw [sql_insert_of_ne_nil hne]
      exact hwords
  | @update ns returning _ _ _ _ htargets hlist =>
    have hwords : t.spelling.Words _ (.update ns returning) _ :=
      .update (spelled_targets htargets) (spelled_returned hlist)
    rw [List.map_map] at hwords
    exact hwords
  | delete _ hlist => exact .delete (spelled_returned hlist)
  | select hlist => exact .select (spelled_targetList hlist)

end RemoteFirebird.ForeignTable
