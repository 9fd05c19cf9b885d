import RemoteFirebird.Proofs.ForeignTable.ColumnLists
import RemoteFirebird.Proofs.ForeignTable.Wording

/-!
# Names and edits

A column is described by its number, its local name and some edits, and so is a table by its local
name, its columns and some edits. The last edit that gives a remote name decides on the name, and
the last one that has a rule for quotes on the quotes. A column without a rule goes by that of its
table, and all statements are worded with these names.
-/

namespace RemoteFirebird.ForeignTable

open Sql

/-! ### Columns -/

namespace Column

/-- What may be said about a column. -/
inductive Edit
  | typed (oid : UInt32) (modifier : Int32)
  | remoteName (name : String)
  | options (given : Options.Column)
  | dropped

/-- The column after one edit. -/
def edit (c : Column) : Edit → Column
  | .typed oid modifier => c.withType oid modifier
  | .remoteName name => c.withRemoteName name
  | .options given => c.withOptions given
  | .dropped => c.markDropped

/-- The column after some edits, one after another. -/
def edited (c : Column) (edits : List Edit) : Column :=
  edits.foldl edit c

/-- The remote name that an edit gives. Options may leave it out. -/
def Edit.name? : Edit → Option String
  | remoteName name => some name
  | options given => given.columnName
  | _ => none

/-- The rule for quotes that an edit gives. -/
def Edit.forceQuotes? : Edit → Option Bool
  | options given => given.quoteIdentifier
  | _ => none

variable (c : Column) (edits : List Edit)

private theorem number_edited : (c.edited edits).number = c.number := by
  apply aspect_foldl_of_kept number
  intro c e
  cases e <;> rfl

theorem localName_edited : (c.edited edits).localName = c.localName := by
  apply aspect_foldl_of_kept localName
  intro c e
  cases e <;> rfl

private theorem name_edited : (c.edited edits).name = (lastGiven Edit.name? edits).getD c.name := by
  apply aspect_foldl name
  intro c e
  cases e with
  | options given => cases h : given.columnName <;> simp [edit, withOptions, name, Edit.name?, h]
  | _ => rfl

private theorem forceQuotes_edited (forced : Bool) : (c.edited edits).forceQuotes.getD forced =
    (lastGiven Edit.forceQuotes? edits).getD (c.forceQuotes.getD forced) := by
  apply aspect_foldl fun c : Column => c.forceQuotes.getD forced
  intro c e
  cases e with
  | options given =>
    cases h : given.quoteIdentifier <;> simp [edit, withOptions, Edit.forceQuotes?, h]
  | _ => rfl

end Column

/-- A column as it is described: its number, its local name, and what is said about it. -/
structure Draft where
  number : Int
  localName : String
  edits : List Column.Edit

namespace Draft

def column (d : Draft) : Column :=
  Column.edited { number := d.number, localName := d.localName } d.edits

/-- The name that is given last, or else the local one. -/
def name (d : Draft) : String :=
  (lastGiven Column.Edit.name? d.edits).getD d.localName

/-- Whether quotes are forced on the column, by the rule that is given last or else by that of the
table. -/
def isForced (d : Draft) (forced : Bool) : Bool :=
  (lastGiven Column.Edit.forceQuotes? d.edits).getD forced

variable (d : Draft)

private theorem number_column : d.column.number = d.number :=
  Column.number_edited _ _

private theorem localName_column : d.column.localName = d.localName :=
  Column.localName_edited _ _

private theorem name_column : d.column.name = d.name :=
  Column.name_edited _ _

private theorem forceQuotes_column (forced : Bool) :
    d.column.forceQuotes.getD forced = d.isForced forced :=
  Column.forceQuotes_edited _ _ forced

end Draft

/-! ### Tables -/

/-- What an edit writes as the remote name of a table, which options may clear. -/
def Edit.remoteName? : Edit → Option (Option String)
  | options _ table => some table.tableName
  | remoteName name => some (some name)
  | _ => none

/-- What an edit writes as the query of a table, which options may clear. -/
def Edit.query? : Edit → Option (Option String)
  | options _ table => some table.query
  | query text => some (some text)
  | _ => none

/-- The rule for quotes that an edit writes. That of table options wins over that of the server. -/
def Edit.forceQuotes? : Edit → Option Bool
  | options server table => some (table.quoteIdentifier.getD server.quoteIdentifiers)
  | forcedQuotes forced => some forced
  | _ => none

section Edited

variable (t : ForeignTable) (edits : List Edit)

private theorem remoteName_edited :
    (t.edited edits).remoteName = (lastGiven Edit.remoteName? edits).getD t.remoteName := by
  apply aspect_foldl ForeignTable.remoteName
  intro t e
  cases e <;> rfl

private theorem query_edited :
    (t.edited edits).query = (lastGiven Edit.query? edits).getD t.query := by
  apply aspect_foldl ForeignTable.query
  intro t e
  cases e <;> rfl

private theorem forceQuotes_edited :
    (t.edited edits).forceQuotes = (lastGiven Edit.forceQuotes? edits).getD t.forceQuotes := by
  apply aspect_foldl ForeignTable.forceQuotes
  intro t e
  cases e <;> rfl

end Edited

/-- How the names of a new table are spelled after some edits. -/
def Spelling.ofEdits (localName : String) (drafts : List Draft) (edits : List Edit) : Spelling :=
  let remoteName := (lastGiven Edit.remoteName? edits).getD none
  let query := (lastGiven Edit.query? edits).getD none
  let forced := (lastGiven Edit.forceQuotes? edits).getD false
  let table := Identifier.sql ⟨remoteName.getD localName, forced⟩
  { table
    source := (query.map fun text => "( " ++ text ++ " )").getD table
    column? := fun n =>
      (drafts.find? fun d => d.number = n).map fun d => Identifier.sql ⟨d.name, d.isForced forced⟩ }

/-- Whether a table is what drafts of its columns and edits make of it. -/
structure Follows (t : ForeignTable) (localName : String) (drafts : List Draft)
    (edits : List Edit) : Prop where
  ownName : t.localName = localName
  remoteName : t.remoteName = (lastGiven Edit.remoteName? edits).getD none
  query : t.query = (lastGiven Edit.query? edits).getD none
  forceQuotes : t.forceQuotes = (lastGiven Edit.forceQuotes? edits).getD false
  /-- Every column is made by the edits of its own draft. -/
  columns : t.columns.toList.Perm (drafts.map Draft.column)
  numbers : ∀ d ∈ drafts, d.column.number = d.number
  localNames : ∀ d ∈ drafts, d.column.localName = d.localName
  worded : ∀ request s, t.statement request = .ok s →
    (Spelling.ofEdits localName drafts edits).Words s.retrieved request s.sql

variable {localName : String} {drafts : List Draft} {t : ForeignTable}

private theorem columnSql_column (d : Draft) :
    t.columnSql d.column = Identifier.sql ⟨d.name, d.isForced t.forceQuotes⟩ := by
  rw [columnSql, d.name_column, d.forceQuotes_column]

private theorem column?_drafts (h : t.Tabulates (drafts.map Draft.column)) (n : Int) :
    t.column? n = (drafts.find? fun d => d.number = n).map Draft.column := by
  rw [h.column?_eq, List.find?_map]
  simp only [Function.comp_def, Draft.number_column]

private theorem sql_source (t : ForeignTable) :
    t.source.sql = (t.query.map fun text => "( " ++ text ++ " )").getD t.identifier.sql := by
  rw [source]
  cases t.query <;> rfl

private theorem spelling_edited (h : ofColumns localName (drafts.map Draft.column) = .ok t)
    (edits : List Edit) :
    (t.edited edits).spelling = Spelling.ofEdits localName drafts edits := by
  obtain ⟨hlocal, hremote, hquery, hforced, -⟩ := ofColumns_eq_ok_iff.mp h
  have hforced' := forceQuotes_edited t edits
  rw [hforced] at hforced'
  have hidentifier : (t.edited edits).identifier =
      ⟨((lastGiven Edit.remoteName? edits).getD none).getD localName,
        (lastGiven Edit.forceQuotes? edits).getD false⟩ := by
    rw [identifier, name, remoteName_edited, hremote, localName_edited, hlocal, hforced']
  have hcolumn : ∀ n, ((t.edited edits).column? n).map (t.edited edits).columnSql =
      (drafts.find? fun d => d.number = n).map fun d =>
        Identifier.sql ⟨d.name, d.isForced ((lastGiven Edit.forceQuotes? edits).getD false)⟩ := by
    intro n
    rw [column?_drafts (tabulates_edited h edits), Option.map_map]
    simp only [Function.comp_def, columnSql_column, hforced']
  rw [spelling, Spelling.ofEdits, sql_source, query_edited, hquery, hidentifier]
  simp only [hcolumn]

/-- A table that is made of columns and changed by edits goes by the last edits that decide on its
names, and so does each of its columns. Local names and numbers stay as they were, and every
statement is worded with the names that are decided on. -/
theorem names_follow_last_edits (h : ofColumns localName (drafts.map Draft.column) = .ok t)
    (edits : List Edit) : (t.edited edits).Follows localName drafts edits := by
  obtain ⟨hlocal, hremote, hquery, hforced, -⟩ := ofColumns_eq_ok_iff.mp h
  constructor
  case ownName => rw [localName_edited, hlocal]
  case remoteName => rw [remoteName_edited, hremote]
  case query => rw [query_edited, hquery]
  case forceQuotes => rw [forceQuotes_edited, hforced]
  case columns => exact (tabulates_edited h edits).perm
  case numbers => exact fun d _ => d.number_column
  case localNames => exact fun d _ => d.localName_column
  case worded =>
    intro request s hs
    rw [← spelling_edited h edits]
    exact words_of_statement hs

/-- Columns with a name that is given twice, and a rule for quotes that is given apart from it. -/
def staffDrafts : List Draft :=
  [⟨2, "emp_no", [.options { columnName := some "EMP_NO" }, .remoteName "no",
      .options { quoteIdentifier := some true }]⟩,
    ⟨1, "name", [.remoteName "Full", .typed 25 (-1), .options {}]⟩]

/-- The options clear the name that is given before them, and the last edit their rule for
quotes. -/
def staffEdits : List Edit :=
  [.remoteName "STAFF", .options { quoteIdentifiers := true } {}, .forcedQuotes false]

def staff : ForeignTable where
  localName := "staff"
  columns := #[
    { number := 1, localName := "name", remoteName := some "Full", typeOid := 25 },
    { number := 2, localName := "emp_no", remoteName := some "no", forceQuotes := some true }]
  ascending := by decide
  positive := by decide

theorem names_follow_last_edits_staff :
    ofColumns "staff" (staffDrafts.map Draft.column) = .ok staff ∧
      (staff.edited staffEdits).Follows "staff" staffDrafts staffEdits ∧
      ∃ s, (staff.edited staffEdits).statement (.update [2] (some (.ofList [1]))) = .ok s ∧
        s.sql = "UPDATE staff SET \"no\" = ? WHERE rdb$db_key = ? RETURNING \"Full\"" ∧
        (Spelling.ofEdits "staff" staffDrafts staffEdits).Words s.retrieved
          (.update [2] (some (.ofList [1]))) s.sql := by
  have hstaff : ofColumns "staff" (staffDrafts.map Draft.column) = .ok staff := by decide +kernel
  have hfollows := names_follow_last_edits hstaff staffEdits
  let update : Statement :=
    .update ⟨"staff", false⟩ [⟨"no", true⟩] (some ⟨[(1, ⟨"Full", false⟩)], false⟩)
  have hupdate : (staff.edited staffEdits).statement (.update [2] (some (.ofList [1]))) =
      .ok update := by decide +kernel
  exact ⟨hstaff, hfollows, update, hupdate, by decide +kernel, hfollows.worded _ _ hupdate⟩

end RemoteFirebird.ForeignTable
