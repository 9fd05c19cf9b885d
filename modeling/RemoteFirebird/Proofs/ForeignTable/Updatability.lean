import RemoteFirebird.ForeignTable.Statements
import RemoteFirebird.Proofs.Options.Fields

/-!
# Updatable tables

Whether a table is updatable is decided from its options and those of its server, and a statement
that would modify the rows of a query is refused when it is generated. The two agree: modifications
of a table with an updatable view are never refused because of a query, and a query in the options
makes the table read-only and has every modification refused.
-/

namespace RemoteFirebird.ForeignTable

open Sql Options

variable {t : ForeignTable} {α β : Type}

/-! ### Refusals -/

/-- Whether an outcome is anything but a refusal because the table is defined by a query. -/
def Unrefused (x : Except ForeignTable.Fault α) : Prop :=
  ∀ name, x ≠ .error (.definedByQuery name)

private theorem unrefused_ok (a : α) : Unrefused (.ok a) := by
  simp [Unrefused]

theorem Unrefused.bind {x : Except ForeignTable.Fault α} {f : α → Except ForeignTable.Fault β}
    (hx : Unrefused x) (hf : ∀ a, Unrefused (f a)) : Unrefused (x >>= f) := by
  intro name h
  rcases bind_eq_error.mp h with hfault | ⟨a, -, hfault⟩
  · exact hx name hfault
  · exact hf a name hfault

private theorem unrefused_liveColumn (n : Int) : Unrefused (t.liveColumn n) := by
  intro name h
  rw [liveColumn] at h
  split at h
  next => simp at h
  next => split at h <;> simp at h

private theorem unrefused_targets (ns : List Int) : Unrefused (t.targets ns) := by
  intro name h
  obtain ⟨n, -, hn⟩ := exists_of_mapM_eq_error h
  exact (unrefused_liveColumn n).bind (fun c => unrefused_ok _) name hn

private theorem unrefused_targetList (wanted : AttributeSet) : Unrefused (t.targetList wanted) := by
  intro name h
  rw [targetList] at h
  split at h
  next fault hfault =>
    obtain ⟨n, -, hn⟩ := List.exists_of_findSome?_eq_some hfault
    obtain rfl := Except.error.inj h
    rw [wantedFault?] at hn
    split at hn
    next => simp at hn
    next => split at hn <;> simp at hn
  next => simp at h

private theorem unrefused_returned (wanted : Option AttributeSet) :
    Unrefused (t.returned wanted) := by
  cases wanted with
  | none => exact unrefused_ok none
  | some set =>
    rw [returned]
    split
    next => exact unrefused_ok none
    next =>
      rw [map_eq_pure_bind]
      exact (unrefused_targetList set).bind fun list => unrefused_ok (some list)

/-! ### Modifications -/

/-- Whether no modification of the table is refused because of a query. -/
structure AllowsChanges (t : ForeignTable) : Prop where
  insert : ∀ targets returning, Unrefused (t.insertStatement targets returning)
  update : ∀ targets returning, Unrefused (t.updateStatement targets returning)
  delete : ∀ returning, Unrefused (t.deleteStatement returning)

/-- Whether every modification of the table is refused because of a query. An UPDATE needs targets
to get that far. -/
structure RefusesChanges (t : ForeignTable) : Prop where
  insert : ∀ targets returning,
    t.insertStatement targets returning = .error (.definedByQuery t.localName)
  update : ∀ targets returning, targets ≠ [] →
    t.updateStatement targets returning = .error (.definedByQuery t.localName)
  delete : ∀ returning, t.deleteStatement returning = .error (.definedByQuery t.localName)

/-- Whether a SELECT reads from a query, in parentheses and otherwise word for word. -/
structure SelectsFrom (t : ForeignTable) (text : String) : Prop where
  sql : ∀ wanted, (t.selectStatement wanted).map Statement.sql =
    (t.targetList wanted).map fun list => "SELECT " ++ list.sql ++ " FROM " ++ "( " ++ text ++ " )"
  unrefused : ∀ wanted, Unrefused (t.selectStatement wanted)

private theorem modifiable_of_no_query (h : t.query = none) : t.modifiable = .ok t.identifier := by
  rw [modifiable, h]

private theorem modifiable_of_query {text : String} (h : t.query = some text) :
    t.modifiable = .error (.definedByQuery t.localName) := by
  rw [modifiable, h]

private theorem unrefused_modifiable (h : t.query = none) : Unrefused t.modifiable := by
  rw [modifiable_of_no_query h]
  exact unrefused_ok _

private theorem unrefused_rest (ns : List Int) (returning : Option AttributeSet)
    (complete : List Identifier → Option TargetList → Statement) :
    Unrefused do return complete (← t.targets ns) (← t.returned returning) :=
  (unrefused_targets ns).bind fun _ => (unrefused_returned returning).bind fun _ => unrefused_ok _

private theorem allowsChanges_of_no_query (h : t.query = none) : AllowsChanges t := by
  have hmodifiable := unrefused_modifiable h
  constructor
  case insert =>
    intro ns returning
    exact hmodifiable.bind fun table => unrefused_rest ns returning (.insert table)
  case update =>
    intro ns returning
    rw [updateStatement]
    split
    next => simp [Unrefused]
    next => exact hmodifiable.bind fun table => unrefused_rest ns returning (.update table)
  case delete =>
    intro returning
    exact hmodifiable.bind fun _ => (unrefused_returned returning).bind fun _ => unrefused_ok _

private theorem refusesChanges_of_query {text : String} (h : t.query = some text) :
    RefusesChanges t := by
  have hmodifiable := modifiable_of_query h
  constructor
  case insert =>
    intro ns returning
    rw [insertStatement, hmodifiable]
    rfl
  case update =>
    intro ns returning hns
    rw [updateStatement, if_neg (by simpa using hns), hmodifiable]
    rfl
  case delete =>
    intro returning
    rw [deleteStatement, hmodifiable]
    rfl

private theorem selectsFrom_of_query {text : String} (h : t.query = some text) :
    SelectsFrom t text where
  sql wanted := by
    have hsource : t.source = .query text := by rw [source, h]
    rw [selectStatement, hsource]
    cases t.targetList wanted with
    | error fault => rfl
    | ok list =>
      have hsql : (Statement.select list (.query text)).sql =
          "SELECT " ++ list.sql ++ " FROM " ++ "( " ++ text ++ " )" := by
        delta Statement.sql From.sql
        simp only [String.append_assoc]
      exact congrArg _ hsql
  unrefused wanted := (unrefused_targetList wanted).bind fun _ => unrefused_ok _

/-! ### Options -/

variable {serverPairs tablePairs : List Pair} {server : Options.Server} {table : Options.Table}

private theorem query_eq_some_iff (htable : View.read tablePairs = .ok table) {text : String} :
    table.query = some text ↔ ⟨"query", text⟩ ∈ tablePairs := by
  have hreflects : Field.Reflects ⟨"query", Options.text, Table.query, _⟩ View.defaults tablePairs
      table := (read_eq_ok_iff.mp htable).2 _ (.head _)
  exact hreflects.text_eq_some_iff rfl

private theorem tableName_eq_some_iff (htable : View.read tablePairs = .ok table) {text : String} :
    table.tableName = some text ↔ ⟨"table_name", text⟩ ∈ tablePairs := by
  have hreflects : Field.Reflects ⟨"table_name", Options.text, Table.tableName, _⟩ View.defaults
      tablePairs table := (read_eq_ok_iff.mp htable).2 _ (.tail _ (.head _))
  exact hreflects.text_eq_some_iff rfl

/-- What the options say about changes to a table without a query: its own setting if it has one,
else that of its server, else that they are allowed. -/
inductive Settled (serverPairs tablePairs : List Pair) : Bool → Prop
  | byTable {value : String} {b : Bool} (hgiven : ⟨"updatable", value⟩ ∈ tablePairs)
      (hvalue : Value.Spells value b) : Settled serverPairs tablePairs b
  | byServer {value : String} {b : Bool} (htable : ∀ value, ⟨"updatable", value⟩ ∉ tablePairs)
      (hgiven : ⟨"updatable", value⟩ ∈ serverPairs) (hvalue : Value.Spells value b) :
      Settled serverPairs tablePairs b
  | byDefault (htable : ∀ value, ⟨"updatable", value⟩ ∉ tablePairs)
      (hserver : ∀ value, ⟨"updatable", value⟩ ∉ serverPairs) : Settled serverPairs tablePairs true

private theorem settled_isUpdatable (hserver : View.read serverPairs = .ok server)
    (htable : View.read tablePairs = .ok table) (hquery : table.query = none) :
    Settled serverPairs tablePairs (table.isUpdatable server) := by
  have hreflects : Field.Reflects
      ⟨"updatable", optional (Value.flag "updatable"), Table.updatable, _⟩ View.defaults tablePairs
      table := (read_eq_ok_iff.mp htable).2 _ (.tail _ (.tail _ (.head _)))
  have hreflects' : Field.Reflects
      ⟨"updatable", optional (Value.flag "updatable"), Server.updatable, _⟩ View.defaults
      serverPairs server :=
    (read_eq_ok_iff.mp hserver).2 _ (.tail _ (.tail _ (.tail _ (.tail _ (.head _)))))
  rw [Table.isUpdatable, hquery]
  rcases hreflects.some_or_none rfl with ⟨value, b, hgiven, hvalue, htable⟩ | ⟨hnone, htable⟩
  · rw [htable]
    exact .byTable hgiven (Value.flag_eq_ok_iff.mp hvalue)
  · rcases hreflects'.some_or_none rfl with ⟨value, b, hgiven, hvalue, hserver⟩ | ⟨hnone', hserver⟩
    · rw [htable, hserver]
      exact .byServer hnone hgiven (Value.flag_eq_ok_iff.mp hvalue)
    · rw [htable, hserver]
      exact .byDefault hnone hnone'

/-- Whether a table stands for a remote table: the one that the options name, or else the one of its
own name. -/
structure StandsForTable (t : ForeignTable) (tablePairs : List Pair) : Prop where
  query : t.query = none
  named : ∀ text, ⟨"table_name", text⟩ ∈ tablePairs → t.name = text
  unnamed : (∀ text, ⟨"table_name", text⟩ ∉ tablePairs) → t.name = t.localName

private theorem standsForTable (htable : View.read tablePairs = .ok table)
    (hquery : table.query = none) (server : Options.Server) (r : ForeignTable) :
    StandsForTable (r.withOptions server table) tablePairs where
  query := hquery
  named text hgiven := by
    have hname : table.tableName = some text := (tableName_eq_some_iff htable).mpr hgiven
    rw [name, withOptions, hname, Option.getD_some]
  unnamed hnone := by
    have hname : table.tableName = none := Option.eq_none_iff_forall_ne_some.mpr fun text h =>
      hnone text ((tableName_eq_some_iff htable).mp h)
    rw [name, withOptions, hname, Option.getD_none]

/-- A table that is updatable by its options has no modification refused because of a query. With a
query among its options it is not updatable, whatever is set, has every modification refused and is
read through the query. Without one, the settings decide. Nothing that was said about the table
before makes a difference. -/
theorem updatability_agrees (hserver : View.read serverPairs = .ok server)
    (htable : View.read tablePairs = .ok table) (r : ForeignTable) :
    (table.isUpdatable server = true → AllowsChanges (r.withOptions server table)) ∧
      (∀ text, ⟨"query", text⟩ ∈ tablePairs →
        (∀ own servers, { table with updatable := own }.isUpdatable
            { server with updatable := servers } = false) ∧
          RefusesChanges (r.withOptions server table) ∧
          SelectsFrom (r.withOptions server table) text) ∧
      ((∀ text, ⟨"query", text⟩ ∉ tablePairs) →
        Settled serverPairs tablePairs (table.isUpdatable server) ∧
          AllowsChanges (r.withOptions server table) ∧
          StandsForTable (r.withOptions server table) tablePairs) := by
  refine ⟨fun hupdatable => ?_, fun text hgiven => ?_, fun hnone => ?_⟩
  · have hquery : table.query = none := by
      rw [Table.isUpdatable] at hupdatable
      split at hupdatable
      next => simp at hupdatable
      next hquery => exact hquery
    exact allowsChanges_of_no_query hquery
  · have hquery : table.query = some text := (query_eq_some_iff htable).mpr hgiven
    refine ⟨fun own servers => ?_, refusesChanges_of_query hquery, selectsFrom_of_query hquery⟩
    simp only [Table.isUpdatable, hquery]
  · have hquery : table.query = none := Option.eq_none_iff_forall_ne_some.mpr fun text h =>
      hnone text ((query_eq_some_iff htable).mp h)
    exact ⟨settled_isUpdatable hserver htable hquery, allowsChanges_of_no_query hquery,
      standsForTable htable hquery server r⟩

def totalsQuery : String := "SELECT dept_no, SUM(salary) FROM employee GROUP BY 1"

def totalsOptions : List Pair :=
  [⟨"quote_identifier", "no"⟩, ⟨"query", totalsQuery⟩]

/-- A table that used to have a name and a query of its own. -/
def totals : ForeignTable where
  localName := "totals"
  remoteName := some "TOTALS"
  query := some "SELECT 1 FROM rdb$database"
  columns := #[]
  ascending := .nil
  positive := by simp

theorem updatability_agrees_totals :
    ∃ server table, View.read [⟨"updatable", "on"⟩] = .ok server ∧
      View.read totalsOptions = .ok table ∧ table.isUpdatable server = false ∧
      RefusesChanges (totals.withOptions server table) ∧
      SelectsFrom (totals.withOptions server table) totalsQuery := by
  let server : Options.Server := { updatable := some true }
  let table : Options.Table := { query := some totalsQuery, quoteIdentifier := some false }
  have hserver : View.read [⟨"updatable", "on"⟩] = .ok server := by decide +kernel
  have htable : View.read totalsOptions = .ok table := by decide +kernel
  obtain ⟨hnot, hrefuses, hselects⟩ :=
    (updatability_agrees hserver htable totals).2.1 totalsQuery (by simp [totalsOptions])
  exact ⟨server, table, hserver, htable, hnot table.updatable server.updatable, hrefuses, hselects⟩

end RemoteFirebird.ForeignTable
