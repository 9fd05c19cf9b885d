import RemoteFirebird.Options.Table
import RemoteFirebird.ForeignTable.Column
import RemoteFirebird.ForeignTable.Fault
import RemoteFirebird.Sorted
import RemoteFirebird.Sql.Identifier

/-!
# Foreign tables

A foreign table as the statements need it: its names, its columns in ascending order of their
numbers, and its rule for quotes.
-/

namespace RemoteFirebird

structure ForeignTable where
  localName : String
  /-- The remote name, where it differs from the local one. -/
  remoteName : Option String := none
  /-- The query that defines the table, if it has no remote counterpart. -/
  query : Option String := none
  /-- Whether to force quotes. -/
  forceQuotes : Bool := false
  columns : Array ForeignTable.Column
  ascending : columns.toList.Pairwise fun a b => a.number < b.number
  positive : ∀ c ∈ columns.toList, 0 < c.number
  deriving DecidableEq

namespace ForeignTable

/-- The first of two neighbours that have the same number. -/
def firstRepeat : List Column → Option Column
  | a :: b :: rest => if a.number = b.number then some a else firstRepeat (b :: rest)
  | _ => none

theorem pairwise_lt_of_firstRepeat {cs : List Column}
    (hle : cs.Pairwise fun a b => a.number ≤ b.number) (h : firstRepeat cs = none) :
    cs.Pairwise fun a b => a.number < b.number := by
  induction cs with
  | nil => exact .nil
  | cons a rest ih =>
    have ⟨ha, hrest⟩ := List.pairwise_cons.mp hle
    cases rest with
    | nil => exact List.pairwise_singleton _ _
    | cons b rest =>
      by_cases hab : a.number = b.number
      · simp [firstRepeat, hab] at h
      · have hb := ih hrest (by simpa [firstRepeat, hab] using h)
        refine List.pairwise_cons.mpr ⟨fun c hc => ?_, hb⟩
        have hlt : a.number < b.number := by have := ha b (by simp); omega
        rcases List.mem_cons.mp hc with rfl | hc
        · exact hlt
        · exact Int.lt_trans hlt ((List.pairwise_cons.mp hb).1 c hc)

/-- The columns in ascending order. Columns with the same number keep the order they came in. -/
def arranged (columns : List Column) : List Column :=
  Sorted.arrange Column.number columns

/-- A table of the given columns, whose numbers have to be positive and all different. -/
def ofColumns (localName : String) (columns : List Column) : Except Fault ForeignTable :=
  match hpos : (arranged columns).find? fun c => c.number ≤ 0 with
  | some c => .error (.invalidColumns localName (.notPositive c.localName c.number))
  | none =>
    match hrep : firstRepeat (arranged columns) with
    | some c => .error (.invalidColumns localName (.usedTwice c.number))
    | none =>
      .ok {
        localName
        columns := (arranged columns).toArray
        ascending := pairwise_lt_of_firstRepeat (Sorted.pairwise_arrange _ columns) hrep
        positive := by
          intro c hc
          have := List.find?_eq_none.mp hpos c hc
          simpa using this }

/-- Sets both names and the rule for quotes from options. What they leave out is reset. -/
def withOptions (t : ForeignTable) (server : Options.Server) (options : Options.Table) :
    ForeignTable :=
  { t with
    remoteName := options.tableName
    query := options.query
    forceQuotes := options.quoteIdentifier.getD server.quoteIdentifiers }

def withRemoteName (t : ForeignTable) (name : String) : ForeignTable :=
  { t with remoteName := some name }

def withQuery (t : ForeignTable) (query : String) : ForeignTable :=
  { t with query := some query }

def withForcedQuotes (t : ForeignTable) (forced : Bool) : ForeignTable :=
  { t with forceQuotes := forced }

/-- The name of the table on the remote side. -/
def name (t : ForeignTable) : String :=
  t.remoteName.getD t.localName

/-- The column with the given number, dropped or not. -/
def column? (t : ForeignTable) (n : Int) : Option Column :=
  Sorted.search Column.number t.columns n

/-- The column with the given number, which must not be dropped. -/
def liveColumn (t : ForeignTable) (n : Int) : Except Fault Column :=
  match t.column? n with
  | none => .error (.missingAttribute t.localName n)
  | some c => if c.dropped then .error (.droppedAttribute t.localName n) else .ok c

/-- How the table is written in a statement. -/
def identifier (t : ForeignTable) : Sql.Identifier :=
  ⟨t.name, t.forceQuotes⟩

/-- How a column is written in a statement. Its own rule for quotes wins over the table's. -/
def identifierOf (t : ForeignTable) (c : Column) : Sql.Identifier :=
  ⟨c.name, c.forceQuotes.getD t.forceQuotes⟩

end ForeignTable

end RemoteFirebird
