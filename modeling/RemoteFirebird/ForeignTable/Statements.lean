import RemoteFirebird.AttributeSet
import RemoteFirebird.ForeignTable.Basic
import RemoteFirebird.Sql.Statement

/-!
# Statements on a foreign table

A statement is generated from a table and the attributes that it concerns. Filters are evaluated
locally, so a SELECT has none.
-/

namespace RemoteFirebird.ForeignTable

open Sql

/-- Why an attribute cannot be fetched from the table, if it cannot. -/
def wantedFault? (t : ForeignTable) (n : Int) : Option Fault :=
  if n < Attribute.rowIdentity then some (.unsupportedSystemAttribute n)
  else if 0 < n ∧ (t.column? n).isNone then some (.missingAttribute t.localName n)
  else none

/-- The columns that a set asks for. Dropped columns are passed over. -/
def wantedColumns (t : ForeignTable) (wanted : AttributeSet) : List Column :=
  t.columns.toList.filter fun c => !c.dropped && (wanted.hasWholeRow || wanted.contains c.number)

/-- What a statement fetches for a set of attributes. -/
def targetList (t : ForeignTable) (wanted : AttributeSet) : Except Fault TargetList :=
  match wanted.numbers.findSome? t.wantedFault? with
  | some fault => .error fault
  | none =>
    .ok {
      columns := (t.wantedColumns wanted).map fun c => (c.number, t.identifierOf c)
      rowIdentity := wanted.hasRowIdentity }

/-- The identifier of a table whose rows may be modified. -/
def modifiable (t : ForeignTable) : Except Fault Identifier :=
  match t.query with
  | some _ => .error (.definedByQuery t.localName)
  | none => .ok t.identifier

/-- The target columns of a modification. -/
def targets (t : ForeignTable) (ns : List Int) : Except Fault (List Identifier) :=
  ns.mapM fun n => do return t.identifierOf (← t.liveColumn n)

/-- What a modification returns. An empty set asks for nothing. -/
def returned (t : ForeignTable) (wanted : Option AttributeSet) : Except Fault (Option TargetList) :=
  match wanted with
  | none => .ok none
  | some set => if set.isEmpty then .ok none else some <$> t.targetList set

def insertStatement (t : ForeignTable) (ns : List Int) (returning : Option AttributeSet) :
    Except Fault Statement := do
  let table ← t.modifiable
  return .insert table (← t.targets ns) (← t.returned returning)

def updateStatement (t : ForeignTable) (ns : List Int) (returning : Option AttributeSet) :
    Except Fault Statement :=
  if ns.isEmpty then .error (.emptyUpdate t.localName)
  else do
    let table ← t.modifiable
    return .update table (← t.targets ns) (← t.returned returning)

def deleteStatement (t : ForeignTable) (returning : Option AttributeSet) :
    Except Fault Statement := do
  let table ← t.modifiable
  return .delete table (← t.returned returning)

/-- What a SELECT reads from: the table, or the query in parentheses. -/
def source (t : ForeignTable) : From :=
  match t.query with
  | some text => .query text
  | none => .table t.identifier

def selectStatement (t : ForeignTable) (wanted : AttributeSet) : Except Fault Statement := do
  return .select (← t.targetList wanted) t.source

end RemoteFirebird.ForeignTable
