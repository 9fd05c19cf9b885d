import RemoteFirebird.Sql.TargetList

/-!
# Statements

The four kinds of statement that are sent to the remote side. Parameters are positional. Those of
an INSERT and the first ones of an UPDATE stand for the target columns in their order; the last one
of an UPDATE and the only one of a DELETE is the identity of the row.
-/

namespace RemoteFirebird.Sql

/-- What a SELECT reads from. -/
inductive From
  | table (name : Identifier)
  | query (text : String)
  deriving DecidableEq

inductive Statement
  /-- Without targets, a row of defaults is inserted. -/
  | insert (table : Identifier) (targets : List Identifier) (returning : Option TargetList)
  | update (table : Identifier) (targets : List Identifier) (returning : Option TargetList)
  | delete (table : Identifier) (returning : Option TargetList)
  | select (list : TargetList) (source : From)
  deriving DecidableEq

def From.sql : From → String
  | table name => name.sql
  | query text => "( " ++ text ++ " )"

namespace Statement

/-- The condition that picks a single row by its identity. -/
def rowFilter : String :=
  " WHERE " ++ Attribute.rowIdentityColumn ++ " = ?"

/-- The clause that asks for a result, if there is one. -/
def returningClause : Option TargetList → String
  | some list => " RETURNING " ++ list.sql
  | none => ""

/-- The row of an INSERT: a parameter for each target, or defaults throughout. -/
def insertedRow : List Identifier → String
  | [] => " DEFAULT VALUES"
  | targets =>
    " (" ++ ", ".intercalate (targets.map Identifier.sql) ++ ") VALUES (" ++
      ", ".intercalate (targets.map fun _ => "?") ++ ")"

def sql : Statement → String
  | insert table targets returning =>
    "INSERT INTO " ++ table.sql ++ insertedRow targets ++ returningClause returning
  | update table targets returning =>
    "UPDATE " ++ table.sql ++ " SET " ++
      ", ".intercalate (targets.map fun t => t.sql ++ " = ?") ++ rowFilter ++
      returningClause returning
  | delete table returning => "DELETE FROM " ++ table.sql ++ rowFilter ++ returningClause returning
  | select list source => "SELECT " ++ list.sql ++ " FROM " ++ source.sql

/-- What the rows of the result hold, if the statement has a result. -/
def targetList? : Statement → Option TargetList
  | insert _ _ returning => returning
  | update _ _ returning => returning
  | delete _ returning => returning
  | select list _ => some list

/-- The attribute numbers of the columns of the result. -/
def retrieved (s : Statement) : List Int :=
  (s.targetList?.map TargetList.retrieved).getD []

/-- Whether the rows of the result carry the row identity. -/
def usesRowIdentity (s : Statement) : Bool :=
  s.retrieved.contains Attribute.rowIdentity

/-- The first word of the statement. -/
def verb : Statement → String
  | insert .. => "INSERT"
  | update .. => "UPDATE"
  | delete .. => "DELETE"
  | select .. => "SELECT"

end Statement

end RemoteFirebird.Sql
