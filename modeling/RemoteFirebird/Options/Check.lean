import RemoteFirebird.Options.Value

/-!
# Checking an option list

The pairs are looked at in the order in which they are given, and the first one that offends
decides the fault. Whether a pair offends depends on the pairs before it only through their names:
an option may not be repeated, and a query and a table name exclude each other. That a query
cannot be updated is settled at the end, since the two options may come in either order.
-/

namespace RemoteFirebird.Options

/-- Whether an option of this name is in the list. -/
def given (name : String) (pairs : List Pair) : Bool :=
  pairs.any fun p => p.name == name

/-- Options whose value no message may show. -/
def isSecret (name : String) : Bool :=
  name == "password"

/-- The fault of a pair that follows the given ones, if it has any. -/
def offence (scope : Scope) (before : List Pair) (p : Pair) : Option Fault :=
  match scope.kind? p.name with
  | none => some (.unknown p.name scope)
  | some kind =>
    if given p.name before then
      some (.repeated p.name (if isSecret p.name then none else some p.value))
    else if p.name = "query" ∧ given "table_name" before ∨
        p.name = "table_name" ∧ given "query" before then
      some .queryWithTableName
    else Value.fault? kind p.name p.value

/-- The fault of the first pair that offends. -/
def firstOffence (scope : Scope) (before : List Pair) : List Pair → Option Fault
  | [] => none
  | p :: rest =>
    match offence scope before p with
    | some fault => some fault
    | none => firstOffence scope (before ++ [p]) rest

/-- The pairs up to the first one that offends, that one included. -/
def examined (scope : Scope) (before : List Pair) : List Pair → List Pair
  | [] => []
  | p :: rest =>
    match offence scope before p with
    | some _ => [p]
    | none => p :: examined scope (before ++ [p]) rest

/-- Whether the list asks for updates of a table that is defined by a query. -/
def updatesQuery (pairs : List Pair) : Bool :=
  given "query" pairs && pairs.any fun p =>
    p.name == "updatable" && Value.lowered p.value ∈ Value.trueWords

/-- Accepts a well-formed option list. -/
def check (scope : Scope) (pairs : List Pair) : Except Fault Unit :=
  match firstOffence scope [] pairs with
  | some fault => .error fault
  | none => if updatesQuery pairs then .error .updatableQuery else .ok ()

end RemoteFirebird.Options
