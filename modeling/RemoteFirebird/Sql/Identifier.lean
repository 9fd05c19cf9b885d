import RemoteFirebird.Sql.ReservedWords

/-!
# Identifiers

Firebird folds bare identifiers to capitals, while local names are kept in small letters. So a name
in small letters may be sent bare and meets its remote counterpart. Any other name is quoted, which
keeps its case, and a quote inside it is doubled.
-/

namespace RemoteFirebird.Sql

/-- A name as it is to appear in a statement. -/
structure Identifier where
  text : String
  /-- Quote the name even if it could stand bare. -/
  forced : Bool := false
  deriving DecidableEq

namespace Identifier

def isFirst (c : Char) : Bool :=
  ('a' ≤ c && c ≤ 'z') || c == '_'

def isFurther (c : Char) : Bool :=
  isFirst c || ('0' ≤ c && c ≤ '9')

/-- Whether a name keeps its meaning without quotes. -/
def isPlain (text : String) : Bool :=
  match text.toList with
  | [] => false
  | c :: cs => isFirst c && cs.all isFurther && !isReserved text

/-- The name between quotes. -/
def quote (text : String) : String :=
  String.ofList ('"' :: text.toList.flatMap (fun c => if c = '"' then ['"', '"'] else [c]) ++ ['"'])

/-- Whether the name is written as it stands. -/
def isBare (i : Identifier) : Bool :=
  !i.forced && isPlain i.text

def sql (i : Identifier) : String :=
  if i.isBare then i.text else quote i.text

end Identifier

end RemoteFirebird.Sql
