import RemoteFirebird.Attribute
import RemoteFirebird.Sql.Identifier

/-!
# Reading statements

A reader for the dialect that is sent to the remote side. It is told nothing about the tables that
a statement is about. The text is split into tokens first, which settles where a quoted name ends,
and the tokens are then read as one of the four kinds of statement. Every operand is kept as it
stands, so that a parameter, the row identity, a NULL and a name are told apart wherever they are.
-/

namespace RemoteFirebird.Sql

/-! ### Tokens -/

inductive Token
  | word (text : String)
  /-- A name that stood between quotes, without them. -/
  | quoted (text : String)
  | leftParen
  | rightParen
  | comma
  | equals
  | marker
  deriving DecidableEq

def isWordChar (c : Char) : Bool :=
  ('A' ≤ c && c ≤ 'Z') || ('a' ≤ c && c ≤ 'z') || ('0' ≤ c && c ≤ '9') || c == '_' || c == '$'

def Token.ofChar? (c : Char) : Option Token :=
  if c = '(' then some leftParen
  else if c = ')' then some rightParen
  else if c = ',' then some comma
  else if c = '=' then some equals
  else if c = '?' then some marker
  else none

/-- Where the scan of a text stands. -/
inductive Scan
  | between
  | word (cs : List Char)
  | quoted (cs : List Char)
  /-- Behind a quote inside a quoted name, which ends the name unless it is followed by another. -/
  | atQuote (cs : List Char)
  deriving DecidableEq

namespace Scan

/-- Takes in the first character of a token, or a blank. -/
def enter (c : Char) : Option (List Token × Scan) :=
  if c = ' ' then some ([], between)
  else if c = '"' then some ([], quoted [])
  else if isWordChar c then some ([], word [c])
  else (Token.ofChar? c).map fun t => ([t], between)

/-- Takes in a character, with the tokens that end before it or with it. -/
def next : Scan → Char → Option (List Token × Scan)
  | between, c => enter c
  | word cs, c =>
    if isWordChar c then some ([], word (cs ++ [c]))
    else (enter c).map fun r => (.word (String.ofList cs) :: r.1, r.2)
  | quoted cs, c => if c = '"' then some ([], atQuote cs) else some ([], quoted (cs ++ [c]))
  | atQuote cs, c =>
    if c = '"' then some ([], quoted (cs ++ ['"']))
    else (enter c).map fun r => (.quoted (String.ofList cs) :: r.1, r.2)

def run (m : Scan) : List Char → Option (List Token × Scan)
  | [] => some ([], m)
  | c :: cs => do
    let (ts, m) ← m.next c
    let (us, m) ← m.run cs
    return (ts ++ us, m)

/-- The tokens that end where the text ends. -/
def finish : Scan → Option (List Token)
  | between => some []
  | word cs => some [.word (String.ofList cs)]
  | quoted _ => none
  | atQuote cs => some [.quoted (String.ofList cs)]

/-- The tokens of the rest of a text. -/
def tokens? (m : Scan) (text : List Char) : Option (List Token) := do
  let (ts, m) ← m.run text
  return ts ++ (← m.finish)

end Scan

/-! ### Statements -/

inductive Operand
  | name (text : String)
  | rowIdentity
  | null
  | marker
  deriving DecidableEq

def Token.name? : Token → Option String
  | word text => if Identifier.isPlain text then some text else none
  | quoted text => some text
  | _ => none

def Token.operand? : Token → Option Operand
  | word text =>
    if text = "NULL" then some .null
    else if text = Attribute.rowIdentityColumn then some .rowIdentity
    else (word text).name?.map .name
  | marker => some .marker
  | t => t.name?.map .name

/-- What a statement says, down to its operands. -/
inductive Reading
  /-- The row is left out where the defaults are inserted. -/
  | insert (table : String) (row : Option (List Operand × List Operand))
    (returning : Option (List Operand))
  | update (table : String) (changes : List (Operand × Operand)) (condition : Operand × Operand)
    (returning : Option (List Operand))
  | delete (table : String) (condition : Operand × Operand) (returning : Option (List Operand))
  | select (list : List Operand) (table : String)
  deriving DecidableEq

namespace Reading

def operands? : List Token → Option (List Operand × List Token)
  | t :: .comma :: rest => do
    let o ← t.operand?
    let (os, rest) ← operands? rest
    return (o :: os, rest)
  | t :: rest => return ([← t.operand?], rest)
  | [] => none

def changes? : List Token → Option (List (Operand × Operand) × List Token)
  | t :: .equals :: u :: .comma :: rest => do
    let change := (← t.operand?, ← u.operand?)
    let (changes, rest) ← changes? rest
    return (change :: changes, rest)
  | t :: .equals :: u :: rest => return ([(← t.operand?, ← u.operand?)], rest)
  | _ => none

def row? : List Token → Option (Option (List Operand × List Operand) × List Token)
  | .word "DEFAULT" :: .word "VALUES" :: rest => some (none, rest)
  | .leftParen :: rest => do
    let (columns, .rightParen :: .word "VALUES" :: .leftParen :: rest) ← operands? rest | none
    let (values, .rightParen :: rest) ← operands? rest | none
    return (some (columns, values), rest)
  | _ => none

def condition? : List Token → Option ((Operand × Operand) × List Token)
  | .word "WHERE" :: t :: .equals :: u :: rest => return ((← t.operand?, ← u.operand?), rest)
  | _ => none

def returning? : List Token → Option (Option (List Operand))
  | [] => some none
  | .word "RETURNING" :: rest => do
    let (os, []) ← operands? rest | none
    return some os
  | _ => none

def ofTokens? : List Token → Option Reading
  | .word "INSERT" :: .word "INTO" :: t :: rest => do
    let table ← t.name?
    let (row, rest) ← row? rest
    return insert table row (← returning? rest)
  | .word "UPDATE" :: t :: .word "SET" :: rest => do
    let table ← t.name?
    let (changes, rest) ← changes? rest
    let (condition, rest) ← condition? rest
    return update table changes condition (← returning? rest)
  | .word "DELETE" :: .word "FROM" :: t :: rest => do
    let table ← t.name?
    let (condition, rest) ← condition? rest
    return delete table condition (← returning? rest)
  | .word "SELECT" :: rest => do
    let (list, [.word "FROM", t]) ← operands? rest | none
    return select list (← t.name?)
  | _ => none

end Reading

/-- Reads the text of a statement. -/
def read? (text : String) : Option Reading :=
  (Scan.between.tokens? text.toList).bind Reading.ofTokens?

end RemoteFirebird.Sql
