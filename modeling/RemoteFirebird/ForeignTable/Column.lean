import RemoteFirebird.Options.Column
import RemoteFirebird.Attribute

/-!
# Columns

A column of a foreign table: how it is known locally, and what is known of its remote side.
-/

namespace RemoteFirebird.ForeignTable

structure Column where
  number : Int
  localName : String
  /-- The remote name, where it differs from the local one. -/
  remoteName : Option String := none
  typeOid : UInt32 := 0
  typeModifier : Int32 := -1
  dropped : Bool := false
  /-- Whether to force quotes, where the column has a rule of its own. -/
  forceQuotes : Option Bool := none
  deriving DecidableEq

namespace Column

def withType (c : Column) (oid : UInt32) (modifier : Int32) : Column :=
  { c with typeOid := oid, typeModifier := modifier }

def withRemoteName (c : Column) (name : String) : Column :=
  { c with remoteName := some name }

/-- Takes over the options that are given and keeps the rest. -/
def withOptions (c : Column) (options : Options.Column) : Column :=
  { c with
    remoteName := options.columnName <|> c.remoteName
    forceQuotes := options.quoteIdentifier <|> c.forceQuotes }

def markDropped (c : Column) : Column :=
  { c with dropped := true }

/-- The name of the column on the remote side. -/
def name (c : Column) : String :=
  c.remoteName.getD c.localName

end Column

end RemoteFirebird.ForeignTable
