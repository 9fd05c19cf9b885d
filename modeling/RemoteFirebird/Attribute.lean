/-!
# Attribute numbers

The columns of a foreign table are numbered from one. Zero stands for the whole row, and minus one
for the identity of the remote row, which Firebird offers as a column of its own.
-/

namespace RemoteFirebird.Attribute

def wholeRow : Int := 0

def rowIdentity : Int := -1

/-- The remote column that identifies a row. It is always written bare. -/
def rowIdentityColumn : String := "rdb$db_key"

end RemoteFirebird.Attribute
