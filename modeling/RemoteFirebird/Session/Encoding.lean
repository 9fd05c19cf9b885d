/-!
# Client encodings

Firebird understands most local encoding names, directly or as an alias. The few others are
renamed here. A name that neither side knows is passed on, and the remote side rejects it.
-/

namespace RemoteFirebird.Session

/-- The Firebird name of a local database encoding. -/
def clientEncoding : String → String
  | "SQL_ASCII" => "NONE"
  | "ISO_8859_5" => "ISO8859_5"
  | "ISO_8859_6" => "ISO8859_6"
  | "ISO_8859_7" => "ISO8859_7"
  | "ISO_8859_8" => "ISO8859_8"
  | "WIN866" => "DOS866"
  | "EUC_JP" => "EUJC_0208"
  | other => other

end RemoteFirebird.Session
