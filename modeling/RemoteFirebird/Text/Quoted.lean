import RemoteFirebird.Text.Unseen

/-!
# Quoted literals

A text between double quotes, for diagnostics. Quotes, backslashes and characters that a reader
could not see are escaped, the latter by a short escape or by their code point in hexadecimal.
-/

namespace RemoteFirebird.Text

/-- How a character is written inside a quoted literal. -/
def escaped (c : Char) : List Char :=
  match c with
  | '"' => ['\\', '"']
  | '\\' => ['\\', '\\']
  | '\n' => ['\\', 'n']
  | '\r' => ['\\', 'r']
  | '\t' => ['\\', 't']
  | '\x00' => ['\\', '0']
  | c =>
    if isUnseen c then ['\\', 'u', '\x7b'] ++ Nat.toDigits 16 c.toNat ++ ['\x7d'] else [c]

/-- The text as a quoted literal. -/
def quoted (s : String) : String :=
  "\"" ++ String.ofList (s.toList.flatMap escaped) ++ "\""

end RemoteFirebird.Text
