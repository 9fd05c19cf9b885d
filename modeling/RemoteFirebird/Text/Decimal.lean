/-!
# Decimal integers

Reading an integer from a text that holds nothing else: an optional sign and at least one ASCII
digit. The value is computed without a bound; whoever needs a range checks it afterwards.
-/

namespace RemoteFirebird.Text.Decimal

/-- The number that a row of digits denotes, leading zeros allowed. -/
def value (digits : List Char) : Nat :=
  digits.foldl (fun n d => 10 * n + (d.toNat - '0'.toNat)) 0

/-- Reads one or more ASCII digits. -/
def natural? (s : List Char) : Option Nat :=
  if !s.isEmpty && s.all Char.isDigit then some (value s) else none

/-- Reads an integer with at most one sign in front. -/
def integer? : List Char → Option Int
  | '+' :: s => (natural? s).map Int.ofNat
  | '-' :: s => (natural? s).map fun n => -Int.ofNat n
  | s => (natural? s).map Int.ofNat

end RemoteFirebird.Text.Decimal
