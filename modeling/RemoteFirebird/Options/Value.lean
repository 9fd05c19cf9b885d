import RemoteFirebird.Options.Fault
import RemoteFirebird.Text.Blank
import RemoteFirebird.Text.Decimal

/-!
# Option values

Readers for the values that are not free text. Numbers may stand between blanks and carry a sign;
a message about a number always shows the value as it was given, blanks included.
-/

namespace RemoteFirebird.Options.Value

open Text

/-- The spellings of a Boolean value, letter case aside. -/
def trueWords : List String := ["true", "on", "yes", "1", "t", "y"]

def falseWords : List String := ["false", "off", "no", "0", "f", "n"]

/-- The text with the ASCII capitals made small. -/
def lowered (value : String) : String :=
  String.ofList (value.toList.map Char.toLower)

def flag (name value : String) : Except Fault Bool :=
  if lowered value ∈ trueWords then .ok true
  else if lowered value ∈ falseWords then .ok false
  else .error (.notFlag name value)

/-- A signed integer of 64 bits. -/
def integer (name value : String) : Except Fault Int :=
  match Decimal.integer? (trim value.toList) with
  | some n =>
    if Int64.minValue.toInt ≤ n ∧ n ≤ Int64.maxValue.toInt then .ok n
    else .error (.notInteger name value)
  | none => .error (.notInteger name value)

def port (value : String) : Except Fault UInt16 := do
  let n ← integer "port" value
  if 1 ≤ n ∧ n ≤ 65535 then .ok (.ofNat n.toNat) else .error .portOutOfRange

def batchSize (value : String) : Except Fault UInt32 := do
  let n ← integer "batch_size" value
  if n < 1 then .error .batchSizeTooSmall
  else if n.toNat < UInt32.size then .ok (.ofNat n.toNat)
  else .error (.notInteger "batch_size" value)

def rowCount (value : String) : Except Fault Int64 := do
  let n ← integer "estimated_row_count" value
  .ok (.ofInt n)

/-- Why a value could not be read, if it could not. -/
def cause? {α : Type} : Except Fault α → Option Fault
  | .ok _ => none
  | .error fault => some fault

/-- What is wrong with a value of the given kind, if anything is. -/
def fault? (kind : Kind) (name value : String) : Option Fault :=
  match kind with
  | .text => none
  | .flag => cause? (flag name value)
  | .port => cause? (port value)
  | .batchSize => cause? (batchSize value)
  | .rowCount => cause? (rowCount value)

end RemoteFirebird.Options.Value
