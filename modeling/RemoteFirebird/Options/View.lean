import RemoteFirebird.Options.Check

/-!
# Typed views

A typed view holds the options of one kind of catalogue object in fields of their own. It is read
from a list that has passed the check, one pair at a time, starting from the defaults.
-/

namespace RemoteFirebird.Options

/-- A structure that option lists of one scope are read into. -/
class View (α : Type) where
  scope : Scope
  /-- The options of an empty list. -/
  defaults : α
  /-- Puts the value of a pair into its field. -/
  put : α → Pair → Except Fault α

/-- Reads an option list, which has to pass the check of its scope. -/
def View.read {α : Type} [View α] (pairs : List Pair) : Except Fault α := do
  check (View.scope α) pairs
  pairs.foldlM View.put View.defaults

/-- Options that are still to be read, or already known. -/
inductive Source (α : Type)
  | pairs (list : List Pair)
  | known (view : α)

/-- The typed view of a source. What is known is taken as it is, without a check. -/
def Source.read {α : Type} [View α] : Source α → Except Fault α
  | pairs list => View.read list
  | known view => .ok view

end RemoteFirebird.Options
