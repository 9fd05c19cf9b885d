import RemoteFirebird.Attribute

/-!
# Attribute sets

The attributes that a query refers to, as an ascending list of numbers. The number of the whole
row and that of the row identity are members like any other.
-/

namespace RemoteFirebird

namespace AttributeSet

/-- Puts a number into an ascending list, unless it is there already. -/
def place (n : Int) : List Int → List Int
  | [] => [n]
  | m :: rest => if n < m then n :: m :: rest else if n = m then m :: rest else m :: place n rest

theorem mem_place {n k : Int} {ns : List Int} : k ∈ place n ns ↔ k = n ∨ k ∈ ns := by
  induction ns with
  | nil => simp [place]
  | cons m rest ih =>
    simp only [place]
    split
    · simp
    · split
      next h => simp [h]
      next => simp [ih, or_left_comm]

theorem pairwise_place {n : Int} {ns : List Int} (h : ns.Pairwise (· < ·)) :
    (place n ns).Pairwise (· < ·) := by
  induction ns with
  | nil => simp [place]
  | cons m rest ih =>
    have ⟨hm, hrest⟩ := List.pairwise_cons.mp h
    simp only [place]
    split
    next hn =>
      refine List.pairwise_cons.mpr ⟨fun k hk => ?_, h⟩
      rcases List.mem_cons.mp hk with rfl | hk
      · exact hn
      · exact Int.lt_trans hn (hm k hk)
    next hn =>
      split
      · exact h
      next hne =>
        refine List.pairwise_cons.mpr ⟨fun k hk => ?_, ih hrest⟩
        rcases mem_place.mp hk with rfl | hk
        · omega
        · exact hm k hk

end AttributeSet

structure AttributeSet where
  numbers : List Int
  ascending : numbers.Pairwise (· < ·)
  deriving DecidableEq

namespace AttributeSet

def empty : AttributeSet := ⟨[], .nil⟩

def insert (s : AttributeSet) (n : Int) : AttributeSet :=
  ⟨place n s.numbers, pairwise_place s.ascending⟩

def contains (s : AttributeSet) (n : Int) : Bool :=
  s.numbers.contains n

/-- The set with one more number, and whether the number is new to it. -/
def insertNew (s : AttributeSet) (n : Int) : AttributeSet × Bool :=
  (s.insert n, !s.contains n)

def insertMany (s : AttributeSet) (ns : List Int) : AttributeSet :=
  ns.foldl insert s

def ofList (ns : List Int) : AttributeSet :=
  empty.insertMany ns

/-- The set that asks for the whole row. -/
def ofWholeRow : AttributeSet := empty.insert Attribute.wholeRow

def withRowIdentity (s : AttributeSet) : AttributeSet :=
  s.insert Attribute.rowIdentity

def isEmpty (s : AttributeSet) : Bool :=
  s.numbers.isEmpty

def hasWholeRow (s : AttributeSet) : Bool :=
  s.contains Attribute.wholeRow

def hasRowIdentity (s : AttributeSet) : Bool :=
  s.contains Attribute.rowIdentity

end AttributeSet

end RemoteFirebird
