import Mathlib.Data.List.Sort
import RemoteFirebird.AttributeSet

/-!
# Members of attribute sets

An attribute set is determined by its members, since it lists them in ascending order. So neither
the order in which numbers are put into a set nor how often matters: all that can be learnt from a
set is which numbers it has been given, from its beginning on.
-/

namespace RemoteFirebird.AttributeSet

variable {n k : Int} {ns : List Int} {s t : AttributeSet}

theorem contains_iff : s.contains n = true ↔ n ∈ s.numbers :=
  List.contains_iff_mem

private theorem mem_insert : k ∈ (s.insert n).numbers ↔ k = n ∨ k ∈ s.numbers :=
  mem_place

private theorem mem_insertMany : k ∈ (s.insertMany ns).numbers ↔ k ∈ ns ∨ k ∈ s.numbers := by
  rw [insertMany]
  induction ns generalizing s with
  | nil => simp
  | cons n ns ih => rw [List.foldl_cons, ih, mem_insert, List.mem_cons, or_left_comm, or_assoc]

private theorem mem_ofList : k ∈ (ofList ns).numbers ↔ k ∈ ns := by
  simp [ofList, mem_insertMany, empty]

private theorem eq_of_mem_iff (h : ∀ k, k ∈ s.numbers ↔ k ∈ t.numbers) : s = t := by
  have hnumbers : s.numbers = t.numbers := s.ascending.eq_of_mem_iff t.ascending h
  cases s
  cases t
  simpa using hnumbers

/-- Lists with the same members make the same set. -/
theorem ofList_eq {ns ns' : List Int} (h : ∀ k, k ∈ ns' ↔ k ∈ ns) : ofList ns' = ofList ns :=
  eq_of_mem_iff fun k => by rw [mem_ofList, mem_ofList, h]

/-! ### Histories -/

/-- How a set begins. -/
inductive Origin
  | empty
  | wholeRow
  | list (ns : List Int)

/-- What becomes of a set. -/
inductive Change
  | insert (n : Int)
  | insertMany (ns : List Int)
  | withRowIdentity

def Origin.set : Origin → AttributeSet
  | empty => .empty
  | wholeRow => .ofWholeRow
  | list ns => .ofList ns

/-- The numbers that a set is given at its beginning. -/
def Origin.given : Origin → List Int
  | empty => []
  | wholeRow => [Attribute.wholeRow]
  | list ns => ns

def changed (s : AttributeSet) : Change → AttributeSet
  | .insert n => (s.insertNew n).1
  | .insertMany ns => s.insertMany ns
  | .withRowIdentity => s.withRowIdentity

/-- The numbers that a set is given by a change. -/
def Change.given : Change → List Int
  | insert n => [n]
  | insertMany ns => ns
  | withRowIdentity => [Attribute.rowIdentity]

/-- How a set has become what it is. -/
structure History where
  origin : Origin
  changes : List Change

def History.set (h : History) : AttributeSet :=
  h.changes.foldl changed h.origin.set

/-- All numbers that a set has been given, in the order in which it was given them. -/
def History.given (h : History) : List Int :=
  h.origin.given ++ h.changes.flatMap Change.given

private theorem mem_origin (o : Origin) : k ∈ o.set.numbers ↔ k ∈ o.given := by
  cases o with
  | empty => simp [Origin.set, Origin.given, empty]
  | wholeRow => simp [Origin.set, Origin.given, ofWholeRow, mem_insert, empty]
  | list ns => exact mem_ofList

private theorem mem_changed (c : Change) :
    k ∈ (s.changed c).numbers ↔ k ∈ s.numbers ∨ k ∈ c.given := by
  rw [or_comm]
  cases c with
  | insert n =>
    rw [Change.given, List.mem_singleton]
    exact mem_insert
  | insertMany ns => exact mem_insertMany
  | withRowIdentity =>
    rw [Change.given, List.mem_singleton]
    exact mem_insert

private theorem mem_foldl_changed (changes : List Change) :
    k ∈ (changes.foldl changed s).numbers ↔ k ∈ s.numbers ∨ k ∈ changes.flatMap Change.given := by
  induction changes generalizing s with
  | nil => simp
  | cons c changes ih => rw [List.foldl_cons, ih, mem_changed, List.flatMap_cons, List.mem_append,
      or_assoc]

private theorem History.mem_set {h : History} : k ∈ h.set.numbers ↔ k ∈ h.given := by
  rw [set, mem_foldl_changed, mem_origin, given, List.mem_append]

private theorem insertNew_eq_true_iff : (s.insertNew n).2 = true ↔ n ∉ s.numbers := by
  rw [← contains_iff, insertNew, Bool.not_eq_true', Bool.not_eq_true]

private theorem isEmpty_iff : s.isEmpty = true ↔ ∀ k, k ∉ s.numbers := by
  rw [isEmpty, List.isEmpty_iff, List.eq_nil_iff_forall_not_mem]

/-- What a set lists and what it answers depends only on the numbers that it has been given, not on
the way in which it has become what it is. -/
theorem set_of_given (h : History) :
    -- the numbers that the set has been given are listed once each, in ascending order
    h.set.numbers.Pairwise (· < ·) ∧ (∀ n, n ∈ h.set.numbers ↔ n ∈ h.given) ∧
    (∀ n, h.set.contains n = true ↔ n ∈ h.given) ∧
    -- a number that is put in next is new to the set if the set has not been given it yet
    (∀ n, (h.set.insertNew n).2 = true ↔ n ∉ h.given) ∧
    (h.set.isEmpty = true ↔ h.given = []) ∧
    (h.set.hasWholeRow = true ↔ Attribute.wholeRow ∈ h.given) ∧
    (h.set.hasRowIdentity = true ↔ Attribute.rowIdentity ∈ h.given) ∧
    ∀ h' : History, (∀ n, n ∈ h'.given ↔ n ∈ h.given) → h'.set = h.set := by
  have hcontains : ∀ n, h.set.contains n = true ↔ n ∈ h.given := by
    intro n
    rw [contains_iff, History.mem_set]
  refine ⟨h.set.ascending, fun n => History.mem_set, hcontains, fun n => ?_, ?_,
    hcontains Attribute.wholeRow, hcontains Attribute.rowIdentity, fun h' hgiven => ?_⟩
  · rw [insertNew_eq_true_iff, History.mem_set]
  · rw [isEmpty_iff, List.eq_nil_iff_forall_not_mem]
    simp only [History.mem_set]
  · apply eq_of_mem_iff
    intro k
    rw [History.mem_set, History.mem_set, hgiven]

/-- Two columns and the row identity, and the same with a number given twice. -/
theorem set_of_given_rowIdentity :
    (⟨.list [3, 2, 3], [.withRowIdentity]⟩ : History).set =
        (⟨.empty, [.insert 2, .withRowIdentity, .insertMany [3]]⟩ : History).set ∧
      ((⟨.list [3, 2, 3], [.withRowIdentity]⟩ : History).set.insertNew 3).2 = false ∧
      ((⟨.list [3, 2, 3], [.withRowIdentity]⟩ : History).set.insertNew 0).2 = true := by
  obtain ⟨-, -, -, hnew, -, -, -, hsame⟩ :=
    set_of_given ⟨.empty, [.insert 2, .withRowIdentity, .insertMany [3]]⟩
  have hset := hsame ⟨.list [3, 2, 3], [.withRowIdentity]⟩ (by
    intro n
    simp only [History.given, Origin.given, Change.given, Attribute.rowIdentity, List.flatMap_cons,
      List.flatMap_nil, List.mem_append, List.mem_cons, List.not_mem_nil, or_false, false_or]
    omega)
  refine ⟨hset, ?_, ?_⟩
  · rw [hset, ← Bool.not_eq_true, hnew]
    decide
  · rw [hset, hnew]
    decide

end RemoteFirebird.AttributeSet
