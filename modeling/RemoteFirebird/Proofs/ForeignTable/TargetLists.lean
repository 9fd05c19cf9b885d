import Mathlib.Order.Bounds.Basic
import RemoteFirebird.ForeignTable.Statements
import RemoteFirebird.Proofs.AttributeSet
import RemoteFirebird.Proofs.ForeignTable.Building
import RemoteFirebird.Proofs.Sql.Tokens

/-!
# What target lists hold

A target list is refused because of one attribute, which is the smallest that cannot be fetched.
Otherwise it fetches the columns that are asked for and not dropped, in ascending order of their
numbers, and the row identity behind them. Its text is these expressions in the same order.
-/

namespace RemoteFirebird

open Sql

private theorem findSome?_eq_some_iff_isLeast {α : Type} {f : Int → Option α} {ns : List Int}
    {a : α} (h : ns.Pairwise (· < ·)) :
    ns.findSome? f = some a ↔ ∃ n, IsLeast {k | k ∈ ns ∧ (f k).isSome} n ∧ f n = some a := by
  constructor
  · intro hfound
    obtain ⟨before, n, after, rfl, hn, hbefore⟩ := List.findSome?_eq_some_iff.mp hfound
    refine ⟨n, ⟨⟨by simp, by simp [hn]⟩, fun k hk => ?_⟩, hn⟩
    obtain ⟨hmem, hsome⟩ := hk
    rcases List.mem_append.mp hmem with hk | hk
    · simp [hbefore k hk] at hsome
    · rcases List.mem_cons.mp hk with rfl | hk
      · exact Int.le_refl k
      · have hlater := List.rel_of_pairwise_cons (List.pairwise_append.mp h).2.1 hk
        exact Int.le_of_lt hlater
  · intro hex
    obtain ⟨n, hleast, hn⟩ := hex
    cases hfound : ns.findSome? f with
    | none =>
      rw [List.findSome?_eq_none_iff] at hfound
      simp [hfound n hleast.1.1] at hn
    | some b =>
      obtain ⟨before, k, after, rfl, hk, hbefore⟩ := List.findSome?_eq_some_iff.mp hfound
      have hle : n ≤ k := hleast.2 ⟨by simp, by simp [hk]⟩
      rcases List.mem_append.mp hleast.1.1 with hmem | hmem
      · simp [hbefore n hmem] at hn
      · rcases List.mem_cons.mp hmem with rfl | hmem
        · rw [← hk, hn]
        · have hlt := List.rel_of_pairwise_cons (List.pairwise_append.mp h).2.1 hmem
          omega

namespace ForeignTable

variable {t : ForeignTable} {wanted : AttributeSet} {fault : Fault} {n : Int}

/-! ### Refusals -/

/-- Whether an attribute cannot be fetched: it has no meaning, or it is a column that is not there.
A dropped column can be asked for, and is passed over. -/
def Unfetchable (t : ForeignTable) (n : Int) : Prop :=
  n < Attribute.rowIdentity ∨ 0 < n ∧ t.Lacks n

/-- The faults with which a set of attributes is refused. The smallest of all its numbers is to
blame if that has no meaning, and otherwise the smallest number of a column that is not there. -/
inductive RefusesSet (t : ForeignTable) (wanted : AttributeSet) : Fault → Prop
  | unsupported {n : Int} (hleast : IsLeast {k | k ∈ wanted.numbers} n)
    (hn : n < Attribute.rowIdentity) : RefusesSet t wanted (.unsupportedSystemAttribute n)
  | missing {n : Int} (hsupported : ∀ k ∈ wanted.numbers, Attribute.rowIdentity ≤ k)
    (hleast : IsLeast {k | k ∈ wanted.numbers ∧ 0 < k ∧ t.Lacks k} n) :
    RefusesSet t wanted (.missingAttribute t.localName n)

private theorem wantedFault?_eq_some_iff :
    t.wantedFault? n = some fault ↔
      n < Attribute.rowIdentity ∧ fault = .unsupportedSystemAttribute n ∨
        0 < n ∧ t.Lacks n ∧ fault = .missingAttribute t.localName n := by
  have hidentity : Attribute.rowIdentity = -1 := rfl
  have hnone : (t.column? n).isNone = true ↔ t.Lacks n := by
    rw [Option.isNone_iff_eq_none, column?_eq_none_iff]
  rw [wantedFault?]
  split
  next hlow =>
    have hnot : ¬0 < n := by omega
    simp [hlow, hnot, eq_comm]
  next hhigh =>
    split
    next hmissing =>
      rw [hnone] at hmissing
      simp [hhigh, hmissing, eq_comm]
    next hfound =>
      rw [hnone, not_and] at hfound
      simp only [hhigh, false_and, false_or, reduceCtorEq, false_iff]
      exact fun h => hfound h.1 h.2.1

private theorem isSome_wantedFault?_iff : (t.wantedFault? n).isSome ↔ t.Unfetchable n := by
  simp only [Option.isSome_iff_exists, wantedFault?_eq_some_iff, Unfetchable, exists_or,
    exists_and_left, exists_eq, and_true]

private theorem targetList_eq_error_iff_findSome? :
    t.targetList wanted = .error fault ↔ wanted.numbers.findSome? t.wantedFault? = some fault := by
  rw [targetList]
  split
  next fault' hfault => simp [hfault]
  next hnone => simp [hnone]

private theorem exists_targetList_eq_error_iff :
    (∃ fault, t.targetList wanted = .error fault) ↔ ∃ n ∈ wanted.numbers, t.Unfetchable n := by
  simp only [targetList_eq_error_iff_findSome?, ← Option.isSome_iff_exists,
    List.findSome?_isSome_iff, isSome_wantedFault?_iff]

private theorem refusesSet_of_targetList (h : t.targetList wanted = .error fault) :
    t.RefusesSet wanted fault := by
  rw [targetList_eq_error_iff_findSome?, findSome?_eq_some_iff_isLeast wanted.ascending] at h
  simp only [isSome_wantedFault?_iff] at h
  obtain ⟨n, ⟨⟨hmem, -⟩, hleast⟩, hn⟩ := h
  rcases wantedFault?_eq_some_iff.mp hn with ⟨hlow, rfl⟩ | ⟨hpositive, hlacks, rfl⟩
  · -- A number below `n` would have no meaning either.
    refine .unsupported ⟨hmem, fun k hk => ?_⟩ hlow
    by_contra hlt
    exact hlt (hleast ⟨hk, .inl (by omega)⟩)
  · refine .missing (fun k hk => ?_) ⟨⟨hmem, hpositive, hlacks⟩, fun k hk => ?_⟩
    · by_contra hlow
      have hidentity : Attribute.rowIdentity = -1 := rfl
      have hle : n ≤ k := hleast ⟨hk, .inl (by omega)⟩
      omega
    · exact hleast ⟨hk.1, .inr hk.2⟩

theorem RefusesSet.unique {fault' : Fault} (h : t.RefusesSet wanted fault)
    (h' : t.RefusesSet wanted fault') : fault = fault' := by
  cases h with
  | unsupported hleast hn =>
    cases h' with
    | unsupported hleast' => rw [hleast.unique hleast']
    | missing hsupported => exact absurd (hsupported _ hleast.1) (by omega)
  | missing hsupported hleast =>
    cases h' with
    | unsupported hleast' hn' => exact absurd (hsupported _ hleast'.1) (by omega)
    | missing _ hleast' => rw [hleast.unique hleast']

private theorem RefusesSet.exists_unfetchable (h : t.RefusesSet wanted fault) :
    ∃ n ∈ wanted.numbers, t.Unfetchable n := by
  cases h with
  | unsupported hleast hn => exact ⟨_, hleast.1, .inl hn⟩
  | missing _ hleast => exact ⟨_, hleast.1.1, .inr hleast.1.2⟩

private theorem targetList_eq_error_iff :
    t.targetList wanted = .error fault ↔ t.RefusesSet wanted fault := by
  constructor
  · exact refusesSet_of_targetList
  · intro h
    obtain ⟨fault', hfault'⟩ := exists_targetList_eq_error_iff.mpr h.exists_unfetchable
    rw [hfault', h.unique (refusesSet_of_targetList hfault')]

/-! ### Contents -/

/-- The text of a column in a target list. Its own rule for quotes wins over the table's. -/
def columnSql (t : ForeignTable) (c : Column) : String :=
  Identifier.sql ⟨c.name, c.forceQuotes.getD t.forceQuotes⟩

/-- Whether a target list fetches these columns and nothing else, apart from the row identity if
that is in the set, and the columns are those that the set asks for. -/
structure Fetches (t : ForeignTable) (wanted : AttributeSet) (columns : List Column)
    (list : TargetList) : Prop where
  ascending : columns.Pairwise fun a b => a.number < b.number
  mem_iff : ∀ c, c ∈ columns ↔ c ∈ t.columns.toList ∧ c.dropped = false ∧
    (Attribute.wholeRow ∈ wanted.numbers ∨ c.number ∈ wanted.numbers)
  retrieved : list.retrieved = columns.map Column.number ++
    if Attribute.rowIdentity ∈ wanted.numbers then [Attribute.rowIdentity] else []
  sql : list.retrieved ≠ [] → list.sql = ", ".intercalate (columns.map t.columnSql ++
    if Attribute.rowIdentity ∈ wanted.numbers then [Attribute.rowIdentityColumn] else [])
  null : list.sql = "NULL" ↔ list.retrieved = []

/-- Whether a text is not NULL because it begins with another letter. -/
def Unlike (text : String) : Prop :=
  ∃ c cs, text.toList = c :: cs ∧ c ≠ 'N'

private theorem unlike_sql (i : Identifier) : Unlike i.sql := by
  rw [Identifier.sql]
  split
  next hbare =>
    have hplain : Identifier.isPlain i.text = true := by
      simp only [Identifier.isBare, Bool.and_eq_true] at hbare
      exact hbare.2
    obtain ⟨c, cs, htext, hfirst, -⟩ := Identifier.isPlain_toList hplain
    refine ⟨c, cs, htext, fun heq => ?_⟩
    subst heq
    simp [Identifier.isFirst] at hfirst
  next => exact ⟨'"', _, by rw [Identifier.quote, String.toList_ofList]; rfl, by decide⟩

private theorem Unlike.intercalate_ne {e : String} (h : Unlike e) (es : List String) :
    ", ".intercalate (e :: es) ≠ "NULL" := by
  obtain ⟨c, cs, htext, hc⟩ := h
  have hrest : ∃ rest, ", ".intercalate (e :: es) = e ++ rest := by
    cases es with
    | nil => exact ⟨"", by rw [String.intercalate_singleton, String.append_empty]⟩
    | cons e' es =>
      exact ⟨_, by rw [String.intercalate_cons_cons, String.append_assoc]⟩
  obtain ⟨rest, hrest⟩ := hrest
  intro hnull
  rw [hrest] at hnull
  have hlist := congrArg String.toList hnull
  rw [String.toList_append, htext] at hlist
  exact hc (List.cons.inj hlist).1

private theorem unlike_of_mem_expressions {list : TargetList} {e : String}
    (h : e ∈ list.expressions) : Unlike e := by
  rcases List.mem_append.mp h with h | h
  · obtain ⟨c, -, rfl⟩ := List.mem_map.mp h
    exact unlike_sql c.2
  · split at h
    next =>
      obtain rfl := List.mem_singleton.mp h
      exact ⟨'r', _, rfl, by decide⟩
    next => simp at h

private theorem expressions_eq_nil_iff {list : TargetList} :
    list.expressions = [] ↔ list.retrieved = [] := by
  simp [TargetList.expressions, TargetList.retrieved]

theorem sql_eq_null_iff {list : TargetList} : list.sql = "NULL" ↔ list.retrieved = [] := by
  rw [← expressions_eq_nil_iff, TargetList.sql]
  cases h : list.expressions with
  | nil => simp
  | cons e es =>
    have hunlike : Unlike e := unlike_of_mem_expressions (h ▸ List.mem_cons_self)
    simp [hunlike.intercalate_ne es]

theorem sql_eq_intercalate {list : TargetList} (h : list.retrieved ≠ []) :
    list.sql = ", ".intercalate list.expressions := by
  rw [ne_eq, ← expressions_eq_nil_iff] at h
  rw [TargetList.sql]
  split
  next hnil => exact (h hnil).elim
  next => rfl

theorem mem_wantedColumns {c : Column} :
    c ∈ t.wantedColumns wanted ↔ c ∈ t.columns.toList ∧ c.dropped = false ∧
      (Attribute.wholeRow ∈ wanted.numbers ∨ c.number ∈ wanted.numbers) := by
  simp [wantedColumns, AttributeSet.hasWholeRow, AttributeSet.contains_iff]

theorem targetList_eq_ok {list : TargetList} (h : t.targetList wanted = .ok list) :
    list = {
      columns := (t.wantedColumns wanted).map fun c => (c.number, t.identifierOf c)
      rowIdentity := wanted.hasRowIdentity } := by
  rw [targetList] at h
  split at h
  next => simp at h
  next => exact (Except.ok.inj h).symm

private theorem fetches_of_targetList {list : TargetList} (h : t.targetList wanted = .ok list) :
    t.Fetches wanted (t.wantedColumns wanted) list where
  ascending := t.ascending.filter _
  mem_iff _ := mem_wantedColumns
  retrieved := by
    rw [targetList_eq_ok h]
    simp [TargetList.retrieved, AttributeSet.hasRowIdentity, AttributeSet.contains_iff]
  sql hne := by
    have hcolumns : (fun c => (t.identifierOf c).sql) = t.columnSql := rfl
    rw [sql_eq_intercalate hne, targetList_eq_ok h, ← hcolumns]
    simp [TargetList.expressions, AttributeSet.hasRowIdentity, AttributeSet.contains_iff,
      Function.comp_def]
  null := sql_eq_null_iff

/-- A set of attributes is refused just if one of them cannot be fetched, and with the fault of one
in particular. Otherwise the target list fetches the columns that the set asks for in ascending
order, and then the row identity if the set has it; its text is NULL just if there are none. -/
theorem targetList_exact (t : ForeignTable) (wanted : AttributeSet) :
    ((∃ fault, t.targetList wanted = .error fault) ↔ ∃ n ∈ wanted.numbers, t.Unfetchable n) ∧
      (∀ fault, t.targetList wanted = .error fault ↔ t.RefusesSet wanted fault) ∧
      ∀ list, t.targetList wanted = .ok list → ∃ columns, t.Fetches wanted columns list :=
  ⟨exists_targetList_eq_error_iff, fun _ => targetList_eq_error_iff,
    fun _ h => ⟨_, fetches_of_targetList h⟩⟩

end ForeignTable

end RemoteFirebird
