import RemoteFirebird.ForeignTable.Statements
import RemoteFirebird.Proofs.Outcome
import RemoteFirebird.Proofs.Sorted
import RemoteFirebird.Proofs.Sql.ReadBack

/-!
# Generated statements read back

Whatever is asked of a foreign table, the text that is sent to the remote side is read as what was
asked for: the names of the table and of its columns are those on the remote side, and the operands
of the result are those that the attribute numbers of the statement announce, in their order.
-/

namespace RemoteFirebird.ForeignTable

open Sql

variable {t : ForeignTable}

/-- What a statement is generated from. -/
inductive Request
  | insert (targets : List Int) (returning : Option AttributeSet)
  | update (targets : List Int) (returning : Option AttributeSet)
  | delete (returning : Option AttributeSet)
  | select (wanted : AttributeSet)

def statement (t : ForeignTable) : Request → Except Fault Statement
  | .insert targets returning => t.insertStatement targets returning
  | .update targets returning => t.updateStatement targets returning
  | .delete returning => t.deleteStatement returning
  | .select wanted => t.selectStatement wanted

/-! ### What is asked for -/

/-- The name of a column on the remote side. -/
def columnName (t : ForeignTable) (n : Int) : Except Fault String := do
  return (← t.liveColumn n).name

/-- The operand that fetches an attribute. -/
def operand (t : ForeignTable) (n : Int) : Except Fault Operand :=
  if n = Attribute.rowIdentity then .ok .rowIdentity else do return .name (← t.columnName n)

/-- The operands that fetch some attributes, which is a single NULL if there are none. -/
def operands (t : ForeignTable) (ns : List Int) : Except Fault (List Operand) :=
  if ns = [] then .ok [.null] else ns.mapM t.operand

def returningOperands (t : ForeignTable) (returning : Option AttributeSet) (ns : List Int) :
    Except Fault (Option (List Operand)) :=
  if returning.any fun set => !set.isEmpty then do return some (← t.operands ns) else .ok none

/-- What a request asks the remote side for, if its result is to hold the attributes `ns`. -/
def reading (t : ForeignTable) (ns : List Int) : Request → Except Fault Reading
  | .insert targets returning => do
    let names ← targets.mapM t.columnName
    let row :=
      if targets = [] then none
      else some (names.map Operand.name, names.map fun _ => Operand.marker)
    return .insert t.name row (← t.returningOperands returning ns)
  | .update targets returning => do
    let names ← targets.mapM t.columnName
    return .update t.name (names.map fun name => (.name name, .marker)) (.rowIdentity, .marker)
      (← t.returningOperands returning ns)
  | .delete returning => do
    return .delete t.name (.rowIdentity, .marker) (← t.returningOperands returning ns)
  | .select _ => do return .select (← t.operands ns) t.name

/-! ### Columns -/

private theorem liveColumn_of_target {n : Int} {i : Identifier}
    (h : (do return t.identifierOf (← t.liveColumn n)) = Except.ok i) :
    t.columnName n = .ok i.text := by
  obtain ⟨c, hc, hi⟩ := bind_eq_ok.mp h
  obtain rfl := Except.ok.inj hi
  rw [columnName, hc]
  rfl

private theorem mapM_columnName {ns : List Int} {targets : List Identifier}
    (h : t.targets ns = .ok targets) :
    ns.mapM t.columnName = .ok (targets.map Identifier.text) := by
  rw [mapM_eq_ok, List.forall₂_map_right_iff]
  exact (mapM_eq_ok.mp h).imp fun n i hi => liveColumn_of_target hi

theorem targets_eq_nil_iff {ns : List Int} {targets : List Identifier}
    (h : t.targets ns = .ok targets) : targets = [] ↔ ns = [] := by
  have hlen := (mapM_eq_ok.mp h).length_eq
  rw [← List.length_eq_zero_iff, ← List.length_eq_zero_iff, hlen]

private theorem liveColumn_of_mem {c : Column} (h : c ∈ t.columns.toList)
    (hlive : c.dropped = false) :
    t.liveColumn c.number = .ok c := by
  have hfound : t.column? c.number = some c := Sorted.search_eq_some t.ascending h
  simp [liveColumn, hfound, hlive]

theorem number_ne_rowIdentity {c : Column} (h : c ∈ t.columns.toList) :
    c.number ≠ Attribute.rowIdentity := by
  have hpositive := t.positive c h
  rw [Attribute.rowIdentity]
  omega

private theorem operand_of_mem {c : Column} (h : c ∈ t.columns.toList) (hlive : c.dropped = false) :
    t.operand c.number = .ok (.name c.name) := by
  rw [operand, if_neg (number_ne_rowIdentity h), columnName, liveColumn_of_mem h hlive]
  rfl

private theorem operands_retrieved {wanted : AttributeSet} {list : TargetList}
    (h : t.targetList wanted = .ok list) : t.operands list.retrieved = .ok list.operands := by
  simp only [targetList] at h
  split at h
  next => simp at h
  next =>
    have hitems : List.Forall₂ (fun n i => t.operand n = .ok (Item.operand i)) list.retrieved
        list.items := by
      rw [← Except.ok.inj h]
      refine List.rel_append ?_ ?_
      · rw [List.map_map, List.map_map, List.forall₂_map_left_iff, List.forall₂_map_right_iff,
          List.forall₂_same]
        intro c hc
        simp only [wantedColumns, List.mem_filter, Bool.and_eq_true, Bool.not_eq_true'] at hc
        exact operand_of_mem hc.1 hc.2.1
      · cases wanted.hasRowIdentity with
        | true => exact .cons (if_pos rfl) .nil
        | false => exact .nil
    have hnil : list.retrieved = [] ↔ list.items = [] := by
      rw [← List.length_eq_zero_iff, ← List.length_eq_zero_iff, hitems.length_eq]
    rw [operands, TargetList.operands]
    by_cases hempty : list.items = []
    · rw [if_pos (hnil.mpr hempty), if_pos hempty]
    · rw [if_neg (mt hnil.mp hempty), if_neg hempty, mapM_eq_ok, List.forall₂_map_right_iff]
      exact hitems

private theorem returningOperands_retrieved {returning : Option AttributeSet}
    {list : Option TargetList} (h : t.returned returning = .ok list) :
    t.returningOperands returning ((list.map TargetList.retrieved).getD []) =
      .ok (list.map TargetList.operands) := by
  cases returning with
  | none =>
    obtain rfl : none = list := by simpa [returned] using h
    rfl
  | some set =>
    simp only [returned] at h
    split at h
    next hempty =>
      obtain rfl := Except.ok.inj h
      simp [returningOperands, hempty]
    next hempty =>
      cases hlist : t.targetList set with
      | error fault => simp [hlist, Functor.map, Except.map] at h
      | ok fetched =>
        obtain rfl : some fetched = list := by simpa [hlist, Functor.map, Except.map] using h
        simp [returningOperands, hempty, operands_retrieved hlist, Functor.map, Except.map]

/-! ### Statements -/

/-- All that a statement can be that is generated from a table. -/
inductive Generates (t : ForeignTable) : Request → Statement → Prop
  | insert {ns : List Int} {returning : Option AttributeSet} {targets : List Identifier}
    {list : Option TargetList} (hquery : t.query = none) (htargets : t.targets ns = .ok targets)
    (hlist : t.returned returning = .ok list) :
    Generates t (.insert ns returning) (.insert t.identifier targets list)
  | update {ns : List Int} {returning : Option AttributeSet} {targets : List Identifier}
    {list : Option TargetList} (hne : ns ≠ []) (hquery : t.query = none)
    (htargets : t.targets ns = .ok targets) (hlist : t.returned returning = .ok list) :
    Generates t (.update ns returning) (.update t.identifier targets list)
  | delete {returning : Option AttributeSet} {list : Option TargetList} (hquery : t.query = none)
    (hlist : t.returned returning = .ok list) :
    Generates t (.delete returning) (.delete t.identifier list)
  | select {wanted : AttributeSet} {list : TargetList} (hlist : t.targetList wanted = .ok list) :
    Generates t (.select wanted) (.select list t.source)

private theorem modifiable_eq_ok {table : Identifier} (h : t.modifiable = .ok table) :
    t.query = none ∧ table = t.identifier := by
  rw [modifiable] at h
  split at h
  next => simp at h
  next hquery => exact ⟨hquery, (Except.ok.inj h).symm⟩

theorem generates_of_statement {request : Request} {s : Statement}
    (h : t.statement request = .ok s) : t.Generates request s := by
  cases request with
  | insert ns returning =>
    obtain ⟨table, htable, h⟩ := bind_eq_ok.mp h
    obtain ⟨targets, htargets, h⟩ := bind_eq_ok.mp h
    obtain ⟨list, hlist, h⟩ := bind_eq_ok.mp h
    obtain rfl := Except.ok.inj h
    obtain ⟨hquery, rfl⟩ := modifiable_eq_ok htable
    exact .insert hquery htargets hlist
  | update ns returning =>
    simp only [statement, updateStatement] at h
    split at h
    next => simp at h
    next hne =>
      obtain ⟨table, htable, h⟩ := bind_eq_ok.mp h
      obtain ⟨targets, htargets, h⟩ := bind_eq_ok.mp h
      obtain ⟨list, hlist, h⟩ := bind_eq_ok.mp h
      obtain rfl := Except.ok.inj h
      obtain ⟨hquery, rfl⟩ := modifiable_eq_ok htable
      exact .update (by simpa using hne) hquery htargets hlist
  | delete returning =>
    obtain ⟨table, htable, h⟩ := bind_eq_ok.mp h
    obtain ⟨list, hlist, h⟩ := bind_eq_ok.mp h
    obtain rfl := Except.ok.inj h
    obtain ⟨hquery, rfl⟩ := modifiable_eq_ok htable
    exact .delete hquery hlist
  | select wanted =>
    obtain ⟨list, hlist, h⟩ := bind_eq_ok.mp h
    obtain rfl := Except.ok.inj h
    exact .select hlist

private theorem reading_of_statement {request : Request} {s : Statement} (hquery : t.query = none)
    (h : t.statement request = .ok s) :
    ∃ r, t.reading s.retrieved request = .ok r ∧ s.reading = some r := by
  cases generates_of_statement h with
  | insert _ htargets hlist =>
    refine ⟨_, ?_, rfl⟩
    simp only [reading, mapM_columnName htargets, Statement.retrieved, Statement.targetList?,
      returningOperands_retrieved hlist, insertedOperands, targets_eq_nil_iff htargets, identifier,
      bind, Except.bind, List.map_map]
    rfl
  | update hne _ htargets hlist =>
    have htargets' := mt (targets_eq_nil_iff htargets).mp hne
    refine ⟨_, ?_, if_neg htargets'⟩
    simp only [reading, mapM_columnName htargets, Statement.retrieved, Statement.targetList?,
      returningOperands_retrieved hlist, identifier, bind, Except.bind, List.map_map]
    rfl
  | delete _ hlist =>
    refine ⟨_, ?_, rfl⟩
    simp only [reading, Statement.retrieved, Statement.targetList?,
      returningOperands_retrieved hlist, identifier]
    rfl
  | select hlist =>
    have hsource : t.source = .table t.identifier := by simp only [source, hquery]
    rw [hsource]
    refine ⟨_, ?_, rfl⟩
    simp only [reading, Statement.retrieved, Statement.targetList?, Option.map_some,
      Option.getD_some, operands_retrieved hlist]
    rfl

/-- Reading the text of a generated statement recovers what was asked for: the kind of statement,
the names on the remote side, the parameters, and what the result holds. -/
theorem read?_statement {request : Request} {s : Statement} (hquery : t.query = none)
    (h : t.statement request = .ok s) :
    ∃ r, t.reading s.retrieved request = .ok r ∧ read? s.sql = some r := by
  obtain ⟨r, hr, hs⟩ := reading_of_statement hquery h
  exact ⟨r, hr, Statement.read?_sql hs⟩

/-- A table whose names have quotes and commas in them, and one of which is that of the row
identity. -/
def awkwardTable : ForeignTable where
  localName := "say \"x\", y"
  columns := #[{ number := 1, localName := "a, b = ?" }, { number := 2, localName := "rdb$db_key" },
    { number := 4, localName := "plain" }]
  ascending := by decide
  positive := by decide

def awkwardUpdate : Statement :=
  .update ⟨"say \"x\", y", false⟩ [⟨"rdb$db_key", false⟩, ⟨"a, b = ?", false⟩]
    (some ⟨[(1, ⟨"a, b = ?", false⟩), (4, ⟨"plain", false⟩)], true⟩)

theorem read?_statement_awkwardTable :
    awkwardTable.query = none ∧
      awkwardTable.statement (.update [2, 1] (some (.ofList [-1, 4, 1]))) = .ok awkwardUpdate ∧
      read? awkwardUpdate.sql = some (.update "say \"x\", y"
        [(.name "rdb$db_key", .marker), (.name "a, b = ?", .marker)] (.rowIdentity, .marker)
        (some [.name "a, b = ?", .name "plain", .rowIdentity])) := by
  have hupdate : awkwardTable.statement (.update [2, 1] (some (.ofList [-1, 4, 1]))) =
      .ok awkwardUpdate := by decide +kernel
  have hreading : awkwardTable.reading awkwardUpdate.retrieved
      (.update [2, 1] (some (.ofList [-1, 4, 1]))) = .ok (.update "say \"x\", y"
        [(.name "rdb$db_key", .marker), (.name "a, b = ?", .marker)] (.rowIdentity, .marker)
        (some [.name "a, b = ?", .name "plain", .rowIdentity])) := by decide +kernel
  obtain ⟨r, hr, hread⟩ := read?_statement rfl hupdate
  rw [hreading] at hr
  refine ⟨rfl, hupdate, ?_⟩
  rw [hread, Except.ok.inj hr]

end RemoteFirebird.ForeignTable
