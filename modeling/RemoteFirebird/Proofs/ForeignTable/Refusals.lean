import RemoteFirebird.Proofs.ForeignTable.ReadBack
import RemoteFirebird.Proofs.ForeignTable.TargetLists

/-!
# Which statements are refused

A modification goes through up to four checks, and is refused with what the first of them finds
wrong. A SELECT is refused just if its target list is. A statement that is not refused announces the
attributes that it fetches, and it has a RETURNING clause just if there is something to return.
-/

namespace RemoteFirebird.ForeignTable

open Sql

variable {t : ForeignTable} {fault : Fault} {n : Int} {ns : List Int}

/-! ### Columns -/

/-- The faults because of which a number is not that of a column with a name. -/
inductive Unnamed (t : ForeignTable) (n : Int) : Fault → Prop
  | missing (hlacks : t.Lacks n) : Unnamed t n (.missingAttribute t.localName n)
  | dropped {c : Column} (hmem : c ∈ t.columns.toList) (hn : c.number = n)
    (hdropped : c.dropped = true) : Unnamed t n (.droppedAttribute t.localName n)

private theorem liveColumn_eq_error_iff : t.liveColumn n = .error fault ↔ t.Unnamed n fault := by
  rw [liveColumn]
  constructor
  · intro h
    split at h
    next hnone =>
      obtain rfl := Except.error.inj h
      exact .missing (column?_eq_none_iff.mp hnone)
    next c hc =>
      obtain ⟨hmem, hn⟩ := column?_eq_some_iff.mp hc
      split at h
      next hdropped =>
        obtain rfl := Except.error.inj h
        exact .dropped hmem hn hdropped
      next => simp at h
  · intro h
    cases h with
    | missing hlacks => rw [column?_eq_none_iff.mpr hlacks]
    | dropped hmem hn hdropped => simp [column?_eq_some_iff.mpr ⟨hmem, hn⟩, hdropped]

private theorem columnName_eq_error_iff : t.columnName n = .error fault ↔ t.Unnamed n fault := by
  rw [columnName, bind_eq_error, liveColumn_eq_error_iff]
  simp [pure, Except.pure]

private theorem columnName_of_nonpos (h : n ≤ 0) :
    t.columnName n = .error (.missingAttribute t.localName n) :=
  columnName_eq_error_iff.mpr (.missing (lacks_of_nonpos h))

private theorem targets_eq_error_iff :
    t.targets ns = .error fault ↔ ∃ before n after, ns = before ++ n :: after ∧
      (∀ k ∈ before, ∃ name, t.columnName k = .ok name) ∧ t.columnName n = .error fault := by
  have herror : ∀ k, (do return t.identifierOf (← t.liveColumn k)) = .error fault ↔
      t.columnName k = .error fault := by
    intro k
    rw [columnName, bind_eq_error, bind_eq_error]
    simp [pure, Except.pure]
  have hok : ∀ k, (∃ i, (do return t.identifierOf (← t.liveColumn k)) = Except.ok i) ↔
      ∃ name, t.columnName k = .ok name := by
    intro k
    simp [columnName, bind_eq_ok, pure, Except.pure]
  rw [targets, mapM_eq_error]
  simp only [herror, hok]

/-! ### Modifications -/

/-- What a modification does to the rows of a table, whatever it returns. -/
inductive Modification
  | insert (targets : List Int)
  | update (targets : List Int)
  | delete

namespace Modification

/-- The columns that are set. -/
def targets : Modification → List Int
  | insert ns => ns
  | update ns => ns
  | delete => []

def complete : Modification → Identifier → List Identifier → Option TargetList → Statement
  | insert _, table, targets, list => .insert table targets list
  | update _, table, targets, list => .update table targets list
  | delete, table, _, list => .delete table list

end Modification

variable {m : Modification} {returning : Option AttributeSet}

def modification (t : ForeignTable) (m : Modification) (returning : Option AttributeSet) :
    Except Fault Statement :=
  match m with
  | .insert ns => t.insertStatement ns returning
  | .update ns => t.updateStatement ns returning
  | .delete => t.deleteStatement returning

/-- The attributes that a modification has to return. An empty set asks for nothing. -/
def asked (returning : Option AttributeSet) : Option AttributeSet :=
  returning.filter fun set => !set.isEmpty

theorem returned_eq : t.returned returning = (asked returning).mapM t.targetList := by
  cases returning with
  | none => rfl
  | some set =>
    cases hempty : set.isEmpty with
    | true =>
      have hasked : asked (some set) = none := by simp [asked, hempty]
      rw [returned, if_pos hempty, hasked]
      rfl
    | false =>
      have hasked : asked (some set) = some set := by simp [asked, hempty]
      rw [returned, if_neg (by simp [hempty]), hasked]
      rfl

private theorem modification_eq (h : m ≠ .update []) : t.modification m returning = do
    let table ← t.modifiable
    let targets ← t.targets m.targets
    let list ← (asked returning).mapM t.targetList
    return m.complete table targets list := by
  rw [← returned_eq]
  cases m with
  | insert ns => rfl
  | update ns =>
    have hne : ¬ns.isEmpty = true := by simpa using h
    rw [modification, updateStatement, if_neg hne]
    rfl
  | delete => rfl

/-! ### Checks -/

/-- What is checked of a modification. -/
inductive Check
  | change
  | query
  | targets
  | result

/-- The place of a check among all of them. -/
def Check.rank : Check → Nat
  | change => 0
  | query => 1
  | targets => 2
  | result => 3

/-- What a check finds wrong with a modification. -/
inductive Blocks (t : ForeignTable) (m : Modification) (returning : Option AttributeSet) :
    Check → Fault → Prop
  | change (h : m = .update []) : Blocks t m returning .change (.emptyUpdate t.localName)
  | query {text : String} (h : t.query = some text) :
    Blocks t m returning .query (.definedByQuery t.localName)
  | targets {before after : List Int} {n : Int} {fault : Fault}
    (htargets : m.targets = before ++ n :: after)
    (hbefore : ∀ k ∈ before, ∃ name, t.columnName k = .ok name)
    (hn : t.columnName n = .error fault) : Blocks t m returning .targets fault
  | result {set : AttributeSet} {fault : Fault} (hset : asked returning = some set)
    (hlist : t.targetList set = .error fault) : Blocks t m returning .result fault

private theorem blocks_change_iff :
    t.Blocks m returning .change fault ↔ m = .update [] ∧ fault = .emptyUpdate t.localName := by
  constructor
  · intro h
    cases h with
    | change h => exact ⟨h, rfl⟩
  · intro h
    obtain ⟨h, rfl⟩ := h
    exact .change h

private theorem blocks_query_iff :
    t.Blocks m returning .query fault ↔ t.modifiable = .error fault := by
  constructor
  · intro h
    cases h with
    | query h => rw [modifiable, h]
  · intro h
    rw [modifiable] at h
    split at h
    next text htext =>
      obtain rfl := Except.error.inj h
      exact .query htext
    next => simp at h

private theorem blocks_targets_iff :
    t.Blocks m returning .targets fault ↔ t.targets m.targets = .error fault := by
  rw [targets_eq_error_iff]
  constructor
  · intro h
    cases h with
    | targets htargets hbefore hn => exact ⟨_, _, _, htargets, hbefore, hn⟩
  · intro h
    obtain ⟨before, n, after, htargets, hbefore, hn⟩ := h
    exact .targets htargets hbefore hn

private theorem blocks_result_iff : t.Blocks m returning .result fault ↔
    (asked returning).mapM t.targetList = .error fault := by
  constructor
  · intro h
    cases h with
    | result hset hlist => rw [hset, mapM_some_eq_error, hlist]
  · intro h
    cases hset : asked returning with
    | none => simp [hset, pure, Except.pure] at h
    | some set =>
      rw [hset, mapM_some_eq_error] at h
      exact .result hset h

/-- A check finds one thing wrong at most. -/
theorem Blocks.unique {check : Check} {fault' : Fault} (h : t.Blocks m returning check fault)
    (h' : t.Blocks m returning check fault') : fault = fault' := by
  cases check with
  | change => rw [(blocks_change_iff.mp h).2, (blocks_change_iff.mp h').2]
  | query => exact Except.error.inj ((blocks_query_iff.mp h).symm.trans (blocks_query_iff.mp h'))
  | targets =>
    exact Except.error.inj ((blocks_targets_iff.mp h).symm.trans (blocks_targets_iff.mp h'))
  | result => exact Except.error.inj ((blocks_result_iff.mp h).symm.trans (blocks_result_iff.mp h'))

/-- Whether a check is the first to find something wrong with a modification. -/
def BlocksFirst (t : ForeignTable) (m : Modification) (returning : Option AttributeSet)
    (check : Check) (fault : Fault) : Prop :=
  t.Blocks m returning check fault ∧
    ∀ earlier : Check, earlier.rank < check.rank → ∀ fault', ¬t.Blocks m returning earlier fault'

theorem BlocksFirst.unique {check check' : Check} {fault' : Fault}
    (h : t.BlocksFirst m returning check fault) (h' : t.BlocksFirst m returning check' fault') :
    fault = fault' := by
  have hle : ¬check.rank < check'.rank := fun hlt => h'.2 check hlt fault h.1
  have hge : ¬check'.rank < check.rank := fun hlt => h.2 check' hlt fault' h'.1
  have hrank : check = check' := by
    cases check <;> cases check' <;> simp [Check.rank] at hle hge ⊢
  subst hrank
  exact h.1.unique h'.1

private theorem exists_blocksFirst (h : t.modification m returning = .error fault) :
    ∃ check, t.BlocksFirst m returning check fault := by
  by_cases hchange : m = .update []
  · subst hchange
    obtain rfl := Except.error.inj h
    exact ⟨.change, .change rfl, by simp [Check.rank]⟩
  have hnochange : ∀ fault', ¬t.Blocks m returning .change fault' := fun fault' hblocks =>
    hchange (blocks_change_iff.mp hblocks).1
  rw [modification_eq hchange] at h
  rcases bind_eq_error.mp h with hquery | ⟨table, htable, h⟩
  · refine ⟨.query, blocks_query_iff.mpr hquery, fun earlier hlt => ?_⟩
    cases earlier with
    | change => exact hnochange
    | _ => simp [Check.rank] at hlt
  have hnoquery : ∀ fault', ¬t.Blocks m returning .query fault' := by
    simp [blocks_query_iff, htable]
  rcases bind_eq_error.mp h with htargets | ⟨targets, htargets, h⟩
  · refine ⟨.targets, blocks_targets_iff.mpr htargets, fun earlier hlt => ?_⟩
    cases earlier with
    | change => exact hnochange
    | query => exact hnoquery
    | _ => simp [Check.rank] at hlt
  have hnotargets : ∀ fault', ¬t.Blocks m returning .targets fault' := by
    simp [blocks_targets_iff, htargets]
  rcases bind_eq_error.mp h with hresult | ⟨list, hlist, h⟩
  · refine ⟨.result, blocks_result_iff.mpr hresult, fun earlier hlt => ?_⟩
    cases earlier with
    | change => exact hnochange
    | query => exact hnoquery
    | targets => exact hnotargets
    | result => simp [Check.rank] at hlt
  · simp [pure, Except.pure] at h

private theorem not_blocks_of_modification {s : Statement} (h : t.modification m returning = .ok s)
    (check : Check) (fault : Fault) : ¬t.Blocks m returning check fault := by
  by_cases hchange : m = .update []
  · subst hchange
    simp [modification, updateStatement] at h
  rw [modification_eq hchange] at h
  obtain ⟨table, htable, h⟩ := bind_eq_ok.mp h
  obtain ⟨targets, htargets, h⟩ := bind_eq_ok.mp h
  obtain ⟨list, hlist, h⟩ := bind_eq_ok.mp h
  cases check with
  | change => simp [blocks_change_iff, hchange]
  | query => simp [blocks_query_iff, htable]
  | targets => simp [blocks_targets_iff, htargets]
  | result => simp [blocks_result_iff, hlist]

private theorem modification_eq_error_iff : t.modification m returning = .error fault ↔
    ∃ check, t.BlocksFirst m returning check fault := by
  constructor
  · exact exists_blocksFirst
  · intro h
    obtain ⟨check, hcheck⟩ := h
    cases hm : t.modification m returning with
    | ok s => exact (not_blocks_of_modification hm check fault hcheck.1).elim
    | error fault' =>
      obtain ⟨check', hcheck'⟩ := exists_blocksFirst hm
      rw [hcheck.unique hcheck']

private theorem exists_modification_eq_error_iff :
    (∃ fault, t.modification m returning = .error fault) ↔
    ∃ check fault, t.Blocks m returning check fault := by
  constructor
  · intro h
    obtain ⟨fault, hfault⟩ := h
    obtain ⟨check, hcheck⟩ := exists_blocksFirst hfault
    exact ⟨check, fault, hcheck.1⟩
  · intro h
    obtain ⟨check, fault, hblocks⟩ := h
    cases hm : t.modification m returning with
    | ok s => exact (not_blocks_of_modification hm check fault hblocks).elim
    | error fault' => exact ⟨fault', rfl⟩

/-! ### Results -/

/-- What a statement says it returns, apart from a SELECT. -/
def returnedBy : Reading → Option (List Operand)
  | .insert _ _ returning => returning
  | .update _ _ _ returning => returning
  | .delete _ _ returning => returning
  | .select _ _ => none

/-- Whether a statement fetches what a target list says, in its own words. -/
structure Selects (t : ForeignTable) (list : TargetList) (s : Statement) : Prop where
  sql : s.sql = "SELECT " ++ list.sql ++ " FROM " ++ t.source.sql
  retrieved : s.retrieved = list.retrieved

/-- Whether a modification returns what is asked for: the target list of a SELECT behind what is
generated if nothing is to be returned. -/
structure Returns (t : ForeignTable) (m : Modification) (returning : Option AttributeSet)
    (s : Statement) : Prop where
  nothing : asked returning = none → t.modification m none = .ok s ∧ s.retrieved = []
  list : ∀ set, asked returning = some set → ∃ base list selected,
    t.modification m none = .ok base ∧ t.targetList set = .ok list ∧
      s.sql = base.sql ++ " RETURNING " ++ list.sql ∧ s.retrieved = list.retrieved ∧
      t.selectStatement set = .ok selected ∧ t.Selects list selected
  clause : ∃ r, read? s.sql = some r ∧ ((returnedBy r).isSome ↔ (asked returning).isSome)

private theorem selectStatement_eq_error_iff {wanted : AttributeSet} :
    t.selectStatement wanted = .error fault ↔ t.targetList wanted = .error fault := by
  rw [selectStatement, bind_eq_error]
  simp [pure, Except.pure]

private theorem exists_selects {wanted : AttributeSet} {s : Statement}
    (h : t.selectStatement wanted = .ok s) :
    ∃ list, t.targetList wanted = .ok list ∧ t.Selects list s := by
  obtain ⟨list, hlist, h⟩ := bind_eq_ok.mp h
  obtain rfl := Except.ok.inj h
  exact ⟨list, hlist, rfl, rfl⟩

private theorem sql_complete (m : Modification) (table : Identifier) (targets : List Identifier)
    (list : Option TargetList) : (m.complete table targets list).sql =
      (m.complete table targets none).sql ++ Statement.returningClause list := by
  have hnone : ∀ text : String, text ++ Statement.returningClause none = text := fun text =>
    String.append_empty
  -- The equations of `Statement.sql` are slow to generate.
  cases m <;> delta Modification.complete Statement.sql <;> simp only [hnone]

private theorem targetList?_complete (m : Modification) (table : Identifier)
    (targets : List Identifier)
    (list : Option TargetList) : (m.complete table targets list).targetList? = list := by
  cases m <;> rfl

private theorem exists_read?_complete {targets : List Identifier} (h : m ≠ .update [])
    (htargets : t.targets m.targets = .ok targets) (table : Identifier)
    (list : Option TargetList) : ∃ r, read? (m.complete table targets list).sql = some r ∧
      returnedBy r = list.map TargetList.operands := by
  have hreading : ∃ r, (m.complete table targets list).reading = some r ∧
      returnedBy r = list.map TargetList.operands := by
    cases m with
    | insert ns => exact ⟨_, rfl, rfl⟩
    | update ns =>
      have hne : targets ≠ [] := by
        rw [ne_eq, targets_eq_nil_iff htargets]
        simpa [Modification.targets] using h
      exact ⟨_, if_neg hne, rfl⟩
    | delete => exact ⟨_, rfl, rfl⟩
  obtain ⟨r, hr, hreturned⟩ := hreading
  exact ⟨r, Statement.read?_sql hr, hreturned⟩

private theorem returns_of_modification {s : Statement} (h : t.modification m returning = .ok s) :
    t.Returns m returning s := by
  have hchange : m ≠ .update [] := fun heq =>
    not_blocks_of_modification h .change _ (.change heq)
  rw [modification_eq hchange] at h
  obtain ⟨table, htable, h⟩ := bind_eq_ok.mp h
  obtain ⟨targets, htargets, h⟩ := bind_eq_ok.mp h
  obtain ⟨list, hlist, h⟩ := bind_eq_ok.mp h
  obtain rfl := Except.ok.inj h
  have hbase : t.modification m none = .ok (m.complete table targets none) := by
    rw [modification_eq hchange, htable, htargets]
    rfl
  constructor
  case nothing =>
    intro hnone
    obtain rfl : none = list := by simpa [hnone, pure, Except.pure] using hlist
    exact ⟨hbase, by rw [Statement.retrieved, targetList?_complete]; rfl⟩
  case list =>
    intro set hset
    rw [hset, mapM_some_eq_ok] at hlist
    obtain ⟨fetched, hfetched, rfl⟩ := hlist
    have hselect : t.selectStatement set = .ok (.select fetched t.source) := by
      rw [selectStatement, hfetched]
      rfl
    refine ⟨_, fetched, _, hbase, hfetched, ?_, ?_, hselect, rfl, rfl⟩
    · rw [sql_complete, Statement.returningClause, String.append_assoc]
    · rw [Statement.retrieved, targetList?_complete]
      rfl
  case clause =>
    obtain ⟨r, hr, hreturned⟩ := exists_read?_complete hchange htargets table list
    refine ⟨r, hr, ?_⟩
    rw [hreturned, Option.isSome_map]
    cases hset : asked returning with
    | none =>
      obtain rfl : none = list := by simpa [hset, pure, Except.pure] using hlist
      simp
    | some set =>
      rw [hset, mapM_some_eq_ok] at hlist
      obtain ⟨fetched, -, rfl⟩ := hlist
      simp

/-- A modification is refused just if one of the checks finds something wrong, and with what the
first of them finds; otherwise it returns what is asked for. A SELECT is refused just if its target
list is, and otherwise fetches that. A number is that of a column with a name unless no column has
it, as is the case for all that are not positive, or the column is dropped. -/
theorem refused_by_first_check (t : ForeignTable) :
    (∀ m returning,
      ((∃ fault, t.modification m returning = .error fault) ↔
        ∃ check fault, t.Blocks m returning check fault) ∧
      (∀ fault, t.modification m returning = .error fault ↔
        ∃ check, t.BlocksFirst m returning check fault) ∧
      ∀ s, t.modification m returning = .ok s → t.Returns m returning s) ∧
    (∀ wanted,
      (∀ fault, t.selectStatement wanted = .error fault ↔ t.targetList wanted = .error fault) ∧
      ∀ s, t.selectStatement wanted = .ok s →
        ∃ list, t.targetList wanted = .ok list ∧ t.Selects list s) ∧
    (∀ n fault, t.columnName n = .error fault ↔ t.Unnamed n fault) ∧
    ∀ n ≤ 0, t.columnName n = .error (.missingAttribute t.localName n) :=
  ⟨fun _ _ => ⟨exists_modification_eq_error_iff, fun _ => modification_eq_error_iff,
      fun _ h => returns_of_modification h⟩,
    fun _ => ⟨fun _ => selectStatement_eq_error_iff, fun _ h => exists_selects h⟩,
    fun _ _ => columnName_eq_error_iff, fun _ h => columnName_of_nonpos h⟩

end RemoteFirebird.ForeignTable
