import RemoteFirebird.Proofs.Sql.Tokens
import RemoteFirebird.Sql.Statement

/-!
# Statements read back

The text of a statement is read as what the statement says. For each part of a statement there is
the list of its tokens, a lemma that the text of the part is read as these tokens, and a lemma that
the tokens are read as the operands of the part, whatever follows.
-/

namespace RemoteFirebird.Sql

open Scan Reading

variable {rest : List Token}

/-! ### Lists of operands -/

private theorem operands?_intercalate {α : Type} {f : α → Token} {g : α → Operand}
    (h : ∀ x, (f x).operand? = some (g x)) {xs : List α} (hne : xs ≠ []) (rest : List Token)
    (hrest : rest.head? ≠ some .comma) :
    operands? (List.intercalate [.comma] (xs.map fun x => [f x]) ++ rest) =
      some (xs.map g, rest) := by
  induction xs with
  | nil => exact (hne rfl).elim
  | cons x xs ih =>
    cases xs with
    | nil =>
      cases rest with
      | nil => simp [operands?, h]
      | cons t rest =>
        have ht : t ≠ .comma := by simpa using hrest
        simp [operands?, h, ht]
    | cons y xs =>
      have htail := ih (by simp)
      simp only [List.map_cons] at htail ⊢
      rw [List.intercalate_cons_cons, List.append_assoc, List.append_assoc]
      simp only [List.singleton_append, operands?, h, htail]
      rfl

private theorem changes?_intercalate {α : Type} {f : α → Token} {g : α → Operand}
    (h : ∀ x, (f x).operand? = some (g x)) {xs : List α} (hne : xs ≠ [])
    (hrest : rest.head? ≠ some .comma) :
    changes? (List.intercalate [.comma] (xs.map fun x => [f x, .equals, .marker]) ++ rest) =
      some (xs.map fun x => (g x, .marker), rest) := by
  have hmarker : Token.marker.operand? = some .marker := rfl
  induction xs with
  | nil => exact (hne rfl).elim
  | cons x xs ih =>
    cases xs with
    | nil =>
      cases rest with
      | nil => simp [changes?, h, hmarker]
      | cons t rest =>
        have ht : t ≠ .comma := by simpa using hrest
        simp [changes?, h, hmarker, ht]
    | cons y xs =>
      have htail := ih (by simp)
      simp only [List.map_cons] at htail ⊢
      rw [List.intercalate_cons_cons, List.append_assoc, List.append_assoc]
      simp only [List.cons_append, List.nil_append, changes?, h, hmarker, htail]
      rfl

/-! ### Target lists -/

/-- What a target list fetches with one of its expressions. -/
inductive Item
  | column (name : Identifier)
  | rowIdentity

namespace Item

def sql : Item → String
  | column name => name.sql
  | rowIdentity => Attribute.rowIdentityColumn

def token : Item → Token
  | column name => name.token
  | rowIdentity => .word Attribute.rowIdentityColumn

def operand : Item → Operand
  | column name => .name name.text
  | rowIdentity => .rowIdentity

theorem reads (i : Item) : Reads i.sql [i.token] := by
  cases i with
  | column name => exact name.reads
  | rowIdentity =>
    have hrun : between.run Attribute.rowIdentityColumn.toList =
        some ([], .word Attribute.rowIdentityColumn.toList) := by decide
    exact Reads.of_run hrun (by decide)

theorem operand?_token (i : Item) : i.token.operand? = some i.operand := by
  cases i with
  | column name => exact name.operand?_token
  | rowIdentity => decide

end Item

namespace TargetList

def items (t : TargetList) : List Item :=
  t.columns.map (fun c => .column c.2) ++ if t.rowIdentity then [.rowIdentity] else []

/-- The operands of the list, which is a single NULL if nothing is fetched. -/
def operands (t : TargetList) : List Operand :=
  if t.items = [] then [.null] else t.items.map Item.operand

def tokens (t : TargetList) : List Token :=
  if t.items = [] then [.word "NULL"]
  else List.intercalate [.comma] (t.items.map fun i => [i.token])

private theorem expressions_eq (t : TargetList) : t.expressions = t.items.map Item.sql := by
  cases h : t.rowIdentity <;> simp [expressions, items, h, Item.sql, Function.comp_def]

theorem reads (t : TargetList) : Reads t.sql t.tokens := by
  rw [sql, expressions_eq, tokens]
  cases h : t.items with
  | nil =>
    have hrun : between.run "NULL".toList = some ([], .word "NULL".toList) := by decide
    exact Reads.of_run hrun (by decide)
  | cons i is => exact Reads.intercalate Item.reads (i :: is)

private theorem operands?_tokens (t : TargetList) (rest : List Token)
    (hrest : rest.head? ≠ some .comma) :
    operands? (t.tokens ++ rest) = some (t.operands, rest) := by
  by_cases h : t.items = []
  · rw [tokens, operands, if_pos h, if_pos h]
    cases rest with
    | nil => rfl
    | cons u rest =>
      have hu : u ≠ .comma := by simpa using hrest
      simp [operands?, hu, Token.operand?]
  · rw [tokens, operands, if_neg h, if_neg h]
    exact operands?_intercalate Item.operand?_token h rest hrest

end TargetList

/-! ### Clauses -/

def filterTokens : List Token :=
  [.word "WHERE", .word Attribute.rowIdentityColumn, .equals, .marker]

private theorem reads_rowFilter : Reads Statement.rowFilter filterTokens :=
  Reads.fixed (by decide)

private theorem condition?_tokens :
    condition? (filterTokens ++ rest) = some ((.rowIdentity, .marker), rest) := by
  have hkey : (Token.word Attribute.rowIdentityColumn).operand? = some .rowIdentity := by decide
  have hmarker : Token.marker.operand? = some .marker := rfl
  simp only [filterTokens, List.cons_append, List.nil_append, condition?, hkey, hmarker]
  rfl

def returningTokens : Option TargetList → List Token
  | some list => .word "RETURNING" :: list.tokens
  | none => []

private theorem reads_returningClause (returning : Option TargetList) :
    Reads (Statement.returningClause returning) (returningTokens returning) := by
  cases returning with
  | none => exact .empty
  | some list =>
    have hword : between.run " RETURNING ".toList = some ([.word "RETURNING"], .between) := by
      decide
    exact Reads.behind hword list.reads

private theorem sealed_returningClause (returning : Option TargetList) :
    Sealed (Statement.returningClause returning).toList := by
  cases returning with
  | none => decide
  | some list => exact sealed_append (by decide) (by decide)

private theorem returning?_tokens (returning : Option TargetList) :
    returning? (returningTokens returning) = some (returning.map TargetList.operands) := by
  cases returning with
  | none => rfl
  | some list =>
    have hlist := list.operands?_tokens [] (by simp)
    rw [List.append_nil] at hlist
    simp only [returningTokens, returning?, hlist]
    rfl

/-- The row of an INSERT with its parameters, if it has targets. -/
def insertedOperands (targets : List Identifier) : Option (List Operand × List Operand) :=
  if targets = [] then none
  else some (targets.map fun t => .name t.text, targets.map fun _ => .marker)

def insertedTokens (targets : List Identifier) : List Token :=
  if targets = [] then [.word "DEFAULT", .word "VALUES"]
  else [.leftParen] ++ (List.intercalate [.comma] (targets.map fun t => [t.token]) ++
    ([.rightParen, .word "VALUES", .leftParen] ++
      (List.intercalate [.comma] (targets.map fun _ => [.marker]) ++ [.rightParen])))

private theorem reads_insertedRow (targets : List Identifier) :
    Reads (Statement.insertedRow targets) (insertedTokens targets) := by
  cases targets with
  | nil =>
    have hrun : between.run " DEFAULT VALUES".toList =
        some ([.word "DEFAULT"], .word "VALUES".toList) := by decide
    exact Reads.of_run hrun (by decide)
  | cons t ts =>
    have hopen : between.run " (".toList = some ([.leftParen], .between) := by decide
    have hvalues : between.run ") VALUES (".toList =
        some ([.rightParen, .word "VALUES", .leftParen], .between) := by decide
    have hclose : between.run ")".toList = some ([.rightParen], .between) := by decide
    have hmarker : between.run "?".toList = some ([.marker], .between) := by decide
    have hcolumns := Reads.intercalate Identifier.reads (t :: ts)
    have hparameters := Reads.intercalate (fun _ => Reads.fixed hmarker) (t :: ts)
    rw [insertedTokens, if_neg (by simp)]
    simp only [Statement.insertedRow, String.append_assoc]
    refine Reads.behind hopen (hcolumns.append (.behind hvalues ?_) ?_)
    · exact hparameters.append (.fixed hclose) (by decide)
    · exact sealed_append (by decide) (by decide)

private theorem sealed_insertedRow (targets : List Identifier) :
    Sealed (Statement.insertedRow targets).toList := by
  cases targets with
  | nil => decide
  | cons t ts =>
    simp only [Statement.insertedRow, String.append_assoc]
    exact sealed_append (by decide) (by decide)

private theorem row?_tokens (targets : List Identifier) :
    row? (insertedTokens targets ++ rest) = some (insertedOperands targets, rest) := by
  by_cases h : targets = []
  · rw [insertedTokens, insertedOperands, if_pos h, if_pos h]
    rfl
  · have hcolumns := operands?_intercalate (f := Identifier.token) (g := fun t => .name t.text)
      Identifier.operand?_token h
      (.rightParen :: .word "VALUES" :: .leftParen ::
        (List.intercalate [.comma] (targets.map fun _ => [.marker]) ++ (.rightParen :: rest)))
      (by simp)
    have hparameters := operands?_intercalate (f := fun _ : Identifier => .marker)
      (g := fun _ => .marker) (fun _ => rfl) h (.rightParen :: rest) (by simp)
    rw [insertedTokens, insertedOperands, if_neg h, if_neg h]
    unfold row?
    simp only [List.append_assoc, List.cons_append, List.nil_append, hcolumns,
      Option.bind_eq_bind, Option.bind_some, hparameters, Option.pure_def]

def changeTokens (targets : List Identifier) : List Token :=
  List.intercalate [.comma] (targets.map fun t => [t.token, .equals, .marker])

private theorem reads_changes (targets : List Identifier) :
    Reads (", ".intercalate (targets.map fun t => t.sql ++ " = ?")) (changeTokens targets) := by
  have hassign : between.run " = ?".toList = some ([.equals, .marker], .between) := by decide
  exact Reads.intercalate (fun t => t.reads.append (.fixed hassign) (by decide)) targets

private theorem changes?_tokens {targets : List Identifier} (hne : targets ≠ [])
    (returning : Option TargetList) :
    changes? (changeTokens targets ++ (filterTokens ++ returningTokens returning)) =
      some (targets.map fun t => (.name t.text, .marker),
        filterTokens ++ returningTokens returning) :=
  changes?_intercalate Identifier.operand?_token hne (by simp [filterTokens])

/-! ### Statements -/

/-- What a statement on a table says. An UPDATE has to change something. -/
def Statement.reading : Statement → Option Reading
  | insert table targets returning =>
    some (.insert table.text (insertedOperands targets) (returning.map TargetList.operands))
  | update table targets returning =>
    if targets = [] then none
    else some (.update table.text (targets.map fun t => (.name t.text, .marker))
      (.rowIdentity, .marker) (returning.map TargetList.operands))
  | delete table returning =>
    some (.delete table.text (.rowIdentity, .marker) (returning.map TargetList.operands))
  | select list (.table name) => some (.select list.operands name.text)
  | select _ (.query _) => none

private theorem read?_of_reads {text : String} {ts : List Token} (h : Reads text ts) :
    read? text = ofTokens? ts := by
  rw [read?, h.tokens?, Option.bind_some]

/-- The text of a statement is read as what the statement says. -/
theorem Statement.read?_sql {s : Statement} {r : Reading} (h : s.reading = some r) :
    read? s.sql = some r := by
  rw [← h]
  cases s with
  | insert table targets returning =>
    have hinsert : between.run "INSERT INTO ".toList =
        some ([.word "INSERT", .word "INTO"], .between) := by decide
    have hrow := (reads_insertedRow targets).append (reads_returningClause returning)
      (sealed_returningClause returning)
    have hreads := Reads.behind hinsert (table.reads.append hrow
      ((sealed_insertedRow targets).append_string (sealed_returningClause returning)))
    unfold sql
    simp only [String.append_assoc]
    rw [read?_of_reads hreads]
    unfold ofTokens?
    simp only [List.cons_append, List.nil_append, table.name?_token, row?_tokens,
      returning?_tokens, Option.bind_eq_bind, Option.bind_some, Option.pure_def, reading]
  | update table targets returning =>
    have hne : targets ≠ [] := by
      intro heq
      subst heq
      simp [reading] at h
    have hupdate : between.run "UPDATE ".toList = some ([.word "UPDATE"], .between) := by decide
    have hset : between.run " SET ".toList = some ([.word "SET"], .between) := by decide
    have hfilter := reads_rowFilter.append (reads_returningClause returning)
      (sealed_returningClause returning)
    have hchanges := (reads_changes targets).append hfilter (sealed_append (by decide) (by decide))
    have hreads := Reads.behind hupdate (table.reads.append (.behind hset hchanges)
      (sealed_append (by decide) (by decide)))
    unfold sql
    simp only [String.append_assoc]
    rw [read?_of_reads hreads]
    unfold ofTokens?
    simp only [List.cons_append, List.nil_append, table.name?_token,
      changes?_tokens hne, condition?_tokens, returning?_tokens, Option.bind_eq_bind,
      Option.bind_some, Option.pure_def, reading, if_neg hne]
  | delete table returning =>
    have hdelete : between.run "DELETE FROM ".toList =
        some ([.word "DELETE", .word "FROM"], .between) := by decide
    have hfilter := reads_rowFilter.append (reads_returningClause returning)
      (sealed_returningClause returning)
    have hreads := Reads.behind hdelete (table.reads.append hfilter
      (sealed_append (by decide) (by decide)))
    unfold sql
    simp only [String.append_assoc]
    rw [read?_of_reads hreads]
    unfold ofTokens?
    simp only [List.cons_append, List.nil_append, table.name?_token,
      condition?_tokens, returning?_tokens, Option.bind_eq_bind, Option.bind_some,
      Option.pure_def, reading]
  | select list source =>
    cases source with
    | query text => simp [reading] at h
    | table name =>
      have hselect : between.run "SELECT ".toList = some ([.word "SELECT"], .between) := by decide
      have hfrom : between.run " FROM ".toList = some ([.word "FROM"], .between) := by decide
      have hreads := Reads.behind hselect (list.reads.append (.behind hfrom name.reads)
        (sealed_append (by decide) (by decide)))
      have hlist := list.operands?_tokens [.word "FROM", name.token] (by simp)
      unfold sql
      simp only [From.sql, String.append_assoc]
      rw [read?_of_reads hreads]
      unfold ofTokens?
      simp only [List.cons_append, List.nil_append, hlist, name.name?_token,
        Option.bind_eq_bind, Option.bind_some, Option.pure_def, reading]

end RemoteFirebird.Sql
