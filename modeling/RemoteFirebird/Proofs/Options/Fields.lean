import RemoteFirebird.Options.Column
import RemoteFirebird.Options.Table
import RemoteFirebird.Options.UserMapping
import RemoteFirebird.Proofs.Options.WellFormed

/-!
# Fields of typed views

A typed view has a field for each option of its scope, and putting an option into the view changes
that field alone. So a list that passes the check is read without a fault, each of its pairs ends up
in the field of its name, and the other fields keep their defaults. Nothing else is in a view, which
is why the order of the pairs does not matter.
-/

namespace RemoteFirebird.Options

/-- A field of a typed view, with the option that is put into it. -/
structure Field (α : Type) where
  name : String
  {β : Type}
  /-- How the value of the option is read. -/
  read : String → Except Fault β
  get : α → β
  set : β → α → α

/-- A typed view that consists of one field for each option of its scope. -/
class Fielded (α : Type) [View α] where
  fields : List (Field α)
  names_fields : fields.map Field.name = (View.scope α).names
  cause?_read : ∀ f ∈ fields, ∀ value,
    Value.cause? (f.read value) = Value.fault? (kindNamed f.name) f.name value
  put_eq : ∀ f ∈ fields, ∀ (a : α) value,
    View.put a ⟨f.name, value⟩ = (fun b => f.set b a) <$> f.read value
  get_set : ∀ f ∈ fields, ∀ b a, f.get (f.set b a) = b
  get_set_of_ne : ∀ f ∈ fields, ∀ g ∈ fields, f.name ≠ g.name →
    ∀ b a, g.get (f.set b a) = g.get a
  ext : ∀ a b, (∀ f ∈ fields, f.get a = f.get b) → a = b

/-! ### The four views -/

/-- The reader of an option that is free text. -/
def text (value : String) : Except Fault (Option String) :=
  .ok (some value)

/-- The reader of an option that has no default. -/
def optional {β : Type} (read : String → Except Fault β) (value : String) :
    Except Fault (Option β) :=
  some <$> read value

private theorem cause?_text (value : String) : Value.cause? (text value) = none := rfl

private theorem cause?_optional {β : Type} (read : String → Except Fault β) (value : String) :
    Value.cause? (optional read value) = Value.cause? (read value) := by
  rw [optional]
  cases read value <;> rfl

instance : Fielded Server where
  fields := [
    ⟨"address", text, Server.address, fun b s => { s with address := b }⟩,
    ⟨"port", Value.port, Server.port, fun b s => { s with port := b }⟩,
    ⟨"database", text, Server.database, fun b s => { s with database := b }⟩,
    ⟨"disable_pushdowns", Value.flag "disable_pushdowns", Server.disablePushdowns,
      fun b s => { s with disablePushdowns := b }⟩,
    ⟨"updatable", optional (Value.flag "updatable"), Server.updatable,
      fun b s => { s with updatable := b }⟩,
    ⟨"quote_identifiers", Value.flag "quote_identifiers", Server.quoteIdentifiers,
      fun b s => { s with quoteIdentifiers := b }⟩,
    ⟨"implicit_bool_type", Value.flag "implicit_bool_type", Server.implicitBoolType,
      fun b s => { s with implicitBoolType := b }⟩,
    ⟨"batch_size", optional Value.batchSize, Server.batchSize,
      fun b s => { s with batchSize := b }⟩,
    ⟨"truncatable", optional (Value.flag "truncatable"), Server.truncatable,
      fun b s => { s with truncatable := b }⟩]
  names_fields := rfl
  cause?_read := by
    simp [cause?_text, cause?_optional, Value.fault?, kindNamed, flagNames]
  put_eq := by
    simp only [List.forall_mem_cons, optional, map_eq_pure_bind, bind_assoc, pure_bind]
    exact ⟨fun _ _ => rfl, fun _ _ => rfl, fun _ _ => rfl, fun _ _ => rfl, fun _ _ => rfl,
      fun _ _ => rfl, fun _ _ => rfl, fun _ _ => rfl, fun _ _ => rfl, by simp⟩
  get_set := by simp
  get_set_of_ne := by simp
  ext := by
    rintro ⟨⟩ ⟨⟩
    simp

instance : Fielded UserMapping where
  fields := [
    ⟨"username", text, UserMapping.username, fun b u => { u with username := b }⟩,
    ⟨"password", text, UserMapping.password, fun b u => { u with password := b }⟩]
  names_fields := rfl
  cause?_read := by
    simp [cause?_text, Value.fault?, kindNamed, flagNames]
  put_eq := by
    simp only [List.forall_mem_cons]
    exact ⟨fun _ _ => rfl, fun _ _ => rfl, by simp⟩
  get_set := by simp
  get_set_of_ne := by simp
  ext := by
    rintro ⟨⟩ ⟨⟩
    simp

instance : Fielded Table where
  fields := [
    ⟨"query", text, Table.query, fun b t => { t with query := b }⟩,
    ⟨"table_name", text, Table.tableName, fun b t => { t with tableName := b }⟩,
    ⟨"updatable", optional (Value.flag "updatable"), Table.updatable,
      fun b t => { t with updatable := b }⟩,
    ⟨"estimated_row_count", optional Value.rowCount, Table.estimatedRowCount,
      fun b t => { t with estimatedRowCount := b }⟩,
    ⟨"quote_identifier", optional (Value.flag "quote_identifier"), Table.quoteIdentifier,
      fun b t => { t with quoteIdentifier := b }⟩,
    ⟨"batch_size", optional Value.batchSize, Table.batchSize, fun b t => { t with batchSize := b }⟩,
    ⟨"truncatable", optional (Value.flag "truncatable"), Table.truncatable,
      fun b t => { t with truncatable := b }⟩]
  names_fields := rfl
  cause?_read := by
    simp [cause?_text, cause?_optional, Value.fault?, kindNamed, flagNames]
  put_eq := by
    simp only [List.forall_mem_cons, optional, map_eq_pure_bind, bind_assoc, pure_bind]
    exact ⟨fun _ _ => rfl, fun _ _ => rfl, fun _ _ => rfl, fun _ _ => rfl, fun _ _ => rfl,
      fun _ _ => rfl, fun _ _ => rfl, by simp⟩
  get_set := by simp
  get_set_of_ne := by simp
  ext := by
    rintro ⟨⟩ ⟨⟩
    simp

instance : Fielded Column where
  fields := [
    ⟨"column_name", text, Column.columnName, fun b c => { c with columnName := b }⟩,
    ⟨"quote_identifier", optional (Value.flag "quote_identifier"), Column.quoteIdentifier,
      fun b c => { c with quoteIdentifier := b }⟩,
    ⟨"implicit_bool_type", Value.flag "implicit_bool_type", Column.implicitBoolType,
      fun b c => { c with implicitBoolType := b }⟩]
  names_fields := rfl
  cause?_read := by
    simp [cause?_text, cause?_optional, Value.fault?, kindNamed, flagNames]
  put_eq := by
    simp only [List.forall_mem_cons, optional, map_eq_pure_bind, bind_assoc, pure_bind]
    exact ⟨fun _ _ => rfl, fun _ _ => rfl, fun _ _ => rfl, by simp⟩
  get_set := by simp
  get_set_of_ne := by simp
  ext := by
    rintro ⟨⟩ ⟨⟩
    simp

/-! ### Reading a list -/

open Fielded

variable {α : Type} {pairs : List Pair} {base view : α}

/-- Whether a field of a view holds what the pairs give for it, or what it holds in another view
if they give nothing. -/
structure Field.Reflects (f : Field α) (base : α) (pairs : List Pair) (view : α) : Prop where
  held : ∀ value, ⟨f.name, value⟩ ∈ pairs → f.read value = .ok (f.get view)
  kept : (∀ p ∈ pairs, p.name ≠ f.name) → f.get view = f.get base

theorem Field.Reflects.unique {f : Field α} {view' : α} (h : f.Reflects base pairs view)
    (h' : f.Reflects base pairs view') : f.get view = f.get view' := by
  by_cases hgiven : ∃ value, ⟨f.name, value⟩ ∈ pairs
  · obtain ⟨value, hvalue⟩ := hgiven
    exact Except.ok.inj ((h.held value hvalue).symm.trans (h'.held value hvalue))
  · have hnone : ∀ p ∈ pairs, p.name ≠ f.name := by
      rintro ⟨_, value⟩ hp rfl
      exact hgiven ⟨value, hp⟩
    rw [h.kept hnone, h'.kept hnone]

theorem Field.Reflects.reorder {f : Field α} {reordered : List Pair}
    (hreordered : reordered.Perm pairs) (h : f.Reflects base pairs view) :
    f.Reflects base reordered view where
  held value hvalue := h.held value (hreordered.mem_iff.mp hvalue)
  kept hnone := h.kept fun p hp => hnone p (hreordered.mem_iff.mpr hp)

/-- A field without a default either holds what a pair of its name says, or nothing. -/
theorem Field.Reflects.some_or_none {β : Type} {name : String} {read : String → Except Fault β}
    {get : α → Option β} {set : Option β → α → α}
    (h : Field.Reflects ⟨name, optional read, get, set⟩ base pairs view)
    (hbase : get base = none) :
    (∃ value b, ⟨name, value⟩ ∈ pairs ∧ read value = .ok b ∧ get view = some b) ∨
      (∀ value, ⟨name, value⟩ ∉ pairs) ∧ get view = none := by
  by_cases hgiven : ∃ value, ⟨name, value⟩ ∈ pairs
  · obtain ⟨value, hvalue⟩ := hgiven
    have hheld : optional read value = .ok (get view) := h.held value hvalue
    rw [optional] at hheld
    cases hread : read value with
    | error fault => simp [hread, Functor.map, Except.map] at hheld
    | ok b =>
      rw [hread] at hheld
      exact .inl ⟨value, b, hvalue, hread, (Except.ok.inj hheld).symm⟩
  · have hnone : ∀ value, ⟨name, value⟩ ∉ pairs := not_exists.mp hgiven
    refine .inr ⟨hnone, (h.kept ?_).trans hbase⟩
    rintro ⟨_, value⟩ hp rfl
    exact hnone value hp

theorem Field.Reflects.text_eq_some_iff {name value : String} {get : α → Option String}
    {set : Option String → α → α} (h : Field.Reflects ⟨name, text, get, set⟩ base pairs view)
    (hbase : get base = none) : get view = some value ↔ ⟨name, value⟩ ∈ pairs := by
  constructor
  · intro hview
    have hoptional : Field.Reflects ⟨name, optional .ok, get, set⟩ base pairs view :=
      ⟨h.held, h.kept⟩
    rcases hoptional.some_or_none hbase with ⟨value', _, hgiven, heq, hview'⟩ | ⟨-, hnone⟩
    · obtain rfl := Except.ok.inj heq
      rwa [Option.some.inj (hview.symm.trans hview')]
    · simp [hview] at hnone
  · intro hgiven
    have hheld : text value = .ok (get view) := h.held value hgiven
    exact (Except.ok.inj hheld).symm

variable [View α] [Fielded α]

private theorem exists_field {name : String} (h : name ∈ (View.scope α).names) :
    ∃ f ∈ (fields : List (Field α)), f.name = name := by
  rw [← names_fields] at h
  exact List.mem_map.mp h

private theorem put_eq_ok_iff {f : Field α} (hf : f ∈ fields) {value : String} :
    View.put base ⟨f.name, value⟩ = .ok view ↔
      ∃ b, f.read value = .ok b ∧ f.set b base = view := by
  rw [put_eq f hf]
  cases f.read value <;> simp [Functor.map, Except.map]

private theorem exists_put_eq_ok {p : Pair} (h : Acceptable (View.scope α) p) (base : α) :
    ∃ view, View.put base p = .ok view := by
  obtain ⟨hname, hvalue⟩ := acceptable_iff.mp h
  obtain ⟨f, hf, hfname⟩ := exists_field hname
  rw [← hfname, ← cause?_read f hf, Value.cause?_eq_none_iff] at hvalue
  obtain ⟨b, hb⟩ := hvalue
  obtain ⟨_, value⟩ := p
  obtain rfl := hfname
  exact ⟨f.set b base, (put_eq_ok_iff hf).mpr ⟨b, hb, rfl⟩⟩

private theorem exists_foldlM_eq_ok (h : ∀ p ∈ pairs, Acceptable (View.scope α) p) (base : α) :
    ∃ view, pairs.foldlM View.put base = .ok view := by
  induction pairs generalizing base with
  | nil => exact ⟨base, rfl⟩
  | cons p rest ih =>
    obtain ⟨hp, hrest⟩ := List.forall_mem_cons.mp h
    obtain ⟨next, hnext⟩ := exists_put_eq_ok hp base
    obtain ⟨view, hview⟩ := ih hrest next
    refine ⟨view, ?_⟩
    rw [List.foldlM_cons, bind_eq_ok]
    exact ⟨next, hnext, hview⟩

private theorem get_put_of_ne {p : Pair} (hname : p.name ∈ (View.scope α).names)
    (hput : View.put base p = .ok view) {f : Field α} (hf : f ∈ fields) (hne : p.name ≠ f.name) :
    f.get view = f.get base := by
  obtain ⟨g, hg, hgname⟩ := exists_field hname
  obtain ⟨_, value⟩ := p
  obtain rfl := hgname
  obtain ⟨b, -, rfl⟩ := (put_eq_ok_iff hg).mp hput
  exact get_set_of_ne g hg f hf hne b base

private theorem reflects_foldlM (hnames : ∀ p ∈ pairs, p.name ∈ (View.scope α).names)
    (hdistinct : (pairs.map Pair.name).Nodup) (hfold : pairs.foldlM View.put base = .ok view)
    {f : Field α} (hf : f ∈ fields) : f.Reflects base pairs view := by
  induction pairs generalizing base with
  | nil =>
    obtain rfl : base = view := Except.ok.inj hfold
    exact ⟨by simp, fun _ => rfl⟩
  | cons p rest ih =>
    rw [List.foldlM_cons, bind_eq_ok] at hfold
    obtain ⟨next, hnext, hrest⟩ := hfold
    obtain ⟨hnew, hdistinct⟩ := List.nodup_cons.mp hdistinct
    have hreflects := ih (List.forall_mem_cons.mp hnames).2 hdistinct hrest
    by_cases hname : p.name = f.name
    · -- no later pair has the name of this one, so its value stays
      have hlast : ∀ q ∈ rest, q.name ≠ f.name := by
        intro q hq hqname
        exact hnew (List.mem_map.mpr ⟨q, hq, hqname.trans hname.symm⟩)
      obtain ⟨_, value⟩ := p
      obtain rfl := hname
      obtain ⟨b, hb, rfl⟩ := (put_eq_ok_iff hf).mp hnext
      have hview : f.get view = b := (hreflects.kept hlast).trans (get_set f hf b base)
      refine ⟨fun value' hvalue' => ?_, fun hnone => ?_⟩
      · rcases List.mem_cons.mp hvalue' with heq | hmem
        · rw [(Pair.mk.inj heq).2, hview, hb]
        · exact (hlast _ hmem rfl).elim
      · exact (hnone _ List.mem_cons_self rfl).elim
    · have hsame : f.get next = f.get base := get_put_of_ne (hnames p (by simp)) hnext hf hname
      refine ⟨fun value hvalue => ?_, fun hnone => ?_⟩
      · rcases List.mem_cons.mp hvalue with rfl | hmem
        · exact (hname rfl).elim
        · exact hreflects.held value hmem
      · rw [hreflects.kept (List.forall_mem_cons.mp hnone).2, hsame]

/-- Reading a list finds the one view that holds what the pairs say, if the list passes the
check. -/
theorem read_eq_ok_iff :
    View.read pairs = .ok view ↔ check (View.scope α) pairs = .ok () ∧
      ∀ f ∈ (fields : List (Field α)), f.Reflects View.defaults pairs view := by
  have hreflects : ∀ {view : α}, check (View.scope α) pairs = .ok () →
      pairs.foldlM View.put View.defaults = .ok view →
        ∀ f ∈ (fields : List (Field α)), f.Reflects View.defaults pairs view := by
    intro view hcheck hfold f hf
    have hwellFormed := check_eq_ok_iff_wellFormed.mp hcheck
    exact reflects_foldlM hwellFormed.known hwellFormed.distinct hfold hf
  rw [View.read, bind_eq_ok]
  constructor
  · rintro ⟨_, hcheck, hfold⟩
    exact ⟨hcheck, hreflects hcheck hfold⟩
  · rintro ⟨hcheck, hview⟩
    obtain ⟨view', hfold⟩ := exists_foldlM_eq_ok (check_eq_ok_iff.mp hcheck).1 (View.defaults : α)
    have hsame : view' = view := ext _ _ fun f hf =>
      (hreflects hcheck hfold f hf).unique (hview f hf)
    exact ⟨(), hcheck, hsame ▸ hfold⟩

private theorem read_eq_error_iff {fault : Fault} :
    (View.read pairs : Except Fault α) = .error fault ↔
      check (View.scope α) pairs = .error fault := by
  rw [View.read, bind_eq_error]
  refine or_iff_left ?_
  rintro ⟨_, hcheck, hfold⟩
  obtain ⟨view, hview⟩ := exists_foldlM_eq_ok (check_eq_ok_iff.mp hcheck).1 (View.defaults : α)
  rw [hview] at hfold
  simp at hfold

private theorem read_reorder {reordered : List Pair} (hreordered : reordered.Perm pairs)
    (h : View.read pairs = .ok view) : View.read reordered = .ok view := by
  obtain ⟨hcheck, hreflects⟩ := read_eq_ok_iff.mp h
  rw [check_eq_ok_iff_wellFormed] at hcheck
  rw [read_eq_ok_iff, check_eq_ok_iff_wellFormed]
  exact ⟨hcheck.reorder hreordered, fun f hf => (hreflects f hf).reorder hreordered⟩

/-! ### Views and the check -/

/-- What a typed view owes to the check of its scope, and to the pairs that it is read from. -/
structure Faithful (α : Type) [View α] [Fielded α] (scope : Scope) (pairs : List Pair) :
    Prop where
  /-- Reading fails just if the check does, with the same fault. -/
  fails_iff : ∀ fault, (View.read pairs : Except Fault α) = .error fault ↔
    check scope pairs = .error fault
  /-- No pair is passed over. -/
  placed : ∀ view : α, View.read pairs = .ok view →
    ∀ p ∈ pairs, ∃ f ∈ (fields : List (Field α)), f.name = p.name
  /-- A field holds the value of its pair, or its default. -/
  reflects : ∀ view : α, View.read pairs = .ok view →
    ∀ f ∈ fields, f.Reflects View.defaults pairs view
  reordered : ∀ view : α, View.read pairs = .ok view →
    ∀ reordered : List Pair, reordered.Perm pairs → View.read reordered = .ok view

private theorem faithful (α : Type) [View α] [Fielded α] (pairs : List Pair) :
    Faithful α (View.scope α) pairs where
  fails_iff _ := read_eq_error_iff
  placed _ h p hp :=
    exists_field ((check_eq_ok_iff_wellFormed.mp (read_eq_ok_iff.mp h).1).known p hp)
  reflects _ h := (read_eq_ok_iff.mp h).2
  reordered _ h _ hreordered := read_reorder hreordered h

/-- Each typed view goes with the check of its scope: it fails when the check fails, with the same
fault, and otherwise holds the values of all pairs, and defaults apart from them. -/
theorem views_faithful (pairs : List Pair) :
    Faithful Server .server pairs ∧ Faithful UserMapping .userMapping pairs ∧
      Faithful Table .table pairs ∧ Faithful Column .column pairs :=
  ⟨faithful Server pairs, faithful UserMapping pairs, faithful Table pairs,
    faithful Column pairs⟩

/-- Options that set most fields of a server, in another order than that of the catalogue. -/
def serverOptions : List Pair :=
  [⟨"truncatable", "No"⟩, ⟨"batch_size", "4294967295"⟩, ⟨"port", " 3051"⟩, ⟨"updatable", "f"⟩,
    ⟨"quote_identifiers", "ON"⟩, ⟨"database", "/srv/employee.fdb"⟩]

def serverView : Server where
  port := 3051
  database := some "/srv/employee.fdb"
  updatable := some false
  quoteIdentifiers := true
  batchSize := some 4294967295
  truncatable := some false

theorem views_faithful_serverOptions :
    View.read serverOptions = .ok serverView ∧ View.read serverOptions.reverse = .ok serverView ∧
      check .userMapping serverOptions = .error (.unknown "truncatable" .userMapping) ∧
      (View.read serverOptions : Except Fault UserMapping) =
        .error (.unknown "truncatable" .userMapping) := by
  have hread : View.read serverOptions = .ok serverView := by decide +kernel
  have hcheck : check .userMapping serverOptions =
      .error (.unknown "truncatable" .userMapping) := by decide +kernel
  obtain ⟨hserver, huser, -⟩ := views_faithful serverOptions
  exact ⟨hread, hserver.reordered _ hread _ (List.reverse_perm _), hcheck,
    (huser.fails_iff _).mpr hcheck⟩

end RemoteFirebird.Options
