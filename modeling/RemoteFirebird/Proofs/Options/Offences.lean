import RemoteFirebird.Proofs.Options.WellFormed

/-!
# The first offence

The check goes through a list once and stops at the first pair that offends given the pairs before
it. So what follows that pair makes no difference to the fault. Whether a query is to be updated is
asked only of a list without such a pair, since an offence further on is reported in its place.
-/

namespace RemoteFirebird.Options

open Value

variable {scope : Scope} {before pairs : List Pair} {p : Pair} {fault : Fault}

/-! ### One pair -/

/-- The faults of a pair that follows others. Each of them is reported only if those above it do not
apply. -/
inductive Offends (scope : Scope) (before : List Pair) (p : Pair) : Fault → Prop
  | unknown (hunknown : p.name ∉ scope.names) : Offends scope before p (.unknown p.name scope)
  /-- The value is not looked at, and shown unless it is a password. -/
  | repeated (hknown : p.name ∈ scope.names) (hgiven : ∃ q ∈ before, q.name = p.name) :
    Offends scope before p (.repeated p.name (if p.name = "password" then none else some p.value))
  | queryWithTableName (hknown : p.name ∈ scope.names) (hnew : ¬∃ q ∈ before, q.name = p.name)
    (hother : ∃ q ∈ before, p.name = "query" ∧ q.name = "table_name" ∨
      p.name = "table_name" ∧ q.name = "query") : Offends scope before p .queryWithTableName
  | value {kind : Kind} {fault : Fault} (hkind : (p.name, kind) ∈ scope.catalogue)
    (hnew : ¬∃ q ∈ before, q.name = p.name) (hvalue : Misread p.name p.value kind fault) :
    Offends scope before p fault

private theorem mem_catalogue_iff {name : String} {kind : Kind} :
    (name, kind) ∈ scope.catalogue ↔ scope.kind? name = some kind := by
  rw [kind?_eq_some_iff]
  constructor
  · intro h
    exact ⟨List.mem_map_of_mem h, kind_of_mem_catalogue _ h⟩
  · intro h
    obtain ⟨hname, rfl⟩ := h
    obtain ⟨entry, hentry, rfl⟩ := List.mem_map.mp hname
    rw [← kind_of_mem_catalogue _ hentry]
    exact hentry

private theorem kind?_eq_none_iff {name : String} :
    scope.kind? name = none ↔ name ∉ scope.names := by
  simp [Option.eq_none_iff_forall_ne_some, kind?_eq_some_iff]

private theorem exists_other_source_iff :
    (∃ q ∈ before, p.name = "query" ∧ q.name = "table_name" ∨
      p.name = "table_name" ∧ q.name = "query") ↔
    p.name = "query" ∧ given "table_name" before ∨
      p.name = "table_name" ∧ given "query" before := by
  simp only [given_eq_true_iff]
  constructor
  · intro h
    obtain ⟨q, hq, ⟨hp, hname⟩ | ⟨hp, hname⟩⟩ := h
    · exact .inl ⟨hp, q, hq, hname⟩
    · exact .inr ⟨hp, q, hq, hname⟩
  · intro h
    obtain ⟨hp, q, hq, hname⟩ | ⟨hp, q, hq, hname⟩ := h
    · exact ⟨q, hq, .inl ⟨hp, hname⟩⟩
    · exact ⟨q, hq, .inr ⟨hp, hname⟩⟩

private theorem offends_of_offence (h : offence scope before p = some fault) :
    Offends scope before p fault := by
  rw [offence] at h
  split at h
  next hkind =>
    obtain rfl := Option.some.inj h
    exact .unknown (kind?_eq_none_iff.mp hkind)
  next kind hkind =>
    have hknown : p.name ∈ scope.names := (kind?_eq_some_iff.mp hkind).1
    split at h
    next hgiven =>
      obtain rfl := Option.some.inj h
      simpa [isSecret] using Offends.repeated hknown (given_eq_true_iff.mp hgiven)
    next hnew =>
      rw [given_eq_true_iff] at hnew
      split at h
      next hother =>
        obtain rfl := Option.some.inj h
        exact .queryWithTableName hknown hnew (exists_other_source_iff.mpr hother)
      next => exact .value (mem_catalogue_iff.mpr hkind) hnew (fault?_eq_some_iff.mp h)

private theorem offence_of_offends (h : Offends scope before p fault) :
    offence scope before p = some fault := by
  have hkind : ∀ {name : String}, name ∈ scope.names →
      scope.kind? name = some (kindNamed name) := fun hname =>
    kind?_eq_some_iff.mpr ⟨hname, rfl⟩
  cases h with
  | unknown hunknown => rw [offence, kind?_eq_none_iff.mpr hunknown]
  | repeated hknown hgiven =>
    simp [offence, hkind hknown, given_eq_true_iff.mpr hgiven, isSecret]
  | queryWithTableName hknown hnew hother =>
    rw [← given_eq_true_iff] at hnew
    rw [exists_other_source_iff] at hother
    simp only [offence, hkind hknown, if_neg hnew, if_pos hother]
  | value hcatalogue hnew hvalue =>
    rw [← given_eq_true_iff] at hnew
    rw [mem_catalogue_iff] at hcatalogue
    have hsame : ¬(p.name = "query" ∧ given "table_name" before ∨
        p.name = "table_name" ∧ given "query" before) := by
      -- A query and a table name are free text, which is never misread.
      intro hother
      have htext : kindNamed p.name = .text := by
        rcases hother with ⟨hp, -⟩ | ⟨hp, -⟩ <;> rw [hp] <;> decide
      rw [(kind?_eq_some_iff.mp hcatalogue).2, htext] at hvalue
      cases hvalue
    simp only [offence, hcatalogue, if_neg hnew, if_neg hsame, fault?_eq_some_iff.mpr hvalue]

private theorem offence_eq_some_iff :
    offence scope before p = some fault ↔ Offends scope before p fault :=
  ⟨offends_of_offence, offence_of_offends⟩

/-! ### Lists -/

/-- Whether no pair of a list offends given the pairs before it. -/
def Inoffensive (scope : Scope) (pairs : List Pair) : Prop :=
  ∀ before p after, pairs = before ++ p :: after → ∀ fault, ¬Offends scope before p fault

/-- Whether the first pair that offends does so with this fault. -/
def OffendsFirst (scope : Scope) (pairs : List Pair) (fault : Fault) : Prop :=
  ∃ before p after, pairs = before ++ p :: after ∧ Inoffensive scope before ∧
    Offends scope before p fault

private theorem firstOffence_append (scope : Scope) (before pairs more : List Pair) :
    firstOffence scope before (pairs ++ more) =
      (firstOffence scope before pairs).or (firstOffence scope (before ++ pairs) more) := by
  induction pairs generalizing before with
  | nil => simp [firstOffence]
  | cons p rest ih =>
    rw [List.cons_append, firstOffence, firstOffence]
    cases offence scope before p with
    | some fault => rfl
    | none =>
      rw [ih, List.append_assoc, List.singleton_append]

private theorem exists_of_firstOffence (h : firstOffence scope before pairs = some fault) :
    ∃ front p after, pairs = front ++ p :: after ∧ firstOffence scope before front = none ∧
      offence scope (before ++ front) p = some fault := by
  induction pairs generalizing before with
  | nil => simp [firstOffence] at h
  | cons p rest ih =>
    rw [firstOffence] at h
    cases hp : offence scope before p with
    | some fault' =>
      rw [hp] at h
      exact ⟨[], p, rest, rfl, rfl, by rwa [List.append_nil, hp]⟩
    | none =>
      rw [hp] at h
      obtain ⟨front, q, after, rfl, hfront, hq⟩ := ih h
      refine ⟨p :: front, q, after, rfl, ?_, ?_⟩
      · rw [firstOffence, hp]
        exact hfront
      · rwa [List.append_assoc, List.singleton_append] at hq

private theorem firstOffence_eq_none_iff_inoffensive :
    firstOffence scope [] pairs = none ↔ Inoffensive scope pairs := by
  constructor
  · intro h front p after hsplit fault hp
    rw [hsplit, firstOffence_append, Option.or_eq_none_iff] at h
    rw [← offence_eq_some_iff] at hp
    simp [firstOffence, hp] at h
  · intro h
    cases hfirst : firstOffence scope [] pairs with
    | none => rfl
    | some fault =>
      obtain ⟨front, p, after, hsplit, -, hp⟩ := exists_of_firstOffence hfirst
      exact (h front p after hsplit fault (offence_eq_some_iff.mp hp)).elim

private theorem firstOffence_eq_some_iff :
    firstOffence scope [] pairs = some fault ↔ OffendsFirst scope pairs fault := by
  constructor
  · intro h
    obtain ⟨front, p, after, hsplit, hfront, hp⟩ := exists_of_firstOffence h
    exact ⟨front, p, after, hsplit, firstOffence_eq_none_iff_inoffensive.mp hfront,
      offence_eq_some_iff.mp hp⟩
  · intro h
    obtain ⟨front, p, after, rfl, hfront, hp⟩ := h
    rw [← firstOffence_eq_none_iff_inoffensive] at hfront
    rw [← offence_eq_some_iff] at hp
    rw [firstOffence_append, hfront]
    simp [firstOffence, hp]

/-! ### The check -/

private theorem Value.Misread.ne_updatableQuery {name value : String} {kind : Kind}
    (h : Misread name value kind fault) : fault ≠ .updatableQuery := by
  cases h <;> simp

private theorem Offends.ne_updatableQuery (h : Offends scope before p fault) :
    fault ≠ .updatableQuery := by
  cases h with
  | value _ _ hvalue => exact hvalue.ne_updatableQuery
  | _ => simp

private theorem check_eq_error_iff_offendsFirst (hfault : fault ≠ .updatableQuery) :
    check scope pairs = .error fault ↔ OffendsFirst scope pairs fault := by
  rw [← firstOffence_eq_some_iff, check]
  cases firstOffence scope [] pairs with
  | some fault' => simp
  | none => cases updatesQuery pairs <;> simp [hfault.symm]

private theorem check_eq_updatableQuery_iff :
    check scope pairs = .error .updatableQuery ↔
      Inoffensive scope pairs ∧ updatesQuery pairs = true := by
  rw [← firstOffence_eq_none_iff_inoffensive, check]
  cases hfirst : firstOffence scope [] pairs with
  | some fault =>
    obtain ⟨front, p, after, -, -, hp⟩ := firstOffence_eq_some_iff.mp hfirst
    simp [hp.ne_updatableQuery]
  | none => cases updatesQuery pairs <;> simp

private theorem updatesQuery_append {more : List Pair} (h : updatesQuery pairs = true) :
    updatesQuery (pairs ++ more) = true := by
  simp only [updatesQuery, given, Bool.and_eq_true, List.any_append, Bool.or_eq_true] at h ⊢
  exact ⟨.inl h.1, .inl h.2⟩

private theorem exists_check_append {more : List Pair}
    (h : check scope pairs = .error .updatableQuery) :
    ∃ fault, check scope (pairs ++ more) = .error fault := by
  obtain ⟨-, hupdates⟩ := check_eq_updatableQuery_iff.mp h
  rw [check]
  cases firstOffence scope [] (pairs ++ more) with
  | some fault => exact ⟨fault, rfl⟩
  | none => exact ⟨.updatableQuery, if_pos (updatesQuery_append hupdates)⟩

private theorem check_append {more : List Pair} (hfault : fault ≠ .updatableQuery)
    (h : check scope pairs = .error fault) : check scope (pairs ++ more) = .error fault := by
  rw [check_eq_error_iff_offendsFirst hfault, ← firstOffence_eq_some_iff] at h ⊢
  rw [firstOffence_append, h]
  rfl

private theorem exists_offendsFirst (h : ¬Inoffensive scope pairs) :
    ∃ fault, OffendsFirst scope pairs fault ∧ check scope pairs = .error fault := by
  rw [← firstOffence_eq_none_iff_inoffensive, ← ne_eq, Option.ne_none_iff_exists'] at h
  obtain ⟨fault, hfirst⟩ := h
  exact ⟨fault, firstOffence_eq_some_iff.mp hfirst, by rw [check, hfirst]⟩

/-- A list in which some pair offends is refused with the fault of the first one, whatever follows
it. A list without such a pair is refused just if it asks for updates of a query, and a longer list
is then refused as well, though perhaps with another fault. -/
theorem first_offence_decides (scope : Scope) (pairs : List Pair) :
    (¬Inoffensive scope pairs →
        ∃ fault, OffendsFirst scope pairs fault ∧ check scope pairs = .error fault) ∧
      (∀ fault, fault ≠ .updatableQuery →
        (check scope pairs = .error fault ↔ OffendsFirst scope pairs fault)) ∧
      (check scope pairs = .error .updatableQuery ↔ Inoffensive scope pairs ∧
        ∃ query value, ⟨"query", query⟩ ∈ pairs ∧ ⟨"updatable", value⟩ ∈ pairs ∧
          Spells value true) ∧
      (∀ fault, fault ≠ .updatableQuery → check scope pairs = .error fault →
        ∀ more, check scope (pairs ++ more) = .error fault) ∧
      (check scope pairs = .error .updatableQuery →
        ∀ more, ∃ fault, check scope (pairs ++ more) = .error fault) := by
  have hupdates := not_congr (@updatesQuery_eq_false_iff pairs)
  rw [not_not, Bool.not_eq_false] at hupdates
  refine ⟨exists_offendsFirst, fun _ => check_eq_error_iff_offendsFirst, ?_,
    fun _ hfault h _ => check_append hfault h, fun h _ => exists_check_append h⟩
  rw [check_eq_updatableQuery_iff, hupdates]

/-- Options with a port that is given twice, the second time not as a number. -/
def repeatedPort : List Pair :=
  [⟨"port", "3051"⟩, ⟨"database", "employee"⟩, ⟨"port", "gds_db"⟩]

/-- Options that ask for updates of a query. -/
def updatedQuery : List Pair :=
  [⟨"updatable", "ON"⟩, ⟨"query", "SELECT 1"⟩]

theorem first_offence_decides_repeatedPort :
    check .server repeatedPort = .error (.repeated "port" (some "gds_db")) ∧
      OffendsFirst .server repeatedPort (.repeated "port" (some "gds_db")) ∧
      check .server (repeatedPort ++ [⟨"usename", "sysdba"⟩]) =
        .error (.repeated "port" (some "gds_db")) ∧
      check .table updatedQuery = .error .updatableQuery ∧
      (∃ fault, check .table (updatedQuery ++ [⟨"table_name", "EMPLOYEE"⟩]) = .error fault) ∧
      check .table (updatedQuery ++ [⟨"table_name", "EMPLOYEE"⟩]) = .error .queryWithTableName := by
  have hport : check .server repeatedPort = .error (.repeated "port" (some "gds_db")) := by
    decide +kernel
  have hquery : check .table updatedQuery = .error .updatableQuery := by decide +kernel
  obtain ⟨-, hfirst, -, hmore, -⟩ := first_offence_decides .server repeatedPort
  obtain ⟨-, -, -, -, hrefused⟩ := first_offence_decides .table updatedQuery
  refine ⟨hport, (hfirst _ (by simp)).mp hport, hmore _ (by simp) hport _, hquery,
    hrefused hquery _, ?_⟩
  decide +kernel

end RemoteFirebird.Options
