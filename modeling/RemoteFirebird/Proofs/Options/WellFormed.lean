import Mathlib.Data.List.Pairwise
import Mathlib.Data.List.Perm.Basic
import RemoteFirebird.Options.Check
import RemoteFirebird.Proofs.Options.Values

/-!
# Well-formed option lists

The check runs through a list once and compares each pair with those before it. What it accepts
can be said without an order: every pair is acceptable on its own, any two pairs are compatible, and
no query is updatable. Compatibility is symmetric, so it does not matter which of two pairs comes
first, and a reordered list is accepted just if the list is.
-/

namespace RemoteFirebird.Options

open Value

/-- The options that hold a truth value. -/
def flagNames : List String :=
  ["disable_pushdowns", "updatable", "quote_identifiers", "quote_identifier",
    "implicit_bool_type", "truncatable"]

/-- What is demanded of an option list, without regard to its order. -/
structure WellFormed (scope : Scope) (pairs : List Pair) : Prop where
  known : ∀ p ∈ pairs, p.name ∈ scope.names
  distinct : (pairs.map Pair.name).Nodup
  ports : ∀ value, ⟨"port", value⟩ ∈ pairs →
    ∃ n : Int, Text.Denotes value.toList n ∧ 1 ≤ n ∧ n ≤ 65535
  batchSizes : ∀ value, ⟨"batch_size", value⟩ ∈ pairs →
    ∃ n : Int, Text.Denotes value.toList n ∧ 1 ≤ n ∧ n ≤ 2 ^ 32 - 1
  rowCounts : ∀ value, ⟨"estimated_row_count", value⟩ ∈ pairs →
    ∃ n : Int, Text.Denotes value.toList n ∧ -2 ^ 63 ≤ n ∧ n ≤ 2 ^ 63 - 1
  flags : ∀ p ∈ pairs, p.name ∈ flagNames → Spells p.value true ∨ Spells p.value false
  oneSource : ¬∃ query table, ⟨"query", query⟩ ∈ pairs ∧ ⟨"table_name", table⟩ ∈ pairs
  readOnlyQuery : ¬∃ query value, ⟨"query", query⟩ ∈ pairs ∧ ⟨"updatable", value⟩ ∈ pairs ∧
    Spells value true

/-! ### One pair -/

/-- Whether two pairs may stand in one list. -/
def Compatible (p q : Pair) : Prop :=
  p.name ≠ q.name ∧ ¬(p.name = "query" ∧ q.name = "table_name") ∧
    ¬(p.name = "table_name" ∧ q.name = "query")

/-- Whether a pair may stand in a list of its own. -/
def Acceptable (scope : Scope) (p : Pair) : Prop :=
  ∃ kind, scope.kind? p.name = some kind ∧ fault? kind p.name p.value = none

theorem Compatible.symm {p q : Pair} (h : Compatible p q) : Compatible q p :=
  ⟨h.1.symm, fun hq => h.2.2 hq.symm, fun hq => h.2.1 hq.symm⟩

theorem given_eq_true_iff {name : String} {pairs : List Pair} :
    given name pairs = true ↔ ∃ p ∈ pairs, p.name = name := by
  simp [given]

private theorem compatible_before_iff {before : List Pair} {p : Pair} :
    (∀ q ∈ before, Compatible q p) ↔
      ¬given p.name before ∧ ¬(p.name = "query" ∧ given "table_name" before ∨
        p.name = "table_name" ∧ given "query" before) := by
  simp only [given_eq_true_iff]
  constructor
  · intro h
    refine ⟨fun ⟨q, hq, hname⟩ => (h q hq).1 hname, ?_⟩
    rintro (⟨hp, q, hq, hname⟩ | ⟨hp, q, hq, hname⟩)
    · exact (h q hq).2.2 ⟨hname, hp⟩
    · exact (h q hq).2.1 ⟨hname, hp⟩
  · rintro ⟨hnew, hsource⟩ q hq
    exact ⟨fun hname => hnew ⟨q, hq, hname⟩,
      fun h => hsource (.inr ⟨h.2, q, hq, h.1⟩), fun h => hsource (.inl ⟨h.2, q, hq, h.1⟩)⟩

private theorem offence_eq_none_iff {scope : Scope} {before : List Pair} {p : Pair} :
    offence scope before p = none ↔ Acceptable scope p ∧ ∀ q ∈ before, Compatible q p := by
  rw [offence, compatible_before_iff, Acceptable]
  cases hkind : scope.kind? p.name with
  | none => simp
  | some kind =>
    simp only [Option.some.injEq, exists_eq_left']
    split
    next hgiven => simp [hgiven]
    next hgiven =>
      split
      next hsource => simp [hsource]
      next hsource => simp [hgiven, hsource]

private theorem firstOffence_eq_none_iff {scope : Scope} {before pairs : List Pair}
    (hbefore : before.Pairwise Compatible) :
    firstOffence scope before pairs = none ↔
      (∀ p ∈ pairs, Acceptable scope p) ∧ (before ++ pairs).Pairwise Compatible := by
  induction pairs generalizing before with
  | nil => simpa [firstOffence] using hbefore
  | cons p rest ih =>
    have hsplit : before ++ p :: rest = (before ++ [p]) ++ rest := by simp
    rw [firstOffence, hsplit, List.forall_mem_cons]
    cases hp : offence scope before p with
    | some fault =>
      have hbad : ¬(Acceptable scope p ∧ ∀ q ∈ before, Compatible q p) := by
        rw [← offence_eq_none_iff, hp]
        simp
      simp only [reduceCtorEq, false_iff]
      rintro ⟨⟨hacceptable, -⟩, hpairs⟩
      have hbefore' := (List.pairwise_append.mp (List.pairwise_append.mp hpairs).1).2.2
      exact hbad ⟨hacceptable, fun q hq => hbefore' q hq p (by simp)⟩
    | none =>
      obtain ⟨hacceptable, hcompatible⟩ := offence_eq_none_iff.mp hp
      have hbefore' : (before ++ [p]).Pairwise Compatible := by
        rw [List.pairwise_append]
        refine ⟨hbefore, List.pairwise_singleton _ _, fun q hq r hr => ?_⟩
        obtain rfl := List.mem_singleton.mp hr
        exact hcompatible q hq
      simp only [ih hbefore', hacceptable, true_and]

/-- The check accepts a list just if each pair is acceptable, any two are compatible, and it does
not ask for updates of a query. -/
theorem check_eq_ok_iff {scope : Scope} {pairs : List Pair} :
    check scope pairs = .ok () ↔
      (∀ p ∈ pairs, Acceptable scope p) ∧ pairs.Pairwise Compatible ∧
        updatesQuery pairs = false := by
  have hfirst := @firstOffence_eq_none_iff scope [] pairs .nil
  rw [List.nil_append] at hfirst
  rw [← and_assoc, ← hfirst, check]
  cases firstOffence scope [] pairs with
  | some fault => simp
  | none => cases updatesQuery pairs <;> simp

/-! ### The conditions by name -/

/-- The kind of value that every scope expects of an option it knows. -/
def kindNamed (name : String) : Kind :=
  if name = "port" then .port
  else if name = "batch_size" then .batchSize
  else if name = "estimated_row_count" then .rowCount
  else if name ∈ flagNames then .flag
  else .text

theorem kind_of_mem_catalogue {scope : Scope} :
    ∀ entry ∈ scope.catalogue, entry.2 = kindNamed entry.1 := by
  cases scope <;> decide

theorem kind?_eq_some_iff {scope : Scope} {name : String} {kind : Kind} :
    scope.kind? name = some kind ↔ name ∈ scope.names ∧ kind = kindNamed name := by
  have hkind : ∀ k, scope.kind? name = some k → name ∈ scope.names ∧ k = kindNamed name := by
    intro k hk
    obtain ⟨before, after, hcatalogue, -⟩ := List.lookup_eq_some_iff.mp hk
    have hmem : (name, k) ∈ scope.catalogue := by simp [hcatalogue]
    exact ⟨List.mem_map_of_mem hmem, kind_of_mem_catalogue _ hmem⟩
  constructor
  · exact hkind kind
  · rintro ⟨hname, rfl⟩
    obtain ⟨entry, hentry, rfl⟩ := List.mem_map.mp hname
    have hfound : (scope.kind? entry.1).isSome := by
      rw [Scope.kind?, List.lookup_isSome_iff]
      exact ⟨entry, hentry, by simp⟩
    obtain ⟨k, hk⟩ := Option.isSome_iff_exists.mp hfound
    rw [hk, (hkind k hk).2]

theorem acceptable_iff {scope : Scope} {p : Pair} :
    Acceptable scope p ↔
      p.name ∈ scope.names ∧ fault? (kindNamed p.name) p.name p.value = none := by
  simp only [Acceptable, kind?_eq_some_iff]
  constructor
  · rintro ⟨kind, ⟨hname, rfl⟩, hvalue⟩
    exact ⟨hname, hvalue⟩
  · rintro ⟨hname, hvalue⟩
    exact ⟨_, ⟨hname, rfl⟩, hvalue⟩

private theorem fault?_kindNamed_eq_none_iff {name value : String} :
    fault? (kindNamed name) name value = none ↔
      (name = "port" → ∃ n : Int, Text.Denotes value.toList n ∧ 1 ≤ n ∧ n ≤ 65535) ∧
      (name = "batch_size" →
        ∃ n : Int, Text.Denotes value.toList n ∧ 1 ≤ n ∧ n ≤ 2 ^ 32 - 1) ∧
      (name = "estimated_row_count" →
        ∃ n : Int, Text.Denotes value.toList n ∧ -2 ^ 63 ≤ n ∧ n ≤ 2 ^ 63 - 1) ∧
      (name ∈ flagNames → Spells value true ∨ Spells value false) := by
  rw [kindNamed]
  split
  next h => simp [h, fault?_port_eq_none_iff, flagNames]
  next hport =>
    split
    next h => simp [h, fault?_batchSize_eq_none_iff, flagNames]
    next hbatch =>
      split
      next h => simp [h, fault?_rowCount_eq_none_iff, flagNames]
      next hrow =>
        split
        next h => simp [h, hport, hbatch, hrow, fault?_flag_eq_none_iff]
        next h => simp [h, hport, hbatch, hrow, fault?]

private theorem exists_named_iff {pairs : List Pair} {name : String} {P : String → Prop} :
    (∃ p ∈ pairs, p.name = name ∧ P p.value) ↔ ∃ value, ⟨name, value⟩ ∈ pairs ∧ P value := by
  constructor
  · rintro ⟨⟨_, value⟩, hp, rfl, hvalue⟩
    exact ⟨value, hp, hvalue⟩
  · rintro ⟨value, hp, hvalue⟩
    exact ⟨_, hp, rfl, hvalue⟩

private theorem forall_named_iff {pairs : List Pair} {name : String} {P : String → Prop} :
    (∀ p ∈ pairs, p.name = name → P p.value) ↔ ∀ value, ⟨name, value⟩ ∈ pairs → P value := by
  constructor
  · intro h value hp
    exact h _ hp rfl
  · rintro h ⟨_, value⟩ hp rfl
    exact h value hp

private theorem pairwise_compatible_iff {pairs : List Pair} :
    pairs.Pairwise Compatible ↔ (pairs.map Pair.name).Nodup ∧
      ¬∃ query table, ⟨"query", query⟩ ∈ pairs ∧ ⟨"table_name", table⟩ ∈ pairs := by
  have hsymm : Std.Symm Compatible := ⟨fun _ _ => Compatible.symm⟩
  rw [List.Nodup, List.pairwise_map]
  constructor
  · intro h
    refine ⟨h.imp And.left, ?_⟩
    rintro ⟨query, table, hquery, htable⟩
    have hne : (⟨"query", query⟩ : Pair) ≠ ⟨"table_name", table⟩ := by simp
    exact (h.forall hquery htable hne).2.1 ⟨rfl, rfl⟩
  · rintro ⟨hnames, hsource⟩
    have honly : ∀ p ∈ pairs, ∀ q ∈ pairs, ¬(p.name = "query" ∧ q.name = "table_name") := by
      rintro ⟨_, query⟩ hp ⟨_, table⟩ hq ⟨rfl, rfl⟩
      exact hsource ⟨query, table, hp, hq⟩
    refine hnames.imp_of_mem fun hp hq hne => ⟨hne, honly _ hp _ hq, fun h => ?_⟩
    exact honly _ hq _ hp h.symm

theorem updatesQuery_eq_false_iff {pairs : List Pair} :
    updatesQuery pairs = false ↔
      ¬∃ query value, ⟨"query", query⟩ ∈ pairs ∧ ⟨"updatable", value⟩ ∈ pairs ∧
        Spells value true := by
  have hquery : given "query" pairs = true ↔ ∃ query, ⟨"query", query⟩ ∈ pairs := by
    simpa [given_eq_true_iff] using @exists_named_iff pairs "query" fun _ => True
  have hupdatable : (pairs.any fun p =>
      p.name == "updatable" && decide (lowered p.value ∈ trueWords)) = true ↔
        ∃ value, ⟨"updatable", value⟩ ∈ pairs ∧ Spells value true := by
    rw [← exists_named_iff]
    simp only [List.any_eq_true, Bool.and_eq_true, beq_iff_eq, decide_eq_true_eq,
      lowered_mem_trueWords_iff]
  rw [← Bool.not_eq_true, updatesQuery, Bool.and_eq_true, hquery, hupdatable, not_iff_not]
  constructor
  · rintro ⟨⟨query, hquery⟩, value, hvalue, htrue⟩
    exact ⟨query, value, hquery, hvalue, htrue⟩
  · rintro ⟨query, value, hquery, hvalue, htrue⟩
    exact ⟨⟨query, hquery⟩, value, hvalue, htrue⟩

/-- The check accepts the well-formed lists and no others. -/
theorem check_eq_ok_iff_wellFormed {scope : Scope} {pairs : List Pair} :
    check scope pairs = .ok () ↔ WellFormed scope pairs := by
  rw [check_eq_ok_iff, pairwise_compatible_iff, updatesQuery_eq_false_iff]
  simp only [acceptable_iff, fault?_kindNamed_eq_none_iff]
  constructor
  · rintro ⟨hpairs, ⟨hdistinct, hsource⟩, hquery⟩
    exact {
      known := fun p hp => (hpairs p hp).1
      distinct := hdistinct
      ports := forall_named_iff.mp fun p hp => (hpairs p hp).2.1
      batchSizes := forall_named_iff.mp fun p hp => (hpairs p hp).2.2.1
      rowCounts := forall_named_iff.mp fun p hp => (hpairs p hp).2.2.2.1
      flags := fun p hp => (hpairs p hp).2.2.2.2
      oneSource := hsource
      readOnlyQuery := hquery }
  · intro h
    refine ⟨fun p hp => ⟨h.known p hp, ?_, ?_, ?_, h.flags p hp⟩,
      ⟨h.distinct, h.oneSource⟩, h.readOnlyQuery⟩
    · exact forall_named_iff.mpr h.ports p hp
    · exact forall_named_iff.mpr h.batchSizes p hp
    · exact forall_named_iff.mpr h.rowCounts p hp

/-! ### Reordering -/

/-- None of the conditions depends on the order of the pairs. -/
theorem WellFormed.reorder {scope : Scope} {pairs reordered : List Pair}
    (hreordered : reordered.Perm pairs) (h : WellFormed scope pairs) :
    WellFormed scope reordered := by
  have hmem : ∀ {p}, p ∈ reordered ↔ p ∈ pairs := hreordered.mem_iff
  exact {
    known := fun p hp => h.known p (hmem.mp hp)
    distinct := (hreordered.map Pair.name).nodup_iff.mpr h.distinct
    ports := fun value hp => h.ports value (hmem.mp hp)
    batchSizes := fun value hp => h.batchSizes value (hmem.mp hp)
    rowCounts := fun value hp => h.rowCounts value (hmem.mp hp)
    flags := fun p hp => h.flags p (hmem.mp hp)
    oneSource := fun ⟨query, table, hquery, htable⟩ =>
      h.oneSource ⟨query, table, hmem.mp hquery, hmem.mp htable⟩
    readOnlyQuery := fun ⟨query, value, hquery, hvalue, htrue⟩ =>
      h.readOnlyQuery ⟨query, value, hmem.mp hquery, hmem.mp hvalue, htrue⟩ }

private theorem exists_check_eq_error_iff {scope : Scope} {pairs : List Pair} :
    (∃ fault, check scope pairs = .error fault) ↔ ¬WellFormed scope pairs := by
  rw [← check_eq_ok_iff_wellFormed]
  cases check scope pairs <;> simp

/-- The check accepts just the well-formed lists. So a reordering of an accepted list is accepted,
and one of a rejected list is rejected, though perhaps with another fault. -/
theorem accepts_wellFormed_in_any_order (scope : Scope) (pairs : List Pair) :
    (check scope pairs = .ok () ↔ WellFormed scope pairs) ∧
      ∀ reordered : List Pair, reordered.Perm pairs →
        (check scope pairs = .ok () → check scope reordered = .ok ()) ∧
        ((∃ fault, check scope pairs = .error fault) →
          ∃ fault, check scope reordered = .error fault) := by
  refine ⟨check_eq_ok_iff_wellFormed, fun reordered hreordered => ?_⟩
  rw [check_eq_ok_iff_wellFormed, check_eq_ok_iff_wellFormed, exists_check_eq_error_iff,
    exists_check_eq_error_iff]
  exact ⟨WellFormed.reorder hreordered, mt (WellFormed.reorder hreordered.symm)⟩

/-- The options of a table that is defined by a query. -/
def queryOptions : List Pair :=
  [⟨"updatable", "oFF"⟩, ⟨"batch_size", "\t+0012 "⟩, ⟨"query", "SELECT 1"⟩,
    ⟨"estimated_row_count", "-9223372036854775808"⟩]

/-- Options that have one fault when they are read forwards and another one when backwards. -/
def faultyOptions : List Pair :=
  [⟨"truncatable", "maybe"⟩, ⟨"batch_size", "0"⟩]

theorem accepts_wellFormed_in_any_order_reversed :
    (queryOptions.reverse.Perm queryOptions ∧ check .table queryOptions = .ok () ∧
      WellFormed .table queryOptions ∧ check .table queryOptions.reverse = .ok ()) ∧
    faultyOptions.reverse.Perm faultyOptions ∧
      check .table faultyOptions = .error (.notFlag "truncatable" "maybe") ∧
      check .table faultyOptions.reverse = .error .batchSizeTooSmall ∧
      ∃ fault, check .table faultyOptions.reverse = .error fault := by
  have hquery : check .table queryOptions = .ok () := by decide +kernel
  have hfaulty : check .table faultyOptions = .error (.notFlag "truncatable" "maybe") := by
    decide +kernel
  have haccepted := accepts_wellFormed_in_any_order .table queryOptions
  have hrejected := accepts_wellFormed_in_any_order .table faultyOptions
  refine ⟨⟨List.reverse_perm _, hquery, haccepted.1.mp hquery,
    (haccepted.2 _ (List.reverse_perm _)).1 hquery⟩, List.reverse_perm _, hfaulty, ?_,
    (hrejected.2 _ (List.reverse_perm _)).2 ⟨_, hfaulty⟩⟩
  decide +kernel

end RemoteFirebird.Options
