import RemoteFirebird.Log

/-!
# Secrets in option lists

Two option lists that differ only in passwords are the same once the passwords are masked. Checking
a list and reading it into a typed view go the same way for both, report the same events, and fail
with the same faults: masking the input and masking the result come to the same.
-/

namespace RemoteFirebird

namespace Options

/-- The pair with the value masked if it is a secret, whatever list it is in. -/
def Pair.masked (p : Pair) : Pair :=
  if isSecret p.name then { p with value := UserMapping.mask } else p

def UserMapping.masked (u : UserMapping) : UserMapping :=
  { u with password := u.password.map fun _ => UserMapping.mask }

/-- The source with its secrets masked, given how to mask what is known. -/
def Source.masked {α : Type} (f : α → α) : Source α → Source α
  | .pairs list => .pairs (list.map Pair.masked)
  | .known view => .known (f view)

@[simp] theorem Pair.masked_name (p : Pair) : p.masked.name = p.name := by
  rw [masked]
  split <;> rfl

private theorem Pair.masked_of_not_secret {p : Pair} (h : isSecret p.name = false) :
    p.masked = p := by
  simp [masked, h]

/-! ### The check -/

@[simp] theorem given_map_masked (name : String) (pairs : List Pair) :
    given name (pairs.map Pair.masked) = given name pairs := by
  simp [given, List.any_map, Function.comp_def]

private theorem kind?_of_secret {scope : Scope} {name : String} {kind : Kind}
    (hsecret : isSecret name = true)
    (hkind : scope.kind? name = some kind) : kind = .text := by
  obtain rfl : name = "password" := by simpa [isSecret] using hsecret
  revert hkind
  cases scope <;> simp [Scope.kind?, Scope.catalogue, List.lookup_cons, eq_comm]

private theorem offence_masked (scope : Scope) (before : List Pair) (p : Pair) :
    offence scope (before.map Pair.masked) p.masked = offence scope before p := by
  cases hsecret : isSecret p.name with
  | false => simp only [offence, given_map_masked, Pair.masked_of_not_secret hsecret]
  | true =>
    simp only [offence, given_map_masked, Pair.masked_name, hsecret, if_true]
    cases hkind : scope.kind? p.name with
    | none => rfl
    | some kind =>
      obtain rfl := kind?_of_secret hsecret hkind
      rfl

private theorem firstOffence_masked (scope : Scope) (before pairs : List Pair) :
    firstOffence scope (before.map Pair.masked) (pairs.map Pair.masked) =
      firstOffence scope before pairs := by
  induction pairs generalizing before with
  | nil => rfl
  | cons p rest ih =>
    have ih' := ih (before ++ [p])
    rw [List.map_append, List.map_singleton] at ih'
    simp only [List.map_cons, firstOffence, offence_masked, ih']

private theorem examined_masked (scope : Scope) (before pairs : List Pair) :
    examined scope (before.map Pair.masked) (pairs.map Pair.masked) =
      (examined scope before pairs).map Pair.masked := by
  induction pairs generalizing before with
  | nil => rfl
  | cons p rest ih =>
    have ih' := ih (before ++ [p])
    rw [List.map_append, List.map_singleton] at ih'
    simp only [List.map_cons, examined, offence_masked, ih']
    split <;> rfl

private theorem updatesQuery_masked (pairs : List Pair) :
    updatesQuery (pairs.map Pair.masked) = updatesQuery pairs := by
  have hpair : ∀ p : Pair,
      (p.masked.name == "updatable" && decide (Value.lowered p.masked.value ∈ Value.trueWords)) =
        (p.name == "updatable" && decide (Value.lowered p.value ∈ Value.trueWords)) := by
    intro p
    by_cases hname : p.name = "updatable"
    · rw [Pair.masked_of_not_secret (by simp [isSecret, hname])]
    · have hne : (p.name == "updatable") = false := by simpa using hname
      simp [hne]
  simp only [updatesQuery, given_map_masked, List.any_map, Function.comp_def, hpair]

/-- The check does not look at passwords. -/
theorem check_masked (scope : Scope) (pairs : List Pair) :
    check scope (pairs.map Pair.masked) = check scope pairs := by
  have hfirst := firstOffence_masked scope [] pairs
  rw [List.map_nil] at hfirst
  rw [check, check, hfirst, updatesQuery_masked]

/-! ### Typed views -/

private theorem foldlM_masked {α : Type} {f : α → α} {put : α → Pair → Except Fault α}
    (hput : ∀ a p, put (f a) p.masked = (put a p).map f) (a : α) (pairs : List Pair) :
    (pairs.map Pair.masked).foldlM put (f a) = (pairs.foldlM put a).map f := by
  induction pairs generalizing a with
  | nil => rfl
  | cons p rest ih =>
    rw [List.map_cons, List.foldlM_cons, List.foldlM_cons, hput]
    cases put a p with
    | error fault => rfl
    | ok b => exact ih b

/-- What is read of a source with its secrets masked is what is read of the source, masked. -/
theorem read_masked {α : Type} [View α] {f : α → α}
    (hput : ∀ a p, View.put (f a) p.masked = (View.put a p).map f)
    (hdefaults : f View.defaults = View.defaults) (source : Source α) :
    (source.masked f).read = source.read.map f := by
  cases source with
  | known view => rfl
  | pairs list =>
    simp only [Source.masked, Source.read, View.read, check_masked]
    cases check (View.scope α) list with
    | error fault => rfl
    | ok _ =>
      have hfold := foldlM_masked hput View.defaults list
      rw [hdefaults] at hfold
      exact hfold

theorem read_masked_server (source : Source Server) :
    (source.masked id).read = source.read := by
  have hput : ∀ (s : Server) (p : Pair), View.put (id s) p.masked = (View.put s p).map id := by
    intro s p
    rw [Except.map_id]
    obtain ⟨name, value⟩ := p
    cases hsecret : isSecret name with
    | true =>
      obtain rfl : name = "password" := by simpa [isSecret] using hsecret
      rfl
    | false =>
      rw [Pair.masked_of_not_secret hsecret]
      rfl
  rw [read_masked hput rfl source, Except.map_id, id]

theorem read_masked_userMapping (source : Source UserMapping) :
    (source.masked UserMapping.masked).read = source.read.map UserMapping.masked := by
  refine read_masked (fun u p => ?_) rfl source
  show u.masked.put p.masked = (u.put p).map UserMapping.masked
  obtain ⟨name, value⟩ := p
  cases hsecret : isSecret name with
  | true =>
    obtain rfl : name = "password" := by simpa [isSecret] using hsecret
    rfl
  | false =>
    rw [Pair.masked_of_not_secret hsecret]
    simp only [UserMapping.put]
    split
    next => rfl
    next => simp [isSecret] at hsecret
    next => rfl

@[simp] theorem describe_masked (u : UserMapping) : u.masked.describe = u.describe := by
  simp [UserMapping.describe, UserMapping.masked, Option.map_map, Function.comp_def]

end Options

namespace Log

open Options

/-- The check reports the names of options and nothing of their values. -/
theorem ofCheck_masked (scope : Scope) (pairs : List Pair) :
    ofCheck scope (pairs.map Pair.masked) = ofCheck scope pairs := by
  have hexamined := examined_masked scope [] pairs
  rw [List.map_nil] at hexamined
  simp [ofCheck, hexamined, List.map_map, Function.comp_def]

theorem ofSource_masked {α : Type} [View α] (f : α → α) (source : Source α) :
    ofSource (source.masked f) = ofSource source := by
  cases source with
  | pairs list => exact ofCheck_masked _ list
  | known view => rfl

end Log

end RemoteFirebird
