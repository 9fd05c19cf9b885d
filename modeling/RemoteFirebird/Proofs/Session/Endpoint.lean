import RemoteFirebird.Session.Endpoint

/-!
# Paths of databases

A path leads to its database by way of the address of the server, and of the port unless that is the
usual one. Addresses and databases are free texts and may hold the characters that part them, so a
path alone does not say which settings it was made from. But where two of the settings are known, it
says what the third one is.
-/

namespace RemoteFirebird.Session

open Options

variable {a b : Server} {address address' : Option String} {port port' : UInt16}
  {database path : String} {fault : Options.Fault}

/-! ### What leads to a database -/

/-- What stands between the address and the database. -/
def separator (port : UInt16) : String :=
  if port = defaultPort then ":" else "/" ++ toString port.toNat ++ ":"

/-- What stands in front of the database. -/
def approach (address : Option String) (port : UInt16) : String :=
  match address with
  | none => ""
  | some text => text ++ separator port

private theorem separator_ne_empty (port : UInt16) : separator port ≠ "" := by
  rw [separator]
  split
  next => decide
  next => simp

private theorem toString_toNat_injective (h : toString port.toNat = toString port'.toNat) :
    port = port' := by
  have hdigits : Nat.toDigits 10 port.toNat = Nat.toDigits 10 port'.toNat := by
    rw [← Nat.toList_repr, ← Nat.toList_repr]
    exact congrArg String.toList h
  have hvalue := congrArg (Nat.ofDigitChars 10 · 0) hdigits
  simp only [Nat.ofDigitChars_ten_toDigits] at hvalue
  exact UInt16.toNat_inj.mp hvalue

private theorem separator_injective (h : separator port = separator port') : port = port' := by
  have hcolon : ∀ rest : String, ":" ≠ "/" ++ rest ++ ":" := by
    intro rest heq
    have hchars := congrArg String.toList heq
    simp at hchars
  rw [separator, separator] at h
  split at h
  next husual =>
    split at h
    next husual' => rw [husual, husual']
    next => exact (hcolon _ h).elim
  next =>
    split at h
    next => exact (hcolon _ h.symm).elim
    next =>
      rw [String.append_left_inj, String.append_right_inj] at h
      exact toString_toNat_injective h

private theorem approach_some_ne_empty (text : String) (port : UInt16) :
    approach (some text) port ≠ "" := by
  rw [approach, ne_eq, String.append_eq_empty_iff]
  intro h
  exact separator_ne_empty port h.2

private theorem approach_injective (h : approach address port = approach address' port) :
    address = address' := by
  cases address with
  | none =>
    cases address' with
    | none => rfl
    | some text' => exact (approach_some_ne_empty text' port h.symm).elim
  | some text =>
    cases address' with
    | none => exact (approach_some_ne_empty text port h).elim
    | some text' =>
      rw [approach, approach, String.append_left_inj] at h
      rw [h]

private theorem approach_eq_iff :
    approach address port = approach address port' ↔ address = none ∨ port = port' := by
  cases address with
  | none => simp [approach]
  | some text =>
    rw [approach, approach, String.append_right_inj]
    constructor
    · intro h
      exact .inr (separator_injective h)
    · intro h
      rw [h.resolve_left (Option.some_ne_none text)]

/-! ### Paths -/

private theorem databasePath_of_database (h : a.database = some database) :
    databasePath a = .ok (approach a.address a.port ++ database) := by
  rw [databasePath, h]
  cases ha : a.address with
  | none => simp [approach]
  | some text =>
    by_cases husual : a.port = defaultPort
    · simp [approach, separator, husual]
    · simp [approach, separator, husual, String.append_assoc]

theorem databasePath_eq_error_iff :
    databasePath a = .error fault ↔ a.database = none ∧ fault = .missing "database" := by
  cases h : a.database with
  | none => simp [databasePath, h, eq_comm]
  | some database => simp [databasePath_of_database h]

/-- The settings that say where a server leads. -/
inductive Setting
  | address
  | port
  | database

/-- Two servers lead to different places by one setting alone. -/
inductive DifferIn (a b : Server) : Setting → Prop
  | address (hne : a.address ≠ b.address) (hport : a.port = b.port)
    (hdatabase : a.database = b.database) : DifferIn a b .address
  | port (haddress : a.address = b.address) (hne : a.port ≠ b.port)
    (hdatabase : a.database = b.database) : DifferIn a b .port
  | database (haddress : a.address = b.address) (hport : a.port = b.port)
    (hne : a.database ≠ b.database) : DifferIn a b .database

private theorem path_eq_iff {setting : Setting} {database' : String}
    (hdiffer : DifferIn a b setting)
    (ha : a.database = some database) (hb : b.database = some database') :
    approach a.address a.port ++ database = approach b.address b.port ++ database' ↔
      setting = .port ∧ a.address = none := by
  have hsame : a.database = b.database → database = database' := by
    intro h
    rw [ha, hb] at h
    exact Option.some.inj h
  cases hdiffer with
  | address hne hport hdatabase =>
    rw [hsame hdatabase, hport, String.append_left_inj]
    simp only [reduceCtorEq, false_and, iff_false]
    intro h
    exact hne (approach_injective h)
  | port haddress hne hdatabase =>
    rw [hsame hdatabase, ← haddress, String.append_left_inj, approach_eq_iff]
    simp [hne]
  | database haddress hport hne =>
    rw [haddress, hport, String.append_right_inj]
    simp only [reduceCtorEq, false_and, iff_false]
    intro h
    rw [ha, hb, h] at hne
    exact hne rfl

/-- A server has a path just if it has a database, and the path ends with that. Two servers that
differ in one setting have different paths, unless they only name ports where neither has an
address. -/
theorem path_keeps_settings (server : Server) :
    (∀ fault, databasePath server = .error fault ↔
      server.database = none ∧ fault = .missing "database") ∧
    (∀ database, server.database = some database →
      ∃ front, databasePath server = .ok (front ++ database)) ∧
    ∀ other setting, DifferIn server other setting → server.database.isSome →
      other.database.isSome → ∃ path path', databasePath server = .ok path ∧
        databasePath other = .ok path' ∧
        (path = path' ↔ setting = .port ∧ server.address = none ∧ other.address = none) := by
  refine ⟨fun fault => databasePath_eq_error_iff,
    fun database h => ⟨_, databasePath_of_database h⟩, ?_⟩
  intro other setting hdiffer hserver hother
  obtain ⟨database, hserver⟩ := Option.isSome_iff_exists.mp hserver
  obtain ⟨database', hother⟩ := Option.isSome_iff_exists.mp hother
  refine ⟨_, _, databasePath_of_database hserver, databasePath_of_database hother, ?_⟩
  rw [path_eq_iff hdiffer hserver hother]
  apply and_congr_right
  intro hsetting
  subst hsetting
  cases hdiffer with
  | port haddress hne hdatabase => rw [← haddress, and_self]

/-- A server whose address looks as if it ended with a port. -/
def portInAddress : Server :=
  { address := some "localhost/3051", port := 3051, database := some "employee" }

theorem path_keeps_settings_portInAddress :
    (∃ front, databasePath portInAddress = .ok (front ++ "employee")) ∧
      (∃ path path', databasePath portInAddress = .ok path ∧
        databasePath { portInAddress with port := defaultPort } = .ok path' ∧ path ≠ path') ∧
      ∃ path path', databasePath { portInAddress with address := none } = .ok path ∧
        databasePath { portInAddress with address := none, port := defaultPort } = .ok path' ∧
        path = path' := by
  obtain ⟨-, hends, hdiffer⟩ := path_keeps_settings portInAddress
  obtain ⟨-, -, hlocal⟩ := path_keeps_settings { portInAddress with address := none }
  obtain ⟨path, path', hpath, hpath', hiff⟩ :=
    hdiffer { portInAddress with port := defaultPort } .port (.port rfl (by decide) rfl) rfl rfl
  obtain ⟨bare, bare', hbare, hbare', hiff'⟩ :=
    hlocal { portInAddress with address := none, port := defaultPort } .port
      (.port rfl (by decide) rfl) rfl rfl
  refine ⟨hends "employee" rfl, ⟨path, path', hpath, hpath', ?_⟩,
    ⟨bare, bare', hbare, hbare', hiff'.mpr ⟨rfl, rfl, rfl⟩⟩⟩
  rw [ne_eq, hiff]
  simp [portInAddress]

end RemoteFirebird.Session
