import Mathlib.Data.List.Chain
import RemoteFirebird.Proofs.Sorted
import RemoteFirebird.Proofs.Sql.Quoting

/-!
# Bare names

The table of reserved words is strictly ascending, so the search by halving finds every word of the
table and no other. A name is then written without quotes just if that is safe: it is made of small
letters, digits and underscores, does not begin with a digit, and is not in the table.
-/

namespace RemoteFirebird.Sql

/-! ### Reserved words -/

private theorem ascending_reservedWords : reservedWords.toList.Pairwise (· < ·) := by
  -- There are too many pairs to compare them all, and neighbours are enough.
  have hneighbours : reservedWords.toList.IsChain (· < ·) := by decide +kernel
  exact List.isChain_iff_pairwise.mp hneighbours

private theorem isReserved_iff {word : String} :
    isReserved word = true ↔ word ∈ reservedWords.toList := by
  have hfound : ∀ found, Sorted.search id reservedWords word = some found ↔
      found ∈ reservedWords.toList ∧ found = word := fun _ =>
    Sorted.search_eq_some_iff ascending_reservedWords
  rw [isReserved, Option.isSome_iff_exists]
  simp only [hfound, exists_eq_right]

namespace Identifier

/-! ### Safe names -/

/-- Whether a name keeps its meaning without quotes. -/
structure Safe (name : String) : Prop where
  nonempty : name ≠ ""
  first : ∀ c ∈ name.toList.head?, ('a' ≤ c ∧ c ≤ 'z') ∨ c = '_'
  word : ∀ c ∈ name.toList, ('a' ≤ c ∧ c ≤ 'z') ∨ ('0' ≤ c ∧ c ≤ '9') ∨ c = '_'
  unreserved : name ∉ reservedWords.toList

private theorem isFirst_iff {c : Char} : isFirst c = true ↔ ('a' ≤ c ∧ c ≤ 'z') ∨ c = '_' := by
  simp [isFirst]

private theorem isFurther_iff {c : Char} :
    isFurther c = true ↔ ('a' ≤ c ∧ c ≤ 'z') ∨ ('0' ≤ c ∧ c ≤ '9') ∨ c = '_' := by
  rw [isFurther, Bool.or_eq_true, isFirst_iff, or_assoc, or_comm (a := c = '_')]
  simp

private theorem isPlain_iff_safe {name : String} : isPlain name = true ↔ Safe name := by
  have hreserved : (!isReserved name) = true ↔ name ∉ reservedWords.toList := by
    rw [Bool.not_eq_true', ← Bool.not_eq_true, isReserved_iff]
  cases hname : name.toList with
  | nil =>
    obtain rfl := String.toList_eq_nil_iff.mp hname
    simp only [isPlain, hname, Bool.false_eq_true, false_iff]
    exact fun h => h.nonempty rfl
  | cons c cs =>
    simp only [isPlain, hname, Bool.and_eq_true, List.all_eq_true, hreserved, isFirst_iff,
      isFurther_iff]
    constructor
    · intro h
      obtain ⟨⟨hfirst, hfurther⟩, hunreserved⟩ := h
      refine ⟨?_, ?_, ?_, hunreserved⟩
      · intro hempty
        simp [hempty] at hname
      · simpa [hname] using hfirst
      · rw [hname, List.forall_mem_cons]
        refine ⟨?_, hfurther⟩
        rcases hfirst with hletter | hunderscore
        · exact .inl hletter
        · exact .inr (.inr hunderscore)
    · intro h
      have hword := h.word
      rw [hname, List.forall_mem_cons] at hword
      exact ⟨⟨h.first c (by simp [hname]), hword.2⟩, h.unreserved⟩

private theorem length_le_doubled (cs : List Char) : cs.length ≤ (cs.flatMap doubled).length := by
  induction cs with
  | nil => exact Nat.le_refl _
  | cons c cs ih =>
    have hc : 1 ≤ (doubled c).length := by
      rw [doubled]
      split <;> simp
    rw [List.flatMap_cons, List.length_append, List.length_cons]
    omega

private theorem quote_ne (name : String) : quote name ≠ name := by
  intro heq
  have hlength := congrArg (fun text => text.toList.length) heq
  have hgrown := length_le_doubled name.toList
  simp only [toList_quote, List.length_cons, List.length_append, List.length_nil] at hlength
  omega

private theorem sql_eq_text_iff {i : Identifier} : i.sql = i.text ↔ i.isBare = true := by
  rw [sql]
  split
  next hbare => simp [hbare]
  next hbare => simp [hbare, quote_ne]

private theorem isBare_iff {i : Identifier} : i.isBare = true ↔ i.forced = false ∧ Safe i.text := by
  rw [isBare, Bool.and_eq_true, Bool.not_eq_true', isPlain_iff_safe]

/-! ### Names that are never bare -/

/-- Names that would mean something else without quotes, or nothing. -/
inductive NeedsQuotes : String → Prop
  | empty : NeedsQuotes ""
  | rowIdentity : NeedsQuotes Attribute.rowIdentityColumn
  | null : NeedsQuotes "null"
  | capital {name : String} {c : Char} (hmem : c ∈ name.toList) (hc : c.isUpper = true) :
    NeedsQuotes name
  | nonAscii {name : String} {c : Char} (hmem : c ∈ name.toList) (hc : 127 < c.toNat) :
    NeedsQuotes name

private theorem toNat_of_word {c : Char} (h : ('a' ≤ c ∧ c ≤ 'z') ∨ ('0' ≤ c ∧ c ≤ '9') ∨ c = '_') :
    c.toNat ≤ 122 ∧ ¬(65 ≤ c.toNat ∧ c.toNat ≤ 90) := by
  rcases h with hletter | hdigit | rfl
  · have hlo : 97 ≤ c.toNat := hletter.1
    have hhi : c.toNat ≤ 122 := hletter.2
    omega
  · have hhi : c.toNat ≤ 57 := hdigit.2
    omega
  · decide

private theorem NeedsQuotes.not_safe {name : String} (h : NeedsQuotes name) : ¬Safe name := by
  intro hsafe
  cases h with
  | empty => exact hsafe.nonempty rfl
  | rowIdentity =>
    have hdollar := hsafe.word '$' (by decide)
    revert hdollar
    decide
  | null =>
    have hreserved : isReserved "null" = true := by decide +kernel
    exact hsafe.unreserved (isReserved_iff.mp hreserved)
  | @capital _ c hmem hc =>
    have hbounds : 65 ≤ c.toNat ∧ c.toNat ≤ 90 := of_decide_eq_true hc
    exact (toNat_of_word (hsafe.word c hmem)).2 hbounds
  | nonAscii hmem hc =>
    have hle := (toNat_of_word (hsafe.word _ hmem)).1
    omega

/-- An identifier is written as it stands just if quotes are not forced on it and its name is safe,
and otherwise between quotes. Names that would mean something else are never written as they
stand. -/
theorem bare_iff_safe (i : Identifier) :
    (i.isBare = true ↔ i.sql = i.text) ∧
      (i.sql = i.text ↔ i.forced = false ∧ Safe i.text) ∧
      (¬(i.forced = false ∧ Safe i.text) → i.sql = quote i.text) ∧
      (NeedsQuotes i.text → i.sql ≠ i.text) := by
  rw [← isBare_iff]
  refine ⟨sql_eq_text_iff.symm, sql_eq_text_iff, fun hquoted => ?_, fun hneeds => ?_⟩
  · rw [sql, if_neg hquoted]
  · rw [ne_eq, sql_eq_text_iff, isBare_iff]
    exact fun h => hneeds.not_safe h.2

/-- A word that is not reserved although its beginning is, and one that is. -/
theorem bare_iff_safe_words :
    Safe "order_" ∧ (⟨"order_", false⟩ : Identifier).sql = "order_" ∧
      (⟨"order_", true⟩ : Identifier).sql = quote "order_" ∧
      NeedsQuotes "null" ∧ (⟨"null", false⟩ : Identifier).sql ≠ "null" := by
  have hsafe : Safe "order_" := isPlain_iff_safe.mp (by decide +kernel)
  obtain ⟨-, hbare, -, -⟩ := bare_iff_safe ⟨"order_", false⟩
  obtain ⟨-, -, hforced, -⟩ := bare_iff_safe ⟨"order_", true⟩
  obtain ⟨-, -, -, hnull⟩ := bare_iff_safe ⟨"null", false⟩
  exact ⟨hsafe, hbare.mpr ⟨rfl, hsafe⟩, hforced (by simp), .null, hnull .null⟩

end Identifier

end RemoteFirebird.Sql
