import RemoteFirebird.Proofs.Sql.Tokens

/-!
# Quoting

A single identifier at the start of a text can be read back without knowing whether it was quoted,
and reading it leaves just what follows it. A quoted name ends at the first quote that is not
doubled, and a bare one where no more characters of a word follow. So two names are never written
alike, however they are quoted.
-/

namespace RemoteFirebird.Sql

namespace Identifier

/-- A character as it is written between quotes. -/
def doubled (c : Char) : List Char :=
  if c = '"' then ['"', '"'] else [c]

/-- Reads the rest of a quoted name, up to the quote that closes it. Two quotes next to each other
stand for one in the name. -/
def unquote? : List Char → Option (List Char × List Char)
  | [] => none
  | '"' :: '"' :: cs => (unquote? cs).map fun r => ('"' :: r.1, r.2)
  | '"' :: cs => some ([], cs)
  | c :: cs => (unquote? cs).map fun r => (c :: r.1, r.2)

/-- Reads the identifier at the start of a text, and says what is left of the text. -/
def read? (text : String) : Option (String × String) :=
  match text.toList with
  | '"' :: cs => (unquote? cs).map fun r => (String.ofList r.1, String.ofList r.2)
  | cs => some (String.ofList (cs.takeWhile isWordChar), String.ofList (cs.dropWhile isWordChar))

theorem toList_quote (text : String) :
    (quote text).toList = '"' :: (text.toList.flatMap doubled ++ ['"']) := by
  rw [quote, String.toList_ofList]
  rfl

private theorem unquote?_of_ne {c : Char} (h : c ≠ '"') (cs : List Char) :
    unquote? (c :: cs) = (unquote? cs).map fun r => (c :: r.1, r.2) := by
  cases cs <;> simp [unquote?, h]

private theorem unquote?_eq_some_iff {text name rest : List Char} :
    unquote? text = some (name, rest) ↔
      text = name.flatMap doubled ++ '"' :: rest ∧ rest.head? ≠ some '"' := by
  constructor
  · intro h
    fun_induction unquote? text generalizing name with
    | case1 => simp at h
    | case2 cs ih =>
      obtain ⟨r, hr, heq⟩ := Option.map_eq_some_iff.mp h
      obtain ⟨rfl, rfl⟩ := Prod.mk.inj heq
      obtain ⟨hcs, hrest⟩ := ih hr
      exact ⟨by simp [hcs, doubled], hrest⟩
    | case3 cs hcs =>
      obtain ⟨rfl, rfl⟩ := Prod.mk.inj (Option.some.inj h)
      refine ⟨rfl, fun hhead => ?_⟩
      obtain ⟨tail, htail⟩ := List.head?_eq_some_iff.mp hhead
      exact hcs tail htail
    | case4 c cs _ hc ih =>
      obtain ⟨r, hr, heq⟩ := Option.map_eq_some_iff.mp h
      obtain ⟨rfl, rfl⟩ := Prod.mk.inj heq
      obtain ⟨hcs, hrest⟩ := ih hr
      have hc' : c ≠ '"' := fun he => hc he
      exact ⟨by simp [hcs, doubled, hc'], hrest⟩
  · intro h
    obtain ⟨rfl, hrest⟩ := h
    induction name with
    | nil =>
      cases rest with
      | nil => rfl
      | cons d ds =>
        have hd : d ≠ '"' := by simpa using hrest
        simp [unquote?, hd]
    | cons c cs ih =>
      by_cases hc : c = '"'
      · subst hc
        simp [doubled, unquote?, ih]
      · simp [doubled, hc, unquote?_of_ne hc, ih]

private theorem head?_ne_quote {rest : List Char} (h : Sealed rest) : rest.head? ≠ some '"' := by
  cases rest with
  | nil => simp
  | cons c cs => simpa using h.2

private theorem takeWhile_append_of_sealed {word rest : List Char} (hword : word.all isWordChar)
    (hrest : Sealed rest) :
    (word ++ rest).takeWhile isWordChar = word ∧ (word ++ rest).dropWhile isWordChar = rest := by
  have hall : ∀ c ∈ word, isWordChar c = true := List.all_eq_true.mp hword
  rw [List.takeWhile_append_of_pos hall, List.dropWhile_append_of_pos hall]
  cases rest with
  | nil => simp
  | cons c cs => simp [hrest.1]

private theorem all_isWordChar_of_isPlain {text : String} (h : isPlain text = true) :
    ∃ c cs, text.toList = c :: cs ∧ c ≠ '"' ∧ (c :: cs).all isWordChar := by
  obtain ⟨c, cs, htext, hfirst, hfurther⟩ := isPlain_toList h
  refine ⟨c, cs, htext, ?_, ?_⟩
  · intro heq
    subst heq
    simp [isFirst] at hfirst
  · have hc : isWordChar c = true := isWordChar_of_isFurther (by simp [isFurther, hfirst])
    have hcs : ∀ d ∈ cs, isWordChar d = true := fun d hd =>
      isWordChar_of_isFurther (List.all_eq_true.mp hfurther d hd)
    simpa [hc] using hcs

private theorem read?_quote (text : String) {rest : String} (h : Sealed rest.toList) :
    read? (quote text ++ rest) = some (text, rest) := by
  have hunquote : unquote? (text.toList.flatMap doubled ++ '"' :: rest.toList) =
      some (text.toList, rest.toList) := unquote?_eq_some_iff.mpr ⟨rfl, head?_ne_quote h⟩
  rw [read?, String.toList_append, toList_quote]
  simp [hunquote]

private theorem read?_plain {text rest : String} (hplain : isPlain text = true)
    (h : Sealed rest.toList) :
    read? (text ++ rest) = some (text, rest) := by
  obtain ⟨c, cs, htext, hc, hword⟩ := all_isWordChar_of_isPlain hplain
  obtain ⟨htake, hdrop⟩ := takeWhile_append_of_sealed hword h
  rw [read?, String.toList_append, htext]
  split
  next heq => simp [hc] at heq
  next => rw [htake, hdrop, ← htext, String.ofList_toList, String.ofList_toList]

/-- An identifier in front of a text that cannot go on with it is read back as its name, and the
text is what is left. -/
theorem read?_sql (i : Identifier) {rest : String} (h : Sealed rest.toList) :
    read? (i.sql ++ rest) = some (i.text, rest) := by
  rw [sql]
  split
  next hbare =>
    have hplain : isPlain i.text = true := by
      simp only [isBare, Bool.and_eq_true] at hbare
      exact hbare.2
    exact read?_plain hplain h
  next => exact read?_quote i.text h

private theorem read?_sql_self (i : Identifier) : read? i.sql = some (i.text, "") := by
  have hread : read? (i.sql ++ "") = some (i.text, "") := i.read?_sql trivial
  rwa [String.append_empty] at hread

/-- Every identifier can be read back in front of whatever cannot go on with it, and no two names
are written alike, whether quotes are forced on them or not. -/
theorem quoting_reversible :
    (∀ (i : Identifier) (rest : String), Sealed rest.toList →
      read? (i.sql ++ rest) = some (i.text, rest)) ∧
      ∀ i j : Identifier, i.sql = j.sql → i.text = j.text := by
  refine ⟨fun i rest h => i.read?_sql h, fun i j heq => ?_⟩
  have hi := i.read?_sql_self
  have hj := j.read?_sql_self
  rw [heq, hj] at hi
  exact (Prod.mk.inj (Option.some.inj hi)).1.symm

/-- A name that is nothing but quotes. -/
example : read? "\"\"\"\"\"\", x" = some ("\"\"", ", x") := by decide

end Identifier

end RemoteFirebird.Sql
