import RemoteFirebird.Proofs.Sql.Reader

/-!
# Tokens of a text

What the scan makes of a text that is put together from fixed words, identifiers and lists. An
identifier is its own token in front of anything that can follow one in a statement: quotes tell
where it ends, and without quotes it has no character that the marks and blanks behind it have.
-/

namespace RemoteFirebird.Sql

variable {a b : String} {ts us : List Token}

/-- An identifier that stands in front of such a text ends there. -/
def Sealed : List Char → Prop
  | [] => True
  | c :: _ => isWordChar c = false ∧ c ≠ '"'

instance : DecidablePred Sealed
  | [] => .isTrue trivial
  | c :: _ => inferInstanceAs (Decidable (isWordChar c = false ∧ c ≠ '"'))

namespace Scan

variable {m m' : Scan}

private theorem run_append (m : Scan) (x y : List Char) :
    m.run (x ++ y) = (m.run x).bind fun r => (r.2.run y).map fun r' => (r.1 ++ r'.1, r'.2) := by
  induction x generalizing m with
  | nil => cases h : m.run y <;> simp [run, h]
  | cons c x ih =>
    cases h : m.next c with
    | none => simp [run, h]
    | some r =>
      cases hx : r.2.run x with
      | none => simp [run, h, ih, hx]
      | some r' => cases hy : r'.2.run y <;> simp [run, h, ih, hx, hy]

private theorem tokens?_append {x : List Char} (h : m.run x = some (ts, m')) (y : List Char) :
    m.tokens? (x ++ y) = (m'.tokens? y).map (ts ++ ·) := by
  simp only [tokens?, run_append, h]
  cases hy : m'.run y with
  | none => simp [hy]
  | some r => cases hf : r.2.finish <;> simp [hy, hf]

private theorem next_of_finish {t : Token} {c : Char} (h : m.finish = some [t])
    (hword : isWordChar c = false) (hquote : c ≠ '"') :
    m.next c = (enter c).map fun r => (t :: r.1, r.2) := by
  cases m with
  | between => simp [finish] at h
  | word cs =>
    obtain rfl : .word (String.ofList cs) = t := by simpa [finish] using h
    simp [next, hword]
  | quoted cs => simp [finish] at h
  | atQuote cs =>
    obtain rfl : .quoted (String.ofList cs) = t := by simpa [finish] using h
    simp [next, hquote]

private theorem tokens?_of_finish {t : Token} {y : List Char} (h : m.finish = some [t])
    (hy : Sealed y) :
    m.tokens? y = (between.tokens? y).map (t :: ·) := by
  cases y with
  | nil =>
    simp only [tokens?, run, Option.bind_eq_bind, Option.bind_some, h]
    rfl
  | cons c y =>
    obtain ⟨hword, hquote⟩ := hy
    simp only [tokens?, run, next_of_finish h hword hquote]
    cases hc : enter c with
    | none => simp [next, hc]
    | some r =>
      cases hr : r.2.run y with
      | none => simp [next, hc, hr]
      | some r' => cases hf : r'.2.finish <;> simp [next, hc, hr, hf]

private theorem run_word {cs w : List Char} (h : cs.all isWordChar) :
    (word w).run cs = some ([], word (w ++ cs)) := by
  induction cs generalizing w with
  | nil => simp [run]
  | cons c cs ih =>
    have ⟨hc, hcs⟩ : isWordChar c = true ∧ cs.all isWordChar = true := by simpa using h
    simp [run, next, hc, ih hcs]

private theorem run_quoted (cs w : List Char) :
    (quoted w).run (cs.flatMap (fun c => if c = '"' then ['"', '"'] else [c]) ++ ['"']) =
      some ([], atQuote (w ++ cs)) := by
  induction cs generalizing w with
  | nil => simp [run, next]
  | cons c cs ih =>
    by_cases hc : c = '"'
    · simp [run, next, hc, ih]
    · simp [run, next, hc, ih]

end Scan

open Scan

/-- In front of a sealed text, the text is read as these tokens. -/
def Reads (text : String) (ts : List Token) : Prop :=
  ∀ y, Sealed y → between.tokens? (text.toList ++ y) = (between.tokens? y).map (ts ++ ·)

theorem Sealed.append {x y : List Char} (hx : Sealed x) (hy : Sealed y) : Sealed (x ++ y) := by
  cases x with
  | nil => exact hy
  | cons c x => exact hx

theorem Sealed.append_string (ha : Sealed a.toList) (hb : Sealed b.toList) :
    Sealed (a ++ b).toList := by
  rw [String.toList_append]
  exact ha.append hb

theorem sealed_append (ha : Sealed a.toList) (hne : a.toList ≠ []) : Sealed (a ++ b).toList := by
  rw [String.toList_append]
  cases h : a.toList with
  | nil => exact (hne h).elim
  | cons c x =>
    rw [h] at ha
    exact ha

/-- A fixed text that ends with a mark or a blank may stand in front of anything. -/
theorem Reads.behind (h : between.run a.toList = some (ts, .between)) (hb : Reads b us) :
    Reads (a ++ b) (ts ++ us) := by
  intro y hy
  rw [String.toList_append, List.append_assoc, tokens?_append h, hb y hy, Option.map_map]
  simp [Function.comp_def]

theorem Reads.append (ha : Reads a ts) (hb : Reads b us) (hsealed : Sealed b.toList) :
    Reads (a ++ b) (ts ++ us) := by
  intro y hy
  rw [String.toList_append, List.append_assoc, ha _ (hsealed.append hy), hb y hy, Option.map_map]
  simp [Function.comp_def]

theorem Reads.empty : Reads "" [] := by
  intro y hy
  simp

theorem Reads.fixed (h : between.run a.toList = some (ts, .between)) : Reads a ts := by
  simpa using Reads.behind h .empty

/-- A fixed text may end with a word, too. -/
theorem Reads.of_run {m : Scan} {t : Token} (h : between.run a.toList = some (ts, m))
    (hm : m.finish = some [t]) : Reads a (ts ++ [t]) := by
  intro y hy
  rw [tokens?_append h, tokens?_of_finish hm hy, Option.map_map]
  simp [Function.comp_def]

theorem Reads.tokens? (h : Reads a ts) : between.tokens? a.toList = some ts := by
  have hempty := h [] (by decide)
  simpa [Scan.tokens?, run, finish] using hempty

/-! ### Identifiers -/

/-- The token as which an identifier is read. -/
def Identifier.token (i : Identifier) : Token :=
  if i.isBare then .word i.text else .quoted i.text

theorem isWordChar_of_isFurther {c : Char} (h : Identifier.isFurther c = true) :
    isWordChar c = true := by
  simp only [Identifier.isFurther, Identifier.isFirst, Bool.or_eq_true] at h
  rcases h with (hletter | hunderscore) | hdigit
  · simp [isWordChar, hletter]
  · simp [isWordChar, hunderscore]
  · simp [isWordChar, hdigit]

theorem Identifier.isPlain_toList {text : String} (h : isPlain text = true) :
    ∃ c cs, text.toList = c :: cs ∧ isFirst c = true ∧ cs.all isFurther = true := by
  simp only [isPlain] at h
  split at h
  next => simp at h
  next c cs htext =>
    simp only [Bool.and_eq_true] at h
    exact ⟨c, cs, htext, h.1.1, h.1.2⟩

/-- Wherever an identifier stands in front of a sealed text, it is read as itself. -/
theorem Identifier.reads (i : Identifier) : Reads i.sql [i.token] := by
  intro y hy
  by_cases hbare : i.isBare = true
  · have hplain : isPlain i.text = true := by
      simp only [isBare, Bool.and_eq_true] at hbare
      exact hbare.2
    obtain ⟨c, cs, htext, hfirst, hfurther⟩ := isPlain_toList hplain
    have hc : isFurther c = true := by simp [isFurther, hfirst]
    have hblank : c ≠ ' ' := by
      intro heq
      subst heq
      simp [isFirst] at hfirst
    have hquote : c ≠ '"' := by
      intro heq
      subst heq
      simp [isFirst] at hfirst
    have hcs : cs.all isWordChar = true := by
      rw [List.all_eq_true] at hfurther ⊢
      exact fun d hd => isWordChar_of_isFurther (hfurther d hd)
    have hrun : between.run i.text.toList = some ([], .word i.text.toList) := by
      rw [htext, run]
      simp [next, enter, hblank, hquote, isWordChar_of_isFurther hc, run_word hcs]
    rw [sql, if_pos hbare, tokens?_append hrun, tokens?_of_finish (t := i.token) ?_ hy]
    · simp [Function.comp_def]
    · simp [finish, token, hbare]
  · have hrun : between.run (quote i.text).toList = some ([], .atQuote i.text.toList) := by
      rw [quote, String.toList_ofList, List.cons_append, run]
      simp [next, enter, run_quoted]
    rw [sql, if_neg hbare, tokens?_append hrun, tokens?_of_finish (t := i.token) ?_ hy]
    · simp [Function.comp_def]
    · simp [finish, token, hbare]

@[simp] theorem Identifier.name?_token (i : Identifier) : i.token.name? = some i.text := by
  by_cases hbare : i.isBare = true
  · have hplain : isPlain i.text = true := by
      simp only [isBare, Bool.and_eq_true] at hbare
      exact hbare.2
    simp [token, hbare, Token.name?, hplain]
  · simp [token, hbare, Token.name?]

/-- A bare name is neither NULL nor the row identity. -/
@[simp] theorem Identifier.operand?_token (i : Identifier) :
    i.token.operand? = some (.name i.text) := by
  have hname := i.name?_token
  by_cases hbare : i.isBare = true
  · have hplain : isPlain i.text = true := by
      simp only [isBare, Bool.and_eq_true] at hbare
      exact hbare.2
    have hnull : i.text ≠ "NULL" := by
      intro h
      rw [h] at hplain
      exact absurd hplain (by decide)
    have hkey : i.text ≠ Attribute.rowIdentityColumn := by
      intro h
      rw [h] at hplain
      exact absurd hplain (by decide)
    rw [token, if_pos hbare] at hname ⊢
    simp [Token.operand?, hnull, hkey, hname]
  · rw [token, if_neg hbare] at hname ⊢
    simp [Token.operand?, hname]

/-! ### Lists -/

theorem Reads.intercalate {α : Type} {f : α → String} {g : α → List Token}
    (h : ∀ x, Reads (f x) (g x)) (xs : List α) :
    Reads (", ".intercalate (xs.map f)) (List.intercalate [.comma] (xs.map g)) := by
  induction xs with
  | nil => exact .empty
  | cons x xs ih =>
    cases xs with
    | nil =>
      rw [List.map_singleton, List.map_singleton, String.intercalate_singleton,
        List.intercalate_singleton]
      exact h x
    | cons y xs =>
      simp only [List.map_cons] at ih ⊢
      rw [String.intercalate_cons_cons, List.intercalate_cons_cons, List.append_assoc,
        String.append_assoc]
      have hcomma : between.run ", ".toList = some ([.comma], .between) := by decide
      exact (h x).append (.behind hcomma ih) (sealed_append (by decide) (by decide))

end RemoteFirebird.Sql
