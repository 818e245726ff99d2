import BlockScript.Script.Literal
import BlockScript.Proofs.Text.Trimming

/-!
# String literals written and read

A literal that was written can be read back, whatever text follows it
(`unquoteChars_quoteChars_append`): no character of its value moves the closing quote. A written
literal stays on its line: no line end and no tab stands in it as such (`unbroken_quoteChars`).
-/

set_option autoImplicit false

namespace BlockScript.Script

/-! ## One character -/

/-- Reading one written character puts it to the value read so far. -/
theorem unquoteAfter_escapeChar_append (value : List Char) (c : Char) (rest : List Char) :
    unquoteAfter value (escapeChar c ++ rest) = unquoteAfter (c :: value) rest := by
  by_cases quote : c = '"'
  · subst quote
    rfl
  by_cases backslash : c = '\\'
  · subst backslash
    rfl
  by_cases feed : c = '\n'
  · subst feed
    rfl
  by_cases carriageReturn : c = '\r'
  · subst carriageReturn
    rfl
  by_cases tab : c = '\t'
  · subst tab
    rfl
  have plain : escapeChar c = [c] := by simp [escapeChar]
  rw [plain, List.singleton_append]
  simp [unquoteAfter, backslash]

/-! ## Whole literals -/

/-- Reading what was written between the quotes. -/
theorem unquoteAfter_flatMap_append (value cs rest : List Char) :
    unquoteAfter value (cs.flatMap escapeChar ++ '"' :: rest) =
      .ok (value.reverse ++ cs, rest) := by
  induction cs generalizing value with
  | nil => simp [unquoteAfter]
  | cons c cs ih =>
      rw [List.flatMap_cons, List.append_assoc, unquoteAfter_escapeChar_append, ih]
      simp

/-- **A written literal is read back, whatever follows it.** -/
theorem unquoteChars_quoteChars_append (cs rest : List Char) :
    unquoteChars (quoteChars cs ++ rest) = .ok (cs, rest) := by
  have inside := unquoteAfter_flatMap_append [] cs rest
  rw [quoteChars, List.cons_append, List.cons_append, unquoteChars, List.append_assoc]
  exact inside

/-- Two literals that start one text are the same. -/
theorem quoteChars_append_inj {cs ds rest more : List Char}
    (same : quoteChars cs ++ rest = quoteChars ds ++ more) : cs = ds ∧ rest = more := by
  have read := congrArg unquoteChars same
  rw [unquoteChars_quoteChars_append, unquoteChars_quoteChars_append] at read
  exact Prod.mk.inj (Except.ok.inj read)

/-- The last character of a written literal is its closing quote. -/
theorem getLast?_quoteChars (cs : List Char) : (quoteChars cs).getLast? = some '"' := by
  rw [quoteChars]
  exact List.getLast?_concat

/-! ## Line ends and tabs -/

/-- No line end and no tab stands in the text as such. -/
def Unbroken (cs : List Char) : Prop := '\n' ∉ cs ∧ '\r' ∉ cs ∧ '\t' ∉ cs

instance (cs : List Char) : Decidable (Unbroken cs) :=
  inferInstanceAs (Decidable ('\n' ∉ cs ∧ '\r' ∉ cs ∧ '\t' ∉ cs))

theorem unbroken_append {cs ds : List Char} :
    Unbroken (cs ++ ds) ↔ Unbroken cs ∧ Unbroken ds := by
  simp only [Unbroken, List.mem_append]
  grind

theorem unbroken_flatMap {α : Type} {written : α → List Char} {items : List α} :
    Unbroken (items.flatMap written) ↔ ∀ item ∈ items, Unbroken (written item) := by
  simp only [Unbroken, List.mem_flatMap]
  grind

/-- A written character is without a line end and without a tab. -/
theorem unbroken_escapeChar (c : Char) : Unbroken (escapeChar c) := by
  unfold escapeChar
  split <;> simp_all [Unbroken, eq_comm]

/-- A written literal is without a line end and without a tab. -/
theorem unbroken_quoteChars (cs : List Char) : Unbroken (quoteChars cs) := by
  have inside : Unbroken (cs.flatMap escapeChar) :=
    unbroken_flatMap.mpr fun c _ => unbroken_escapeChar c
  have opening : Unbroken ['"'] := by decide
  exact unbroken_append.mpr ⟨unbroken_append.mpr ⟨opening, inside⟩, opening⟩

/-- A written literal has no line feed in it. -/
theorem newline_notMem_quoteChars (cs : List Char) : '\n' ∉ quoteChars cs :=
  (unbroken_quoteChars cs).1

end BlockScript.Script
