import BlockScript.Proofs.Fallible
import BlockScript.Proofs.Script.Literal

/-!
# The grammar of string literals

A literal is a sequence of items between two quotes (`literalText`). An item is a character that is
neither a quote nor a backslash and stands for itself, or a backslash with one of five marks, which
stands for the character that the mark names; together the items stand for a text (`literalValue`).

The reader of literals decides this grammar (`unquote_exact`). A literal that holds no raw line end
and no raw tab is the one that is written for its value, and no other one is. Written literals are
such (`quote_delimited`), and they tell by themselves where they end.
-/

set_option autoImplicit false

namespace BlockScript.Script

/-! ## Items -/

/-- What a backslash may stand before in a literal. -/
inductive Escape where
  | quote
  | backslash
  | feed
  | carriageReturn
  | tab
  deriving DecidableEq, Repr

/-- The character after the backslash. -/
def Escape.mark : Escape → Char
  | quote => '"'
  | backslash => '\\'
  | feed => 'n'
  | carriageReturn => 'r'
  | tab => 't'

/-- Each mark names one character. -/
theorem Escape.mark_injective : Function.Injective Escape.mark := by
  intro escape another
  cases escape <;> cases another <;> decide

/-- The character for which the backslash and its mark stand. -/
def Escape.value : Escape → Char
  | quote => '"'
  | backslash => '\\'
  | feed => '\n'
  | carriageReturn => '\r'
  | tab => '\t'

/-- One item between the quotes of a literal. -/
inductive LiteralItem where
  /-- A character that stands for itself. -/
  | plain (c : Char) (noQuote : c ≠ '"') (noBackslash : c ≠ '\\')
  /-- A backslash and a mark. -/
  | escaped (escape : Escape)

namespace LiteralItem

/-- The characters of an item. -/
def chars : LiteralItem → List Char
  | plain c _ _ => [c]
  | escaped escape => ['\\', escape.mark]

/-- The character for which an item stands. -/
def value : LiteralItem → Char
  | plain c _ _ => c
  | escaped escape => escape.value

end LiteralItem

/-- The literal that is made up of items. -/
def literalText (items : List LiteralItem) : String :=
  String.ofList ('"' :: items.flatMap LiteralItem.chars ++ ['"'])

/-- The text for which items stand. -/
def literalValue (items : List LiteralItem) : String :=
  String.ofList (items.map LiteralItem.value)

/-! ## Reading -/

/-- Marks are read as what they name. -/
theorem unescape?_eq_some_iff {mark c : Char} :
    unescape? mark = some c ↔ ∃ escape : Escape, escape.mark = mark ∧ escape.value = c := by
  constructor
  · intro known
    unfold unescape? at known
    split at known
    · exact ⟨.quote, rfl, Option.some.inj known⟩
    · exact ⟨.backslash, rfl, Option.some.inj known⟩
    · exact ⟨.feed, rfl, Option.some.inj known⟩
    · exact ⟨.carriageReturn, rfl, Option.some.inj known⟩
    · exact ⟨.tab, rfl, Option.some.inj known⟩
    · cases known
  · rintro ⟨escape, rfl, rfl⟩
    cases escape <;> rfl

/-- Reading an item puts what it stands for to the value read so far. -/
theorem unquoteAfter_chars_append (value : List Char) (item : LiteralItem) (rest : List Char) :
    unquoteAfter value (item.chars ++ rest) = unquoteAfter (item.value :: value) rest := by
  cases item with
  | plain c noQuote noBackslash =>
      simp [LiteralItem.chars, LiteralItem.value, unquoteAfter, noBackslash]
  | escaped escape => cases escape <;> rfl

/-- **Between the quotes the reader accepts sequences of items.** -/
theorem unquoteAfter_eq_ok_iff_items {value cs result rest : List Char} :
    unquoteAfter value cs = .ok (result, rest) ↔
      ∃ items : List LiteralItem, cs = items.flatMap LiteralItem.chars ++ '"' :: rest ∧
        result = value.reverse ++ items.map LiteralItem.value := by
  constructor
  · intro reads
    fun_induction unquoteAfter value cs with
    | case1 => cases reads
    | case2 value rest =>
        obtain ⟨rfl, rfl⟩ := Prod.mk.inj (Except.ok.inj reads)
        exact ⟨[], rfl, (List.append_nil _).symm⟩
    | case3 => cases reads
    | case4 value c others decoded known ih =>
        obtain ⟨items, rfl, rfl⟩ := ih reads
        obtain ⟨escape, rfl, rfl⟩ := unescape?_eq_some_iff.mp known
        exact ⟨.escaped escape :: items, rfl, by simp [LiteralItem.value]⟩
    | case5 => cases reads
    | case6 value c others noQuote notLast noEscape ih =>
        -- a backslash has been taken by the branches before, alone or with what follows it
        have noBackslash : c ≠ '\\' := by
          rintro rfl
          cases others with
          | nil => exact notLast rfl rfl
          | cons next others => exact noEscape next others rfl rfl
        obtain ⟨items, rfl, rfl⟩ := ih reads
        refine ⟨.plain c (fun same => noQuote same) noBackslash :: items, rfl, ?_⟩
        simp [LiteralItem.value]
  · rintro ⟨items, rfl, rfl⟩
    induction items generalizing value with
    | nil => simp [unquoteAfter]
    | cons item items ih =>
        rw [List.flatMap_cons, List.append_assoc, unquoteAfter_chars_append, ih]
        simp

/-- A literal starts with a quote. -/
theorem unquoteChars_eq_ok_iff_items {cs value rest : List Char} :
    unquoteChars cs = .ok (value, rest) ↔
      ∃ items : List LiteralItem, cs = '"' :: (items.flatMap LiteralItem.chars ++ '"' :: rest) ∧
        value = items.map LiteralItem.value := by
  constructor
  · intro reads
    unfold unquoteChars at reads
    split at reads
    · cases reads
    · obtain ⟨items, rfl, rfl⟩ := unquoteAfter_eq_ok_iff_items.mp reads
      exact ⟨items, rfl, rfl⟩
    · cases reads
  · rintro ⟨items, rfl, rfl⟩
    exact unquoteAfter_eq_ok_iff_items.mpr ⟨items, rfl, rfl⟩

/-- Reading a text is reading its characters. -/
theorem unquote_eq_ok_iff_chars {input value rest : String} :
    unquote input = .ok (value, rest) ↔
      unquoteChars input.toList = .ok (value.toList, rest.toList) := by
  rw [unquote, map_eq_ok_iff]
  constructor
  · rintro ⟨⟨cs, ds⟩, reads, same⟩
    obtain ⟨rfl, rfl⟩ := Prod.mk.inj same
    rw [reads, String.toList_ofList, String.toList_ofList]
  · intro reads
    exact ⟨_, reads, by simp only [String.ofList_toList]⟩

/-- The reader accepts a literal that is made up of items, and leaves what follows it. -/
theorem unquote_eq_ok_iff_items {input value rest : String} :
    unquote input = .ok (value, rest) ↔
      ∃ items, input = literalText items ++ rest ∧ value = literalValue items := by
  rw [unquote_eq_ok_iff_chars, unquoteChars_eq_ok_iff_items]
  simp only [literalText, literalValue, ← String.toList_inj, String.toList_append,
    String.toList_ofList, List.append_assoc, List.cons_append, List.nil_append]

/-! ## One way to read -/

/-- What starts with an item starts with no other one. -/
theorem LiteralItem.eq_of_chars_append {item other : LiteralItem} {cs ds : List Char}
    (same : item.chars ++ cs = other.chars ++ ds) : item = other ∧ cs = ds := by
  cases item with
  | plain c noQuote noBackslash =>
      cases other with
      | plain d _ _ =>
          obtain ⟨rfl, rest⟩ := List.cons.inj same
          exact ⟨rfl, rest⟩
      | escaped escape => exact absurd (List.cons.inj same).1 noBackslash
  | escaped escape =>
      cases other with
      | plain d _ noBackslash => exact absurd (List.cons.inj same).1.symm noBackslash
      | escaped another =>
          obtain ⟨marks, rest⟩ := List.cons.inj (List.cons.inj same).2
          exact ⟨congrArg escaped (Escape.mark_injective marks), rest⟩

/-- No item starts with a quote. -/
theorem LiteralItem.chars_append_ne_quote (item : LiteralItem) (cs ds : List Char) :
    item.chars ++ cs ≠ '"' :: ds := by
  cases item with
  | plain c noQuote _ => exact fun same => noQuote (List.cons.inj same).1
  | escaped escape => exact fun same => absurd (List.cons.inj same).1 (by decide)

/-- The first quote between items ends them, and what is before it is split into items in one
way. -/
theorem flatMap_chars_append_inj {items others : List LiteralItem} {rest more : List Char}
    (same : items.flatMap LiteralItem.chars ++ '"' :: rest =
      others.flatMap LiteralItem.chars ++ '"' :: more) :
    items = others ∧ rest = more := by
  -- item by item: what comes next, a quote or an item, is seen at the first character
  induction items generalizing others with
  | nil =>
      cases others with
      | nil => exact ⟨rfl, (List.cons.inj same).2⟩
      | cons other others =>
          rw [List.flatMap_cons, List.append_assoc] at same
          exact absurd same.symm (other.chars_append_ne_quote _ _)
  | cons item items ih =>
      cases others with
      | nil =>
          rw [List.flatMap_cons, List.append_assoc] at same
          exact absurd same (item.chars_append_ne_quote _ _)
      | cons other others =>
          rw [List.flatMap_cons, List.append_assoc, List.flatMap_cons, List.append_assoc] at same
          obtain ⟨rfl, others⟩ := LiteralItem.eq_of_chars_append same
          obtain ⟨rfl, rfl⟩ := ih others
          exact ⟨rfl, rfl⟩

/-! ## Literals on one line -/

/-- An item without a line end and without a tab is written for its value. -/
theorem LiteralItem.chars_eq_escapeChar {item : LiteralItem} (unbroken : Unbroken item.chars) :
    item.chars = escapeChar item.value := by
  cases item with
  | plain c noQuote noBackslash =>
      obtain ⟨feed, carriageReturn, tab⟩ := unbroken
      simp only [chars, List.mem_singleton] at feed carriageReturn tab
      unfold escapeChar
      simp_all [chars, value, eq_comm]
  | escaped escape => cases escape <;> rfl

/-- **A literal is the one that is written for its value exactly where it is unbroken.** -/
theorem literalText_eq_quote_iff (items : List LiteralItem) :
    literalText items = quote (literalValue items) ↔ Unbroken (literalText items).toList := by
  constructor
  · intro written
    rw [written, quote, String.toList_ofList]
    exact unbroken_quoteChars _
  · intro unbroken
    rw [literalText, String.toList_ofList] at unbroken
    obtain ⟨opened, -⟩ := unbroken_append.mp unbroken
    have opened : Unbroken (['"'] ++ items.flatMap LiteralItem.chars) := opened
    obtain ⟨-, inside⟩ := unbroken_append.mp opened
    have each : items.flatMap LiteralItem.chars =
        items.flatMap fun item => escapeChar item.value :=
      List.flatMap_congr fun item here =>
        item.chars_eq_escapeChar (unbroken_flatMap.mp inside item here)
    rw [literalText, literalValue, quote, String.toList_ofList, quoteChars, List.flatMap_map, each]

/-! ## Literals at the start of a text -/

/-- A literal that was written is unbroken, and it is read back as its value whatever text follows
it. So a written literal is never the beginning of another one. -/
theorem quote_delimited (value : String) :
    Unbroken (quote value).toList ∧
      (∀ tail : String, unquote (quote value ++ tail) = .ok (value, tail)) ∧
      ∀ other rest : String, quote value ++ rest = quote other → rest = "" ∧ value = other := by
  have reads (text tail : String) : unquote (quote text ++ tail) = .ok (text, tail) := by
    rw [unquote_eq_ok_iff_chars, String.toList_append, quote, String.toList_ofList]
    exact unquoteChars_quoteChars_append text.toList tail.toList
  refine ⟨?_, reads value, ?_⟩
  · rw [quote, String.toList_ofList]
    exact unbroken_quoteChars _
  · intro other rest same
    -- the same text is read as the one literal with `rest` left and as the other with nothing left
    have read := reads value rest
    rw [same, ← String.append_empty (s := quote other), reads other ""] at read
    obtain ⟨rfl, rfl⟩ := Prod.mk.inj (Except.ok.inj read)
    exact ⟨rfl, rfl⟩

/-- The reader of literals decides the grammar: it accepts a text exactly where the text starts with
a literal made up of items, hands back what the items stand for and what follows, and refuses every
other text. A text starts with a literal in one way at most, and the literal is the one that is
written for its value exactly where it is unbroken. -/
theorem unquote_exact (input : String) :
    (∀ value rest : String, unquote input = .ok (value, rest) ↔
      ∃ items, input = literalText items ++ rest ∧ value = literalValue items) ∧
    (∀ (items others : List LiteralItem) (rest more : String),
      input = literalText items ++ rest → input = literalText others ++ more →
        items = others ∧ rest = more) ∧
    ((¬ ∃ items rest, input = literalText items ++ rest) →
      ∃ error, unquote input = .error error) ∧
    ∀ value rest literal : String,
      unquote input = .ok (value, rest) → input = literal ++ rest →
        (literal = quote value ↔ Unbroken literal.toList) := by
  refine ⟨fun value rest => unquote_eq_ok_iff_items, ?_, ?_, ?_⟩
  · rintro items others rest more whole again
    have same := congrArg String.toList (whole.symm.trans again)
    simp only [literalText, String.toList_append, String.toList_ofList, List.append_assoc,
      List.cons_append, List.nil_append] at same
    obtain ⟨rfl, following⟩ := flatMap_chars_append_inj (List.cons.inj same).2
    exact ⟨rfl, String.toList_inj.mp following⟩
  · intro none
    cases result : unquote input with
    | error error => exact ⟨error, rfl⟩
    | ok read =>
        obtain ⟨items, whole, -⟩ := unquote_eq_ok_iff_items.mp result
        exact absurd ⟨items, _, whole⟩ none
  · intro value rest literal reads whole
    obtain ⟨items, split, rfl⟩ := unquote_eq_ok_iff_items.mp reads
    obtain rfl : literal = literalText items := by
      rw [whole, ← String.toList_inj, String.toList_append, String.toList_append] at split
      exact String.toList_inj.mp (List.append_cancel_right split)
    exact literalText_eq_quote_iff items

end BlockScript.Script
