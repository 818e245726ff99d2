import BlockScript.Json.Decode
import BlockScript.Json.Form
import BlockScript.Proofs.Fallible
import Mathlib.Data.List.Basic
import Mathlib.Tactic.Common

/-!
# Written JSON

What is written as JSON is found again when the text is taken apart: the tree of a written text is
the value that was written, and nothing is left over (`Document.ofText_pretty`). The escapes of a
character, which are several characters of the text, are one character of the string again
(`QuotedScan.run?_escapeChar`), and the line ends and indents between items are passed over.

How deeply lists and tables are nested in a value decides whether a reader with limited room takes
it. `permit` is what such a reader makes of a value: one that reads a list or a table reads what is
in it with less room (`enter_bind`), and one that reads two values reads the deeper of them
(`permit_bind`).
-/

set_option autoImplicit false

namespace BlockScript.Json

/-! ## The tree of a value -/

/-- A string that is closed and can be read. -/
def Quoted.whole (value : String) : Quoted := ⟨.ok value, none⟩

mutual
/-- A value as a tree. -/
def Form.node : Form → Node
  | .string value => .string (.whole value)
  | .list items => .list (Form.nodes items) .closed
  | .table members => .object (Form.memberNodes members) .closed

/-- The items of a list as trees. -/
def Form.nodes : List Form → List Node
  | [] => []
  | item :: rest => item.node :: Form.nodes rest

/-- The members of a table as trees. -/
def Form.memberNodes : List (String × Form) → List (Quoted × Node)
  | [] => []
  | (key, value) :: rest => (.whole key, value.node) :: Form.memberNodes rest
end

/-! ## Strings -/

namespace QuotedScan

/-- A string after characters that stand for the given ones, last first. -/
def plainAfter (chars : List Char) : QuotedScan := ⟨.ok chars, none, .plain⟩

/-- A string some characters further on, if they do not end it. -/
def run? (scan : QuotedScan) : List Char → Option QuotedScan
  | [] => some scan
  | c :: rest =>
    match scan.step c with
    | .more next => next.run? rest
    | .done _ => none

theorem run?_append (scan : QuotedScan) (chars rest : List Char) :
    scan.run? (chars ++ rest) = (scan.run? chars).bind fun next => next.run? rest := by
  induction chars generalizing scan with
  | nil => rfl
  | cons c chars ih =>
      rw [List.cons_append, run?, run?]
      cases scan.step c with
      | more next => exact ih next
      | done quoted => rfl

theorem hexDigit?_digitChar :
    ∀ digit < 16, hexDigit? (Nat.digitChar digit) = some digit ∧
      (Nat.digitChar digit).utf8Size = 1 := by
  decide

/-- The escape of a control character by its number. -/
theorem run?_hexEscape (chars : List Char) {c : Char} (control : c.toNat < 0x20) :
    (plainAfter chars).run?
        ['\\', 'u', '0', '0', Nat.digitChar (c.toNat / 16), Nat.digitChar (c.toNat % 16)] =
      some (plainAfter (c :: chars)) := by
  obtain ⟨high, highSize⟩ := hexDigit?_digitChar (c.toNat / 16) (by omega)
  obtain ⟨low, lowSize⟩ := hexDigit?_digitChar (c.toNat % 16) (by omega)
  have zero : hexDigit? '0' = some 0 := by decide
  have zeroSize : '0'.utf8Size = 1 := by decide
  have code : (c.toNat / 16) * 16 + c.toNat % 16 = c.toNat := by omega
  have notTrailing : isTrailing c.toNat = false := by
    simp only [isTrailing, Bool.and_eq_false_imp, decide_eq_true_eq, decide_eq_false_iff_not]
    omega
  have notLeading : isLeading c.toNat = false := by
    simp only [isLeading, Bool.and_eq_false_imp, decide_eq_true_eq, decide_eq_false_iff_not]
    omega
  simp [run?, step, plainAfter, zero, zeroSize, high, highSize, low, lowSize, code, pushCode,
    notTrailing, notLeading, push, Except.map, Char.ofNat_toNat]

/-- **The escape of a character is that character again.** -/
theorem run?_escapeChar (chars : List Char) (c : Char) :
    (plainAfter chars).run? (escapeChar c) = some (plainAfter (c :: chars)) := by
  unfold escapeChar
  split
  case h_8 notQuote notBackslash _ _ _ _ _ =>
    split
    · next control => exact run?_hexEscape chars control
    · next printable =>
      replace notQuote : c ≠ '"' := notQuote
      replace notBackslash : c ≠ '\\' := notBackslash
      simp [run?, step, plainAfter, unpaired, push, Except.map, notQuote, notBackslash, printable]
  all_goals rfl

/-- The escapes of some characters are these characters again. -/
theorem run?_escaped (chars before : List Char) :
    (plainAfter before).run? (chars.flatMap escapeChar) =
      some (plainAfter (chars.reverse ++ before)) := by
  induction chars generalizing before with
  | nil => rfl
  | cons c chars ih =>
      rw [List.flatMap_cons, run?_append, run?_escapeChar, Option.bind_some, ih,
        List.reverse_cons, List.append_assoc]
      rfl

theorem step_quote (chars : List Char) :
    (plainAfter chars).step '"' = .done (.whole (String.ofList chars.reverse)) := by
  rfl

end QuotedScan

namespace Scan

/-- The characters of a string keep a text inside the string. -/
theorem foldl_inside {inside : QuotedScan → Scan} {chars : List Char} {text next : QuotedScan}
    (goesOn : ∀ text c next, text.step c = .more next → (inside text).step c = inside next)
    (runs : text.run? chars = some next) : chars.foldl step (inside text) = inside next := by
  induction chars generalizing text with
  | nil =>
      obtain rfl := Option.some.inj runs
      rfl
  | cons c chars ih =>
      rw [QuotedScan.run?] at runs
      cases further : text.step c with
      | more other =>
          rw [further] at runs
          rw [List.foldl_cons, goesOn text c other further]
          exact ih runs
      | done quoted =>
          rw [further] at runs
          cases runs

/-- A written string, from its first character up to its closing quote. -/
theorem foldl_stringChars {inside : QuotedScan → Scan} {before after : Scan} {value : String}
    (opens : before.step '"' = inside .start)
    (goesOn : ∀ text c next, text.step c = .more next → (inside text).step c = inside next)
    (closes : ∀ text, text.step '"' = .done (.whole value) → (inside text).step '"' = after) :
    (stringChars value).foldl step before = after := by
  have runs := QuotedScan.run?_escaped value.toList []
  have last := QuotedScan.step_quote (value.toList.reverse ++ [])
  rw [List.append_nil, List.reverse_reverse, String.ofList_toList] at last
  rw [List.append_nil] at runs
  rw [stringChars, List.cons_append, List.foldl_cons, opens, List.foldl_append]
  rw [show QuotedScan.start = QuotedScan.plainAfter [] from rfl, foldl_inside goesOn runs]
  exact closes _ last

theorem foldl_stringChars_value (value : String) (stack : List Frame) :
    (stringChars value).foldl step (.value stack) = deliver (.string (.whole value)) stack := by
  refine @foldl_stringChars (.string · stack) _ _ _ rfl ?_ ?_
  · intro text c next further
    simp only [step, further]
  · intro text done
    simp only [step, done]
    rfl

theorem foldl_stringChars_key (key : String) (members : List (Quoted × Node))
    (stack : List Frame) :
    (stringChars key).foldl step (.key members stack) = .colon members (.whole key) stack := by
  refine @foldl_stringChars (.keyString · members stack) _ _ _ rfl ?_ ?_
  · intro text c next further
    simp only [step, further]
  · intro text done
    simp only [step, done]
    rfl

/-! ## Values -/

/-- White space outside of numbers, words and strings makes no difference. -/
theorem foldl_newline {scan : Scan} (idle : ∀ c, scan.step c = scan.between c) (depth : Nat) :
    (Form.newline depth).foldl step scan = scan := by
  have passes (c : Char) (space : isSpace c = true) : scan.step c = scan := by
    rw [idle]
    exact if_pos space
  rw [Form.newline, List.foldl_cons, passes '\n' rfl]
  induction 2 * depth with
  | zero => rfl
  | succ width ih => rw [List.replicate_succ, List.foldl_cons, passes ' ' rfl, ih]

theorem step_colon (members : List (Quoted × Node)) (name : Quoted) (stack : List Frame) :
    ((Scan.colon members name stack).step ':').step ' ' =
      .value (.object members name :: stack) :=
  rfl

mutual
/-- **A written value is delivered** where a value may come. -/
theorem foldl_prettyAt (depth : Nat) (form : Form) (stack : List Frame) :
    (form.prettyAt depth).foldl step (.value stack) = deliver form.node stack := by
  match form with
  | .string text => exact foldl_stringChars_value text stack
  | .list [] => rfl
  | .list (item :: rest) =>
      rw [Form.prettyAt, List.foldl_append, List.foldl_append, List.foldl_cons]
      rw [show step (.value stack) '[' = .value (.list [] :: stack) from rfl]
      rw [foldl_newline fun _ => rfl, foldl_prettyAt, deliver, foldl_prettyItems]
      rfl
  | .table [] => rfl
  | .table ((name, inner) :: rest) =>
      rw [Form.prettyAt]
      simp only [List.foldl_append, List.foldl_cons]
      rw [show step (.value stack) '\x7b' = .key [] stack from rfl]
      rw [foldl_newline fun _ => rfl, foldl_stringChars_key, step_colon, foldl_prettyAt, deliver,
        foldl_prettyMembers]
      rfl

/-- The further items of a list, up to its end. -/
theorem foldl_prettyItems (depth : Nat) (items : List Form) (before : List Node)
    (stack : List Frame) :
    (Form.prettyItems depth items).foldl step (.afterItem before stack) =
      deliver (.list (before.reverse ++ Form.nodes items) .closed) stack := by
  match items with
  | [] =>
      rw [Form.prettyItems, List.foldl_append, foldl_newline fun _ => rfl, Form.nodes,
        List.append_nil]
      rfl
  | item :: rest =>
      rw [Form.prettyItems, List.foldl_append, List.foldl_append, List.foldl_cons]
      rw [show step (.afterItem before stack) ',' = .value (.list before :: stack) from rfl]
      rw [foldl_newline fun _ => rfl, foldl_prettyAt, deliver, foldl_prettyItems,
        List.reverse_cons, List.append_assoc]
      rfl

/-- The further members of a table, up to its end. -/
theorem foldl_prettyMembers (depth : Nat) (members : List (String × Form))
    (before : List (Quoted × Node)) (stack : List Frame) :
    (Form.prettyMembers depth members).foldl step (.afterMember before stack) =
      deliver (.object (before.reverse ++ Form.memberNodes members) .closed) stack := by
  match members with
  | [] =>
      rw [Form.prettyMembers, List.foldl_append, foldl_newline fun _ => rfl, Form.memberNodes,
        List.append_nil]
      rfl
  | (name, inner) :: rest =>
      rw [Form.prettyMembers]
      simp only [List.foldl_append, List.foldl_cons]
      rw [show step (.afterMember before stack) ',' = .key before stack from rfl]
      rw [foldl_newline fun _ => rfl, foldl_stringChars_key, step_colon, foldl_prettyAt, deliver,
        foldl_prettyMembers, List.reverse_cons, List.append_assoc]
      rfl
end

end Scan

/-- **The tree of a written text is the value that was written**, and nothing follows it. -/
theorem Document.ofText_pretty (form : Form) : Document.ofText form.pretty = ⟨form.node, false⟩ := by
  rw [Document.ofText, Form.pretty, String.toList_ofList, Scan.start, Scan.foldl_prettyAt]
  rfl

/-! ## Nesting -/

mutual
/-- How many lists and tables lie in each other in a value, at most. -/
def Form.nesting : Form → Nat
  | .string _ => 0
  | .list items => Form.nestingItems items + 1
  | .table members => Form.nestingMembers members + 1

/-- The nesting of the items of a list. -/
def Form.nestingItems : List Form → Nat
  | [] => 0
  | item :: rest => max item.nesting (Form.nestingItems rest)

/-- The nesting of the members of a table. -/
def Form.nestingMembers : List (String × Form) → Nat
  | [] => 0
  | (_, value) :: rest => max value.nesting (Form.nestingMembers rest)
end

theorem Form.nestingMembers_append (members others : List (String × Form)) :
    Form.nestingMembers (members ++ others) =
      max (Form.nestingMembers members) (Form.nestingMembers others) := by
  induction members with
  | nil => exact (Nat.zero_max _).symm
  | cons member members ih =>
      rw [List.cons_append, Form.nestingMembers, Form.nestingMembers, ih, Nat.max_assoc]

variable {α β : Type}

/-- A value of the given nesting, where there is room for it. -/
def permit (room nesting : Nat) (value : α) : Except Fault α :=
  if nesting ≤ room then .ok value else .error .tooDeep

@[simp] theorem permit_zero (room : Nat) (value : α) : permit room 0 value = .ok value :=
  if_pos (Nat.zero_le room)

theorem permit_map (room nesting : Nat) (value : α) (f : α → β) :
    (permit room nesting value).map f = permit room nesting (f value) := by
  unfold permit
  split <;> rfl

/-- **Of two values, the one that is nested more deeply decides.** -/
theorem permit_bind (room nesting other : Nat) {value : α} {next : α → Except Fault β} {result : β}
    (later : next value = permit room other result) :
    (permit room nesting value >>= next) = permit room (max nesting other) result := by
  by_cases fits : nesting ≤ room
  · rw [permit, if_pos fits, ok_bind, later]
    simp only [permit, Nat.max_le, fits, true_and]
  · have tooDeep : ¬ max nesting other ≤ room := fun both => fits (Nat.max_le.mp both).1
    rw [permit, if_neg fits, permit, if_neg tooDeep]
    rfl

/-- **What is in a list or a table is read with less room.** -/
theorem enter_bind {room nesting : Nat} {next : Room → Except Fault α} {value : α}
    (inside : ∀ inner, next (some inner) = permit inner nesting value) :
    (Room.enter (some room) >>= next) = permit room (nesting + 1) value := by
  cases room with
  | zero => rfl
  | succ inner =>
      rw [Room.enter, ok_bind, inside]
      simp only [permit, Nat.add_le_add_iff_right]

end BlockScript.Json
