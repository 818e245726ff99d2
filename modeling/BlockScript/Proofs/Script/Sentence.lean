import BlockScript.Script.Printer
import BlockScript.Script.Reader
import BlockScript.Proofs.Duration
import BlockScript.Proofs.Script.Literal

/-!
# What one line says

The line that the writer makes of a header, of a condition or of a publishing statement is read
back as what it was made of (`Header.read_header`, `Sentence.read_ifLine`,
`Sentence.read_publishLine`). In the other direction, a header that is read has an identifier for
its name (`Header.isIdentifier_of_read`) and a condition that is read is a solid part of its line
(`Sentence.solid_of_read`), whatever the line looks like.

The three kinds of lines cannot be mistaken for each other: a line that is read as a sentence or as
a header is no `ELSE`, and a sentence does not start a further action.
-/

set_option autoImplicit false

namespace BlockScript.Script

/-! ## Identifiers -/

theorem notBlank_of_continuesIdentifier {c : Char} (continues : continuesIdentifier c = true) :
    Text.isBlank c = false := by
  rcases Bool.or_eq_true_iff.mp continues with alphanumeric | underscore
  · rcases Bool.or_eq_true_iff.mp alphanumeric with letter | digit
    · rcases Bool.or_eq_true_iff.mp letter with upper | lower
      · obtain ⟨low, high⟩ : 'A'.toNat ≤ c.toNat ∧ c.toNat ≤ 'Z'.toNat := of_decide_eq_true upper
        exact Text.isBlank_eq_false_of_visible (le_trans (by decide) low)
          (le_trans high (by decide))
      · obtain ⟨atLeast, atMost⟩ := Bool.and_eq_true_iff.mp lower
        have low : 'a'.toNat ≤ c.toNat := of_decide_eq_true atLeast
        have high : c.toNat ≤ 'z'.toNat := of_decide_eq_true atMost
        exact Text.isBlank_eq_false_of_visible (le_trans (by decide) low)
          (le_trans high (by decide))
    · exact Text.isBlank_eq_false_of_isDigit digit
  · obtain rfl := beq_iff_eq.mp underscore
    decide

theorem continuesIdentifier_of_starts {c : Char} (starts : startsIdentifier c = true) :
    continuesIdentifier c = true := by
  rcases Bool.or_eq_true_iff.mp starts with letter | underscore
  · exact Bool.or_eq_true_iff.mpr (.inl (Bool.or_eq_true_iff.mpr (.inl letter)))
  · simp [continuesIdentifier, underscore]

/-- An identifier has no blank in it. -/
theorem notBlank_of_mem_identifier {cs : List Char} (identifier : isIdentifierChars cs = true) :
    ∀ c ∈ cs, Text.isBlank c = false := by
  cases cs with
  | nil => cases identifier
  | cons first rest =>
      obtain ⟨starts, continues⟩ := Bool.and_eq_true_iff.mp identifier
      intro c member
      rcases List.mem_cons.mp member with rfl | later
      · exact notBlank_of_continuesIdentifier (continuesIdentifier_of_starts starts)
      · exact notBlank_of_continuesIdentifier (List.all_eq_true.mp continues c later)

theorem identifier_ne_nil {cs : List Char} (identifier : isIdentifierChars cs = true) :
    cs ≠ [] := by
  rintro rfl
  cases identifier

/-! ## Headers -/

/-- A keyword is a word. -/
theorem Keyword.notBlank_of_mem {keyword : Keyword} {c : Char} (member : c ∈ keyword.chars) :
    Text.isBlank c = false := by
  have solid : keyword.chars.all (fun d => !Text.isBlank d) = true := by
    cases keyword <;> decide
  simpa using List.all_eq_true.mp solid c member

theorem Keyword.chars_ne_nil (keyword : Keyword) : keyword.chars ≠ [] := by
  cases keyword <;> decide

/-- The words of a text that starts with a keyword and a space. -/
theorem Keyword.words_append (keyword : Keyword) (rest : List Char) :
    Text.words (keyword.chars ++ ' ' :: rest) = keyword.chars :: Text.words rest :=
  Text.words_append_cons keyword.chars_ne_nil (fun _ => Keyword.notBlank_of_mem)
    Text.isBlank_space rest

theorem Keyword.words_eq (keyword : Keyword) : Text.words keyword.chars = [keyword.chars] :=
  Text.words_eq_singleton keyword.chars_ne_nil fun _ => Keyword.notBlank_of_mem

/-- The line that opens an action, word by word. -/
theorem header_eq (action : Action) :
    action.header =
      Keyword.DEFINE.chars ++ ' ' :: (Keyword.ACTION.chars ++ ' ' :: (action.name.toList ++
        ' ' :: (Keyword.ON.chars ++ ' ' :: (Keyword.EVERY.chars ++ ' ' ::
          (action.every.text.toList ++ ' ' :: Keyword.DO.chars))))) := by
  unfold Action.header
  simp [Keyword.chars, Keyword.text]

theorem words_header {action : Action} (identifier : isIdentifier action.name = true) :
    Text.words action.header =
      [Keyword.DEFINE.chars, Keyword.ACTION.chars, action.name.toList, Keyword.ON.chars,
        Keyword.EVERY.chars, action.every.text.toList, Keyword.DO.chars] := by
  have space := Text.isBlank_space
  rw [header_eq, Keyword.words_append, Keyword.words_append,
    Text.words_append_cons (identifier_ne_nil identifier) (notBlank_of_mem_identifier identifier)
      space,
    Keyword.words_append, Keyword.words_append,
    Text.words_append_cons action.every.text_ne_nil (fun _ => Duration.notBlank_of_mem_text) space,
    Keyword.words_eq]

/-- **The line that opens an action is read back.** -/
theorem Header.read_header {action : Action} (identifier : isIdentifier action.name = true) :
    Header.read action.header = .ok ⟨action.name, action.every⟩ := by
  have name : isIdentifierChars action.name.toList = true := identifier
  rw [Header.read, words_header identifier]
  simp only [Header.ofWords, readWord, readName, readDuration, name, String.ofList_toList,
    Duration.parse_text, ok_bind, ↓reduceIte, List.isEmpty_nil]
  rfl

/-- The name in a header that is read is an identifier. -/
theorem Header.isIdentifier_of_read {text : List Char} {header : Header}
    (read : Header.read text = .ok header) : isIdentifier header.name = true := by
  simp only [Header.read, Header.ofWords, bind_eq_ok_iff] at read
  obtain ⟨_, -, words, -, ⟨name, rest⟩, named, _, -, _, -, ⟨every, _⟩, -, _, -, ended⟩ := read
  have same : header.name = name := by
    split at ended
    · exact (Except.ok.inj ended) ▸ rfl
    · cases ended
  rw [same]
  unfold readName at named
  split at named
  · split at named
    · next identifier =>
      obtain ⟨rfl, -⟩ := Prod.mk.inj (Except.ok.inj named)
      simpa [isIdentifier] using identifier
    · cases named
  · cases named

/-- A line that opens an action is no `ELSE`. -/
theorem Header.ne_else_of_read {text : List Char} {header : Header}
    (read : Header.read text = .ok header) : text ≠ Keyword.ELSE.chars := by
  rintro rfl
  rw [Header.read, Keyword.words_eq] at read
  cases read

/-! ## Conditions -/

/-- **The line that opens a conditional is read back.** -/
theorem Sentence.read_ifLine {condition : String} (solid : Text.Solid condition.toList) :
    Sentence.read (ifLine condition) = .ok (.condition condition) := by
  have opens : "IF ".toList.isPrefixOf? (ifLine condition) =
      some (condition.toList ++ " THEN".toList) :=
    List.isPrefixOf?_eq_some_iff_append_eq.mpr (by rw [ifLine, List.append_assoc])
  have closes : Keyword.THEN.chars.isSuffixOf? (condition.toList ++ " THEN".toList) =
      some (condition.toList ++ [' ']) :=
    List.isSuffixOf?_eq_some_iff_append_eq.mpr (by simp [Keyword.chars, Keyword.text])
  have trimmed := solid.trim_concat_blank Text.isBlank_space
  have something := List.isEmpty_eq_false_iff.mpr solid.ne_nil
  simp only [Sentence.read, opens, readCondition, closes, List.getLast?_concat, Option.all_some,
    Text.isBlank_space, trimmed, something, String.ofList_toList, ↓reduceIte, Bool.false_eq_true]

/-- A condition that is read is a solid part of its line. -/
theorem Sentence.solid_of_read {text : List Char} {condition : String}
    (read : Sentence.read text = .ok (.condition condition)) :
    Text.Solid condition.toList ∧ ∀ c ∈ condition.toList, c ∈ text := by
  unfold Sentence.read at read
  split at read
  · next rest opens =>
    unfold readCondition at read
    split at read
    · next raw closes =>
      split at read
      · simp only at read
        split at read
        · cases read
        · next something =>
          obtain rfl := Sentence.condition.inj (Except.ok.inj read)
          rw [String.toList_ofList]
          refine ⟨Text.solid_trim (by simpa using something), fun c member => ?_⟩
          rw [← List.isPrefixOf?_eq_some_iff_append_eq.mp opens,
            ← List.isSuffixOf?_eq_some_iff_append_eq.mp closes]
          exact List.mem_append_right _ (List.mem_append_left _ (Text.mem_of_mem_trim member))
      · cases read
    · cases read
  · split at read
    · unfold readOperands at read
      simp only [bind_eq_ok_iff] at read
      obtain ⟨_, -, _, -, _, -, _, -, ended⟩ := read
      split at ended <;> cases ended
    · cases read

/-! ## Publishing -/

/-- The line of a publishing statement, operand by operand. -/
theorem publishLine_eq (topic payload : String) :
    publishLine topic payload =
      "PUBLISH TOPIC".toList ++
        ' ' :: (quoteChars topic.toList ++ ' ' :: quoteChars payload.toList) := by
  unfold publishLine
  simp

theorem readGap_space (expected : Expected) {rest : List Char}
    (solid : ∃ c ∈ rest.head?, Text.isBlank c = false) :
    readGap expected (' ' :: rest) = .ok rest := by
  have start : Text.trimStart (' ' :: rest) = rest :=
    (List.dropWhile_cons_of_pos Text.isBlank_space).trans (Text.trimStart_eq_self solid)
  simp [readGap, Text.isBlank_space, start]

theorem readLiteral_quoteChars (value : String) (rest : List Char) :
    readLiteral (quoteChars value.toList ++ rest) = .ok (value, rest) := by
  simp [readLiteral, unquoteChars_quoteChars_append]

/-- **The line of a publishing statement is read back.** -/
theorem Sentence.read_publishLine (topic payload : String) :
    Sentence.read (publishLine topic payload) = .ok (.publish topic payload) := by
  have noIf : "IF ".toList.isPrefixOf? (publishLine topic payload) = none := by
    simp [publishLine_eq, List.isPrefixOf?]
  have opens : "PUBLISH TOPIC".toList.isPrefixOf? (publishLine topic payload) =
      some (' ' :: (quoteChars topic.toList ++ ' ' :: (quoteChars payload.toList ++ []))) :=
    List.isPrefixOf?_eq_some_iff_append_eq.mpr (by simp [publishLine_eq])
  have quoteSolid : ∀ cs rest, ∃ c ∈ (quoteChars cs ++ rest).head?, Text.isBlank c = false :=
    fun cs rest => ⟨'"', rfl, by decide⟩
  simp only [Sentence.read, noIf, opens, readOperands, readGap_space _ (quoteSolid _ _),
    readLiteral_quoteChars, ok_bind]
  rfl

/-! ## Kinds of lines -/

/-- A line that is read as a sentence is no `ELSE`. -/
theorem Sentence.ne_else_of_read {text : List Char} {sentence : Sentence}
    (read : Sentence.read text = .ok sentence) : text ≠ Keyword.ELSE.chars := by
  rintro rfl
  cases read

/-- A line that is read as a sentence does not start a further action. -/
theorem Sentence.not_define_of_read {text : List Char} {sentence : Sentence}
    (read : Sentence.read text = .ok sentence) : "DEFINE ".toList.isPrefixOf text = false := by
  rw [← Bool.not_eq_true]
  intro starts
  obtain ⟨rest, rfl⟩ := List.isPrefixOf_iff_prefix.mp starts
  cases read

/-! ## The lines of the writer -/

theorem solid_header (action : Action) : Text.Solid action.header where
  first := ⟨'D', by simp [header_eq, Keyword.chars, Keyword.text], by decide⟩
  last := ⟨'O', by simp [header_eq, Keyword.chars, Keyword.text, List.getLast?_cons], by decide⟩

theorem startsDefine_header (action : Action) :
    "DEFINE ".toList.isPrefixOf action.header = true := by
  simp [header_eq, Keyword.chars, Keyword.text]

theorem solid_ifLine (condition : String) : Text.Solid (ifLine condition) where
  first := ⟨'I', by simp [ifLine], by decide⟩
  last := ⟨'N', by simp [ifLine, List.getLast?_cons], by decide⟩

theorem solid_publishLine (topic payload : String) : Text.Solid (publishLine topic payload) where
  first := ⟨'P', by simp [publishLine_eq], by decide⟩
  last := ⟨'"', by simp [publishLine_eq, List.getLast?_cons, getLast?_quoteChars], by decide⟩

theorem solid_else : Text.Solid Keyword.ELSE.chars where
  first := ⟨'E', by decide, by decide⟩
  last := ⟨'E', by decide, by decide⟩

end BlockScript.Script
