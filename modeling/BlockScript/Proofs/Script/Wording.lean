import BlockScript.Proofs.Script.LiteralGrammar
import BlockScript.Proofs.Script.Sentence

/-!
# The wording of lines

How a line of each kind is worded, said without the reader. `HeaderLine` is the line that opens an
action, seven words with any blanks between them; `ConditionLine` is an `IF` and a `THEN` with a
condition between; `PublishLine` is `PUBLISH TOPIC` and two literals, each after blanks.

The reader of single lines decides these forms (`Header.read_eq_ok_iff`,
`Sentence.read_eq_condition_iff`, `Sentence.read_eq_publish_iff`). The last one needs that the line
does not end with a blank, for the reader passes over blanks after the second literal; no line that
is scanned ends so.
-/

set_option autoImplicit false

namespace BlockScript.Script

/-! ## Forms of lines -/

/-- Blanks between two parts of a line, at least one. -/
structure IsGap (cs : List Char) : Prop where
  /-- There is a blank. -/
  nonempty : cs ≠ []
  /-- There is nothing else. -/
  blank : ∀ c ∈ cs, Text.isBlank c = true

/-- A text that is the literal of a value, with nothing after its closing quote. -/
def IsLiteral (value : String) (cs : List Char) : Prop := unquoteChars cs = .ok (value.toList, [])

/-- The line that opens an action: its words, whatever blanks there are between them. -/
structure HeaderLine (name : String) (every : Duration) (text : List Char) : Prop where
  /-- The name is an identifier. -/
  identifier : isIdentifier name = true
  /-- The words of the line, of which one denotes the interval. -/
  words : ∃ interval : String, Duration.parse interval = .ok every ∧
    Text.words text = [Keyword.DEFINE.chars, Keyword.ACTION.chars, name.toList, Keyword.ON.chars,
      Keyword.EVERY.chars, interval.toList, Keyword.DO.chars]

/-- The line that opens a conditional: the text between its two words ends with a blank, and is the
condition when it is trimmed. -/
inductive ConditionLine (condition : String) : List Char → Prop where
  | between {raw : List Char} {last : Char} (nonempty : condition ≠ "")
      (blank : Text.isBlank last = true)
      (trimmed : Text.trim (raw ++ [last]) = condition.toList) :
      ConditionLine condition ("IF ".toList ++ ((raw ++ [last]) ++ Keyword.THEN.chars))

/-- The line of a publishing statement. -/
inductive PublishLine (topic payload : String) : List Char → Prop where
  | operands {gap first between second : List Char} (before : IsGap gap)
      (topicLiteral : IsLiteral topic first) (apart : IsGap between)
      (payloadLiteral : IsLiteral payload second) :
      PublishLine topic payload
        ("PUBLISH TOPIC".toList ++ (gap ++ (first ++ (between ++ second))))

/-! ## Headers -/

theorem readWord_eq_ok_iff {keyword : Keyword} {words rest : List (List Char)} :
    readWord keyword words = .ok rest ↔ words = keyword.chars :: rest := by
  cases words with
  | nil => simp [readWord]
  | cons word words =>
      by_cases same : word = keyword.chars
      · simp [readWord, same]
      · simp [readWord, same]

theorem readName_eq_ok_iff {words rest : List (List Char)} {name : String} :
    readName words = .ok (name, rest) ↔
      words = name.toList :: rest ∧ isIdentifier name = true := by
  cases words with
  | nil => simp [readName]
  | cons word words =>
      have same : String.ofList word = name ↔ word = name.toList := by
        rw [← String.toList_inj, String.toList_ofList]
      by_cases identifier : isIdentifierChars word = true
      · simp only [readName, identifier, ↓reduceIte, Except.ok.injEq, Prod.mk.injEq, same,
          List.cons.injEq]
        constructor
        · rintro ⟨rfl, rfl⟩
          exact ⟨⟨rfl, rfl⟩, identifier⟩
        · rintro ⟨both, -⟩
          exact both
      · simp only [readName, identifier, Bool.false_eq_true, ↓reduceIte, reduceCtorEq, false_iff,
          List.cons.injEq]
        rintro ⟨⟨rfl, -⟩, own⟩
        exact identifier own

theorem readDuration_eq_ok_iff {words rest : List (List Char)} {every : Duration} :
    readDuration words = .ok (every, rest) ↔
      ∃ interval : String, Duration.parse interval = .ok every ∧
        words = interval.toList :: rest := by
  cases words with
  | nil => simp [readDuration]
  | cons word words =>
      simp only [readDuration, List.cons.injEq]
      constructor
      · intro reads
        split at reads
        · next own parsed =>
          obtain ⟨rfl, rfl⟩ := Prod.mk.inj (Except.ok.inj reads)
          exact ⟨String.ofList word, parsed, String.toList_ofList.symm, rfl⟩
        · cases reads
      · rintro ⟨interval, parsed, rfl, rfl⟩
        rw [String.ofList_toList, parsed]

/-- **The reader of headers accepts the lines that open an action.** -/
theorem Header.read_eq_ok_iff {text : List Char} {name : String} {every : Duration} :
    Header.read text = .ok ⟨name, every⟩ ↔ HeaderLine name every text := by
  have ended (words : List (List Char)) (own : String) (interval : Duration) :
      (if words.isEmpty then return ⟨own, interval⟩
        else throw (.unexpected .endOfLine (foundWord words)) : Except ReadFault Header) =
          .ok ⟨name, every⟩ ↔ words = [] ∧ own = name ∧ interval = every := by
    cases words with
    | nil => simp [pure, Except.pure]
    | cons word words => simp [throw, throwThe, MonadExceptOf.throw]
  simp only [Header.read, Header.ofWords, bind_eq_ok_iff, Prod.exists, readWord_eq_ok_iff,
    readName_eq_ok_iff, readDuration_eq_ok_iff, ended]
  constructor
  · rintro ⟨_, whole, _, rfl, own, _, ⟨rfl, identifier⟩, _, rfl, _, rfl, _, _,
      ⟨interval, parsed, rfl⟩, _, rfl, rfl, rfl, rfl⟩
    exact ⟨identifier, interval, parsed, whole⟩
  · rintro ⟨identifier, interval, parsed, whole⟩
    exact ⟨_, whole, _, rfl, name, _, ⟨rfl, identifier⟩, _, rfl, _, rfl, every, _,
      ⟨interval, parsed, rfl⟩, _, rfl, rfl, rfl, rfl⟩

/-! ## Lines inside an action -/

/-- A sentence starts with one of two texts, which say how to go on. -/
theorem Sentence.read_eq_ok_iff {text : List Char} {sentence : Sentence} :
    Sentence.read text = .ok sentence ↔
      (∃ rest, "IF ".toList ++ rest = text ∧ readCondition text rest = .ok sentence) ∨
        ∃ rest, "PUBLISH TOPIC".toList ++ rest = text ∧ readOperands rest = .ok sentence := by
  constructor
  · intro reads
    unfold Sentence.read at reads
    split at reads
    · next rest opens =>
      exact .inl ⟨rest, List.isPrefixOf?_eq_some_iff_append_eq.mp opens, reads⟩
    · split at reads
      · next rest opens =>
        exact .inr ⟨rest, List.isPrefixOf?_eq_some_iff_append_eq.mp opens, reads⟩
      · cases reads
  · rintro (⟨rest, opens, reads⟩ | ⟨rest, opens, reads⟩)
    · rw [Sentence.read, List.isPrefixOf?_eq_some_iff_append_eq.mpr opens]
      exact reads
    · have noIf : "IF ".toList.isPrefixOf? text = none := by
        rw [← opens]
        rfl
      rw [Sentence.read, noIf, List.isPrefixOf?_eq_some_iff_append_eq.mpr opens]
      exact reads

/-! ## Conditions -/

theorem Sentence.readCondition_eq_ok_iff {text rest : List Char} {sentence : Sentence} :
    readCondition text rest = .ok sentence ↔
      ∃ condition raw last, sentence = .condition condition ∧ condition ≠ "" ∧
        Text.isBlank last = true ∧ Text.trim (raw ++ [last]) = condition.toList ∧
          (raw ++ [last]) ++ Keyword.THEN.chars = rest := by
  constructor
  · intro reads
    unfold readCondition at reads
    split at reads
    · next whole closes =>
      split at reads
      · next blank =>
        simp only at reads
        split at reads
        · cases reads
        · next something =>
          obtain rfl := Except.ok.inj reads
          rcases List.eq_nil_or_concat whole with rfl | ⟨raw, last, rfl⟩
          · exact absurd rfl something
          rw [List.concat_eq_append] at *
          refine ⟨String.ofList (Text.trim (raw ++ [last])), raw, last, rfl, ?_, ?_,
            String.toList_ofList.symm, List.isSuffixOf?_eq_some_iff_append_eq.mp closes⟩
          · rw [ne_eq, ← String.toList_inj, String.toList_ofList]
            simpa using something
          · rwa [List.getLast?_concat, Option.all_some] at blank
      · cases reads
    · cases reads
  · rintro ⟨condition, raw, last, rfl, nonempty, blank, trimmed, whole⟩
    have something : condition.toList.isEmpty = false := by simpa using nonempty
    rw [readCondition, List.isSuffixOf?_eq_some_iff_append_eq.mpr whole]
    simp only [List.getLast?_concat, Option.all_some, blank, trimmed, something,
      String.ofList_toList, Bool.false_eq_true, ↓reduceIte]

/-! ## Literals -/

/-- **Reading a literal at the start of a text splits the literal off.** -/
theorem unquoteChars_eq_ok_iff {value : String} {cs rest : List Char} :
    unquoteChars cs = .ok (value.toList, rest) ↔
      ∃ own, IsLiteral value own ∧ cs = own ++ rest := by
  constructor
  · intro reads
    obtain ⟨items, rfl, spelled⟩ := unquoteChars_eq_ok_iff_items.mp reads
    refine ⟨'"' :: (items.flatMap LiteralItem.chars ++ ['"']), ?_, by simp⟩
    exact unquoteChars_eq_ok_iff_items.mpr ⟨items, rfl, spelled⟩
  · rintro ⟨own, literal, rfl⟩
    obtain ⟨items, rfl, spelled⟩ := unquoteChars_eq_ok_iff_items.mp literal
    exact unquoteChars_eq_ok_iff_items.mpr ⟨items, by simp, spelled⟩

theorem readLiteral_eq_ok_iff {value : String} {cs rest : List Char} :
    readLiteral cs = .ok (value, rest) ↔ ∃ own, IsLiteral value own ∧ cs = own ++ rest := by
  rw [← unquoteChars_eq_ok_iff, readLiteral]
  constructor
  · intro reads
    split at reads
    · next chars after unquoted =>
      obtain ⟨rfl, rfl⟩ := Prod.mk.inj (Except.ok.inj reads)
      rw [unquoted, String.toList_ofList]
    · cases reads
  · intro unquoted
    rw [unquoted]
    simp

/-- A literal starts with its opening quote, so blanks before it end there. -/
theorem IsLiteral.head_not_blank {value : String} {cs : List Char} (literal : IsLiteral value cs)
    (rest : List Char) : ∃ c ∈ (cs ++ rest).head?, Text.isBlank c = false := by
  unfold IsLiteral unquoteChars at literal
  split at literal
  · cases literal
  · exact ⟨'"', rfl, by decide⟩
  · cases literal

/-! ## Publishing -/

/-- Blanks before something that does not start with one are all that trimming takes away. -/
theorem IsGap.trimStart_append {gap rest : List Char} (isGap : IsGap gap)
    (solid : ∃ c ∈ rest.head?, Text.isBlank c = false) : Text.trimStart (gap ++ rest) = rest := by
  rw [Text.trimStart, List.dropWhile_append_of_pos isGap.blank]
  exact Text.trimStart_eq_self solid

/-- The blanks before an operand are passed over. -/
theorem readGap_append {gap rest : List Char} (expected : Expected) (isGap : IsGap gap)
    (solid : ∃ c ∈ rest.head?, Text.isBlank c = false) :
    readGap expected (gap ++ rest) = .ok rest := by
  obtain ⟨c, others, rfl⟩ := List.exists_cons_of_ne_nil isGap.nonempty
  have first : Text.isBlank c = true := isGap.blank c List.mem_cons_self
  have start := isGap.trimStart_append solid
  rw [List.cons_append] at start ⊢
  rw [readGap, if_pos first, start]

/-- There are blanks before an operand that is read. -/
theorem exists_gap_of_readGap {expected : Expected} {cs rest : List Char}
    (reads : readGap expected cs = .ok rest) : ∃ gap, IsGap gap ∧ cs = gap ++ rest := by
  cases cs with
  | nil => cases reads
  | cons c cs =>
      simp only [readGap] at reads
      split at reads
      · next blank =>
        obtain rfl := Except.ok.inj reads
        refine ⟨(c :: cs).takeWhile Text.isBlank, ⟨?_, fun _ => List.mem_takeWhile_imp⟩,
          List.takeWhile_append_dropWhile.symm⟩
        rw [List.takeWhile_cons_of_pos blank]
        exact List.cons_ne_nil _ _
      · cases reads

/-- Nothing is left of a text by trimming when it consists of blanks alone. -/
theorem blank_of_trim_eq_nil {cs : List Char} (empty : Text.trim cs = []) :
    ∀ c ∈ cs, Text.isBlank c = true := by
  have start : Text.trimStart cs = [] := by
    by_contra something
    have notBlank := List.head_dropWhile_not Text.isBlank something
    have blank : Text.isBlank ((cs.dropWhile Text.isBlank).head something) = true :=
      List.rdropWhile_eq_nil_iff.mp empty _ (List.head_mem something)
    rw [blank] at notBlank
    exact Bool.noConfusion notBlank
  exact List.dropWhile_eq_nil_iff.mp start

theorem Sentence.readOperands_eq_ok_iff {rest : List Char} {sentence : Sentence} :
    readOperands rest = .ok sentence ↔
      ∃ topic payload, sentence = .publish topic payload ∧
        ∃ gap first between second after, IsGap gap ∧ IsLiteral topic first ∧ IsGap between ∧
          IsLiteral payload second ∧ Text.trim after = [] ∧
            rest = gap ++ (first ++ (between ++ (second ++ after))) := by
  have ended (after : List Char) (topic payload : String) :
      (if (Text.trim after).isEmpty then return .publish topic payload
        else throw (.unexpected .endOfLine (String.ofList (Text.trim after))) :
          Except ReadFault Sentence) = .ok sentence ↔
        Text.trim after = [] ∧ sentence = .publish topic payload := by
    by_cases empty : Text.trim after = []
    · simp [empty, pure, Except.pure, eq_comm]
    · simp [empty, throw, throwThe, MonadExceptOf.throw]
  simp only [readOperands, bind_eq_ok_iff, Prod.exists, readLiteral_eq_ok_iff, ended]
  constructor
  · rintro ⟨_, gapRead, topic, _, ⟨first, topicLiteral, rfl⟩, _, betweenRead, payload, after,
      ⟨second, payloadLiteral, rfl⟩, empty, rfl⟩
    obtain ⟨gap, isGap, rfl⟩ := exists_gap_of_readGap gapRead
    obtain ⟨between, isGapBetween, rfl⟩ := exists_gap_of_readGap betweenRead
    exact ⟨topic, payload, rfl, gap, first, between, second, after, isGap, topicLiteral,
      isGapBetween, payloadLiteral, empty, rfl⟩
  · rintro ⟨topic, payload, rfl, gap, first, between, second, after, isGap, topicLiteral,
      isGapBetween, payloadLiteral, empty, rfl⟩
    exact ⟨_, readGap_append _ isGap (topicLiteral.head_not_blank _), topic, _,
      ⟨first, topicLiteral, rfl⟩, _, readGap_append _ isGapBetween
        (payloadLiteral.head_not_blank _), payload, after, ⟨second, payloadLiteral, rfl⟩, empty,
      rfl⟩

/-! ## Lines as a whole -/

/-- **The reader of sentences accepts the lines that open a conditional.** -/
theorem Sentence.read_eq_condition_iff {text : List Char} {condition : String} :
    Sentence.read text = .ok (.condition condition) ↔ ConditionLine condition text := by
  rw [Sentence.read_eq_ok_iff]
  constructor
  · rintro (⟨rest, rfl, reads⟩ | ⟨rest, rfl, reads⟩)
    · obtain ⟨_, raw, last, same, nonempty, blank, trimmed, rfl⟩ :=
        readCondition_eq_ok_iff.mp reads
      obtain rfl := Sentence.condition.inj same
      exact .between nonempty blank trimmed
    · obtain ⟨_, _, differs, -⟩ := readOperands_eq_ok_iff.mp reads
      cases differs
  · rintro ⟨nonempty, blank, trimmed⟩
    exact .inl ⟨_, rfl, readCondition_eq_ok_iff.mpr
      ⟨condition, _, _, rfl, nonempty, blank, trimmed, rfl⟩⟩

/-- The lines of publishing statements are read as such. -/
theorem PublishLine.read_eq {text : List Char} {topic payload : String}
    (line : PublishLine topic payload text) :
    Sentence.read text = .ok (.publish topic payload) := by
  obtain ⟨before, topicLiteral, apart, payloadLiteral⟩ := line
  refine Sentence.read_eq_ok_iff.mpr (.inr ⟨_, rfl, Sentence.readOperands_eq_ok_iff.mpr
    ⟨topic, payload, rfl, _, _, _, _, [], before, topicLiteral, apart, payloadLiteral, rfl, ?_⟩⟩)
  rw [List.append_nil]

/-- **The reader of sentences accepts the lines of publishing statements**, and blanks after
them. -/
theorem Sentence.read_eq_publish_iff {text : List Char} {topic payload : String}
    (ends : ∀ c ∈ text.getLast?, Text.isBlank c = false) :
    Sentence.read text = .ok (.publish topic payload) ↔ PublishLine topic payload text := by
  refine ⟨fun reads => ?_, PublishLine.read_eq⟩
  rcases Sentence.read_eq_ok_iff.mp reads with ⟨rest, rfl, reads⟩ | ⟨rest, rfl, reads⟩
  · obtain ⟨_, _, _, differs, -⟩ := readCondition_eq_ok_iff.mp reads
    cases differs
  · obtain ⟨_, _, same, gap, first, between, second, after, isGap, topicLiteral, isGapBetween,
      payloadLiteral, empty, rfl⟩ := readOperands_eq_ok_iff.mp reads
    obtain ⟨rfl, rfl⟩ := Sentence.publish.inj same
    -- Blanks after the second literal would be the end of the line.
    have nothing : after = [] := by
      by_contra something
      have final := List.getLast?_eq_some_getLast something
      have blank := blank_of_trim_eq_nil empty _ (List.getLast_mem something)
      have notBlank := ends (after.getLast something) (by
        simp only [← List.append_assoc]
        rw [List.getLast?_append_of_ne_nil _ something]
        exact final)
      rw [blank] at notBlank
      exact Bool.noConfusion notBlank
    subst nothing
    rw [List.append_nil]
    exact .operands isGap topicLiteral isGapBetween payloadLiteral

end BlockScript.Script
