import BlockScript.Block.Canonical
import BlockScript.Blockly.Json
import BlockScript.Proofs.Json.Reading

/-!
# What follows a document

A text that is read as a document is still read when blanks follow it, and as the same document;
anything else that follows is refused (`trailing_exact`).

Where a text ends, the scanner closes what is open with a mark that no reader of records takes for
an end, and so it does where the text cannot go on (`Scan.exists_of_closed_finish`). A reader that
has come to the end of its list or object (`Record.closed_of_read`) therefore knows that the scanner
had nothing left to do: all that it still takes are blanks (`Scan.foldl_ended`).
-/

set_option autoImplicit false

namespace BlockScript.Json

/-! ## Closed values -/

/-- The list ends here. -/
def ListEnd.Closes : ListEnd → Prop
  | .closed => True
  | _ => False

/-- The object ends here, or with a key that can be read, which is as good as an end to a reader. No
scanner leaves such a key (`not_closed_brokenKey`). -/
def ObjectEnd.Closes : ObjectEnd → Prop
  | .closed => True
  | .brokenKey key => ∃ text, key.value = .ok text
  | _ => False

/-- A list or an object that comes to its end. -/
def Node.Closed : Node → Prop
  | .list _ ending => ending.Closes
  | .object _ ending => ending.Closes
  | _ => False

theorem ListEnd.closes_of_read {ending : ListEnd} (ends : ending.read = .ok ()) :
    ending.Closes := by
  cases ending with
  | closed => trivial
  | cutOff | comma | other => cases ends

theorem ListEnd.closes_of_readRecordEnd {ending : ListEnd} (ends : ending.readRecordEnd = .ok ()) :
    ending.Closes := by
  cases ending with
  | closed => trivial
  | cutOff | comma | other => cases ends

theorem ObjectEnd.closes_of_read {ending : ObjectEnd} (ends : ending.read = .ok ()) :
    ending.Closes := by
  cases ending with
  | closed => trivial
  | cutOff | commaCutOff | comma | other | noKey => cases ends
  | brokenKey key =>
      obtain ⟨text, reads, -⟩ := map_eq_ok_iff.mp ends
      exact ⟨text, reads⟩

namespace Record

variable {Key Draft α : Type} {record : Record Key Draft α}

theorem closes_of_fromListEnd {draft : Draft} {keys : List Key} {ending : ListEnd} {value : α}
    (made : record.fromListEnd draft keys ending = .ok value) : ending.Closes := by
  unfold fromListEnd at made
  split at made
  · obtain ⟨_, -, made⟩ := bind_eq_ok_iff.mp made
    obtain ⟨_, ends, -⟩ := bind_eq_ok_iff.mp made
    exact ending.closes_of_readRecordEnd ends
  · obtain ⟨_, ends, -⟩ := bind_eq_ok_iff.mp made
    exact ending.closes_of_read ends

/-- **What is read as a record is closed.** -/
theorem closed_of_read {room : Room} {set : Room → Draft → Key → Node → Except Fault Draft}
    {node : Node} {value : α} (reads : record.read room set node = .ok value) : node.Closed := by
  have nothing {room : Room} (draft : Draft) (key : Key) (node : Node) (next : Draft) (_ : True)
      (_ : set room draft key node = .ok next) : True := trivial
  unfold read at reads
  split at reads
  · obtain ⟨_, -, reads⟩ := bind_eq_ok_iff.mp reads
    obtain ⟨_, -, ends, -⟩ := exists_last_of_readMembers nothing trivial reads
    exact ObjectEnd.closes_of_read ends
  · obtain ⟨_, -, reads⟩ := bind_eq_ok_iff.mp reads
    obtain ⟨_, _, -, made⟩ := exists_last_of_readItems nothing trivial reads
    exact closes_of_fromListEnd made
  · cases reads

end Record

/-! ## Keys that break off -/

namespace QuotedScan

/-- A string that breaks off cannot be read. -/
theorem exists_value_breakOff (scan : QuotedScan) (fault : Fault) :
    ∃ cause, (scan.breakOff fault).value = .error cause := by
  obtain ⟨value, leading?, mode⟩ := scan
  cases value with
  | ok chars => exact ⟨fault, rfl⟩
  | error cause => exact ⟨cause, rfl⟩

/-- A string that ends without its closing quote cannot be read. -/
theorem exists_value_of_broken {scan : QuotedScan} {c : Char} {quoted : Quoted}
    (ends : scan.step c = .done quoted) (broken : quoted.broken?.isSome = true) :
    ∃ cause, quoted.value = .error cause := by
  unfold step at ends
  split at ends
  · split at ends
    · cases ends
    · simp only at ends
      split at ends
      · obtain rfl := QuotedStep.done.inj ends
        cases broken
      · split at ends
        · obtain rfl := QuotedStep.done.inj ends
          exact exists_value_breakOff _ _
        · cases ends
  · split at ends
    · cases ends
    · simp only at ends
      split at ends
      · cases ends
      · obtain rfl := QuotedStep.done.inj ends
        exact exists_value_breakOff _ _
  · simp only at ends
    split at ends
    · cases ends
    · split at ends
      · cases ends
      · obtain rfl := QuotedStep.done.inj ends
        exact exists_value_breakOff _ _

end QuotedScan

/-- No object is closed by a key that cannot be read. -/
theorem not_closed_brokenKey {members : List (Quoted × Node)} {key : Quoted}
    (broken : ∃ cause, key.value = .error cause) :
    ¬ (Node.object members (.brokenKey key)).Closed := by
  rintro ⟨text, reads⟩
  obtain ⟨cause, fails⟩ := broken
  cases reads.symm.trans fails

/-! ## What is left open -/

namespace Scan

/-- Where something is closed around a value, it is not closed by an end. -/
theorem not_closed_plug {node : Node} (broken : ¬ node.Closed) (stack : List Frame) :
    ¬ (plug node stack).Closed := by
  induction stack generalizing node with
  | nil => exact broken
  | cons frame stack ih =>
      cases frame with
      | list items => exact ih id
      | object members name => exact ih id

/-- What a text has stopped at is not closed. -/
def Sound : Scan → Prop
  | .stopped root => ¬ root.Closed
  | _ => True

theorem sound_stop {node : Node} (broken : ¬ node.Closed) (stack : List Frame) :
    (stop node stack).Sound :=
  not_closed_plug broken stack

theorem sound_deliver (node : Node) (stack : List Frame) : (deliver node stack).Sound := by
  cases stack with
  | nil => trivial
  | cons frame stack => cases frame <;> trivial

theorem sound_startValue (c : Char) (stack : List Frame) : (startValue c stack).Sound := by
  unfold startValue
  split_ifs
  -- a quote, an opening bracket or brace, the letters of the words, and what starts a number
  any_goals trivial
  · split
    · exact sound_deliver _ _
    · exact sound_stop id _
    · exact sound_stop id _
  · exact sound_stop id _

theorem Sound.between {scan : Scan} (sound : scan.Sound) (c : Char) : (scan.between c).Sound := by
  unfold Scan.between
  split
  · exact sound
  split
  · exact sound_startValue _ _
  · split_ifs
    · trivial
    · exact sound_deliver _ _
    · exact sound_stop id _
  · split_ifs
    · trivial
    · exact sound_deliver _ _
    · exact sound_stop id _
    · exact sound_stop id _
  · split_ifs
    · trivial
    · exact sound_stop id _
  · split_ifs
    · trivial
    · exact sound_deliver _ _
    · exact sound_stop id _
  · trivial
  · exact sound

/-- **A further character keeps a scan sound.** -/
theorem Sound.step {scan : Scan} (sound : scan.Sound) (c : Char) : (scan.step c).Sound := by
  unfold Scan.step
  split
  · split
    · split
      · exact sound_deliver _ _
      · trivial
    · exact sound_stop id _
  · split
    · trivial
    · exact (sound_deliver _ _).between c
    · exact sound_stop id _
  · split
    · trivial
    · split
      · exact sound_stop id _
      · exact sound_deliver _ _
  · split
    · trivial
    · next ends =>
      split
      · next broken =>
        exact sound_stop (not_closed_brokenKey (QuotedScan.exists_value_of_broken ends broken)) _
      · trivial
  · exact sound.between c

theorem Sound.foldl {scan : Scan} (sound : scan.Sound) (chars : List Char) :
    (chars.foldl Scan.step scan).Sound := by
  induction chars generalizing scan with
  | nil => exact sound
  | cons c chars ih => exact ih (sound.step c)

/-- **A text whose tree is closed has come to the end of its value.** -/
theorem exists_of_closed_finish {scan : Scan} (sound : scan.Sound)
    (closed : scan.finish.root.Closed) : ∃ root, scan = .ended root ∨ scan = .overrun root := by
  cases scan with
  | ended root => exact ⟨root, .inl rfl⟩
  | overrun root => exact ⟨root, .inr rfl⟩
  | stopped root => exact absurd closed sound
  | value stack =>
      -- a list that has no items yet is cut off itself; around any other value it is the frame
      match stack with
      | [] | .list (_ :: _) :: _ | .object _ _ :: _ => exact absurd closed (not_closed_plug id _)
      | .list [] :: outer => exact absurd closed (not_closed_plug id outer)
  | afterItem items stack => exact absurd closed (not_closed_plug id stack)
  | key members stack => cases members <;> exact absurd closed (not_closed_plug id stack)
  | colon members name stack => exact absurd closed (not_closed_plug id _)
  | afterMember members stack => exact absurd closed (not_closed_plug id stack)
  | word next rest node stack => exact absurd closed (not_closed_plug id stack)
  | number numeral stack =>
      refine absurd closed (not_closed_plug ?_ stack)
      split <;> exact id
  | string text stack => exact absurd closed (not_closed_plug id stack)
  | keyString text members stack =>
      have broken := text.exists_value_breakOff (.unfinished .string)
      exact absurd closed (not_closed_plug (not_closed_brokenKey broken) stack)

/-! ## More text -/

theorem foldl_overrun (root : Node) (chars : List Char) :
    chars.foldl step (.overrun root) = .overrun root := by
  induction chars with
  | nil => rfl
  | cons c chars ih =>
      have same : (Scan.overrun root).step c = .overrun root := ite_self _
      rw [List.foldl_cons, same, ih]

/-- **After its value a text goes on with blanks, or it is too long.** -/
theorem foldl_ended (root : Node) (chars : List Char) :
    chars.foldl step (.ended root) =
      if chars.all isSpace then .ended root else .overrun root := by
  induction chars with
  | nil => rfl
  | cons c chars ih =>
      have next : (Scan.ended root).step c = if isSpace c then .ended root else .overrun root := rfl
      rw [List.foldl_cons, next, List.all_cons]
      cases isSpace c with
      | true => exact ih
      | false => exact foldl_overrun root chars

end Scan

/-! ## Documents -/

/-- Nothing but spaces, tabs, line feeds and carriage returns. -/
def OnlySpace (text : String) : Prop :=
  ∀ c ∈ text.toList, c = ' ' ∨ c = '\t' ∨ c = '\n' ∨ c = '\r'

theorem all_isSpace_iff {text : String} :
    text.toList.all Scan.isSpace = true ↔ OnlySpace text := by
  simp [OnlySpace, Scan.isSpace, or_assoc]

section

variable {α : Type} {read : Node → Except Fault α} {text : String} {value : α}

/-- A text that is read ends with its value. -/
theorem Document.exists_ended_of_read (closes : ∀ node value, read node = .ok value → node.Closed)
    (reads : Document.read read text = .ok value) :
    ∃ root, read root = .ok value ∧ text.toList.foldl Scan.step .start = .ended root := by
  have readsRoot := read_root_of_read reads
  have fresh : Scan.start.Sound := trivial
  have sound := fresh.foldl text.toList
  rw [Document.ofText] at readsRoot
  obtain ⟨root, ended | overrun⟩ := Scan.exists_of_closed_finish sound (closes _ _ readsRoot)
  · rw [ended] at readsRoot
    exact ⟨root, readsRoot, ended⟩
  · rw [Document.read, Document.ofText, overrun] at reads
    obtain ⟨_, -, ends⟩ := bind_eq_ok_iff.mp reads
    cases ends

/-- **More text after a text that is read** is passed over where it is blank, and refused where it
is not. -/
theorem Document.read_append (closes : ∀ node value, read node = .ok value → node.Closed)
    (reads : Document.read read text = .ok value) (more : String) :
    Document.read read (text ++ more) =
      if more.toList.all Scan.isSpace then .ok value else .error .trailingCharacters := by
  obtain ⟨root, readsRoot, ended⟩ := exists_ended_of_read closes reads
  rw [Document.read, Document.ofText, String.toList_append, List.foldl_append, ended,
    Scan.foldl_ended]
  cases more.toList.all Scan.isSpace with
  | true =>
      rw [if_pos rfl, if_pos rfl, Scan.finish, readsRoot]
      rfl
  | false =>
      rw [if_neg Bool.false_ne_true, if_neg Bool.false_ne_true, Scan.finish, readsRoot]
      rfl

/-- What is read of a text with more text after it. -/
theorem Document.read_followed (closes : ∀ node value, read node = .ok value → node.Closed)
    (reads : Document.read read text = .ok value) (more : String) :
    ((∃ other, Document.read read (text ++ more) = .ok other) ↔ OnlySpace more) ∧
      (OnlySpace more → Document.read read (text ++ more) = .ok value) ∧
      (¬ OnlySpace more → Document.read read (text ++ more) = .error .trailingCharacters) := by
  rw [read_append closes reads, ← all_isSpace_iff]
  cases more.toList.all Scan.isSpace <;> simp

end

end BlockScript.Json

namespace BlockScript

open Blockly (SavedDocument)
open Json (OnlySpace all_isSpace_iff)

/-- **Neither reader of documents passes over what follows a document.** When a text is read as a
saved document, or as a workspace, then the text with more text after it is read exactly if all of
that is spaces, tabs and line ends. It is then read as the same document or workspace; otherwise it
is refused, because something follows the document. -/
theorem trailing_exact :
    (∀ (text more : String) (document : SavedDocument),
      SavedDocument.ofJson text = .ok document →
        ((∃ other, SavedDocument.ofJson (text ++ more) = .ok other) ↔ OnlySpace more) ∧
        (OnlySpace more → SavedDocument.ofJson (text ++ more) = .ok document) ∧
        (¬ OnlySpace more →
          SavedDocument.ofJson (text ++ more) = .error .trailingCharacters)) ∧
    ∀ (text more : String) (workspace : Workspace),
      Workspace.ofJson text = .ok workspace →
        ((∃ other, Workspace.ofJson (text ++ more) = .ok other) ↔ OnlySpace more) ∧
        (OnlySpace more → Workspace.ofJson (text ++ more) = .ok workspace) ∧
        (¬ OnlySpace more → Workspace.ofJson (text ++ more) = .error .trailingCharacters) := by
  constructor
  · intro text more document reads
    exact Json.Document.read_followed (fun _ _ => Json.Record.closed_of_read) reads more
  · intro text more workspace reads
    exact Json.Document.read_followed (fun _ _ => Json.Record.closed_of_read) reads more

/-- A document with a section that is passed over and a workspace that is given as a list, followed
by blanks of all four kinds, and by brackets. -/
theorem trailing_exact_passed_over :
    let saved := "\x7b\"blocks\":null,\"variables\":[\x7b\"x\":1e5\x7d]\x7d"
    let listed := "[[\x7b\"type\":\"if\"\x7d]]"
    let conditional : Workspace := ⟨[.ofType "if"]⟩
    SavedDocument.ofJson saved = .ok ⟨none⟩ ∧
      SavedDocument.ofJson (saved ++ " \t\r\n") = .ok ⟨none⟩ ∧
      SavedDocument.ofJson (saved ++ " ]") = .error .trailingCharacters ∧
      Workspace.ofJson listed = .ok conditional ∧
      Workspace.ofJson (listed ++ " \t\r\n") = .ok conditional ∧
      Workspace.ofJson (listed ++ "\n[]") = .error .trailingCharacters := by
  intro saved listed conditional
  have without : (SavedDocument.ofJson saved).map (·.blocks?.isNone) = .ok true := by
    decide +kernel
  obtain ⟨⟨_ | _⟩, readsSaved, isNone⟩ := map_eq_ok_iff.mp without
  case some => cases isNone
  have readsListed : Workspace.ofJson listed = .ok conditional := by decide +kernel
  have blank : OnlySpace " \t\r\n" := all_isSpace_iff.mp rfl
  have bracket : ¬ OnlySpace " ]" := all_isSpace_iff.not.mp Bool.false_ne_true
  have brackets : ¬ OnlySpace "\n[]" := all_isSpace_iff.not.mp Bool.false_ne_true
  obtain ⟨-, keepsSaved, -⟩ := trailing_exact.1 saved " \t\r\n" ⟨none⟩ readsSaved
  obtain ⟨-, -, refusesSaved⟩ := trailing_exact.1 saved " ]" ⟨none⟩ readsSaved
  obtain ⟨-, keepsListed, -⟩ := trailing_exact.2 listed " \t\r\n" conditional readsListed
  obtain ⟨-, -, refusesListed⟩ := trailing_exact.2 listed "\n[]" conditional readsListed
  exact ⟨readsSaved, keepsSaved blank, refusesSaved bracket, readsListed, keepsListed blank,
    refusesListed brackets⟩

end BlockScript
