import BlockScript.CommandLine.Arguments
import Mathlib.Data.List.TakeWhile
import Mathlib.Tactic.Common

/-!
# The spelling of arguments

Arguments spell items: options, with their values, and paths. An option with a value has up to five
spellings, of which those in two arguments need a value that does not look like an option
(`Spells`).

Main statements: an item is read alike in each of its spellings (`readFrom_of_spells`), and every
list of arguments is read item by item until there is nothing more, the options end, an item is
refused, or an argument spells nothing (`exists_stop`).
-/

set_option autoImplicit false

namespace BlockScript.CommandLine

/-! ## Names of options -/

namespace Opt

/-- The long name of an option. -/
def name : Opt → String
  | setting .output => "output"
  | setting .format => "format"
  | setting .config => "config"
  | setting .actionName => "action-name"
  | setting .every => "every"
  | setting .indent => "indent"
  | switch .tree => "tree"
  | switch .verify => "verify"
  | switch .version => "version"
  | switch .help => "help"

/-- The letter of an option, for those that have one. -/
def letter? : Opt → Option Char
  | setting .output => some 'o'
  | setting .format => some 'f'
  | setting .config => some 'c'
  | setting .actionName | setting .every | setting .indent => none
  | switch .version => some 'V'
  | switch .help => some 'h'
  | switch .tree | switch .verify => none

theorem ofLongName?_eq_some_iff {name : String} {opt : Opt} :
    ofLongName? name = some opt ↔ opt.name = name := by
  constructor
  · intro known
    unfold ofLongName? at known
    split at known <;> first | (obtain rfl := Option.some.inj known; rfl) | cases known
  · rintro rfl
    rcases opt with setting | switch
    · cases setting <;> rfl
    · cases switch <;> rfl

theorem ofLongName?_name (opt : Opt) : ofLongName? opt.name = some opt :=
  ofLongName?_eq_some_iff.mpr rfl

theorem ofLetter?_eq_some_iff {letter : Char} {opt : Opt} :
    ofLetter? letter = some opt ↔ opt.letter? = some letter := by
  constructor
  · intro known
    unfold ofLetter? at known
    split at known <;> first | (obtain rfl := Option.some.inj known; rfl) | cases known
  · intro own
    rcases opt with setting | switch
    · cases setting <;> first | (obtain rfl := Option.some.inj own; rfl) | cases own
    · cases switch <;> first | (obtain rfl := Option.some.inj own; rfl) | cases own

theorem equals_notMem_name (opt : Opt) : '=' ∉ opt.name.toList := by
  rcases opt with setting | switch
  · cases setting <;> decide
  · cases switch <;> decide

theorem name_ne_empty (opt : Opt) : opt.name ≠ "" := by
  rcases opt with setting | switch
  · cases setting <;> decide
  · cases switch <;> decide

theorem letter?_ne_dash (opt : Opt) : opt.letter? ≠ some '-' := by
  rcases opt with setting | switch
  · cases setting <;> decide
  · cases switch <;> decide

end Opt

/-! ## Items and their spellings -/

/-- What one or two arguments say. -/
inductive Item where
  /-- An option with its value. -/
  | setting (setting : Setting) (value : String)
  /-- An option without a value. -/
  | switch (switch : Switch)
  /-- A path. -/
  | path (path : String)
  deriving DecidableEq

/-- An argument does not look like an option; a single dash does not. -/
def Plain (argument : String) : Prop := argument = "-" ∨ argument.toList.head? ≠ some '-'

/-- Arguments spell an item. -/
inductive Spells : List String → Item → Prop
  /-- A long name, an equals sign and the value. -/
  | equals (setting : Setting) (value : String) :
      Spells ["--" ++ (Opt.setting setting).name ++ "=" ++ value] (.setting setting value)
  /-- A long name, and the value in the next argument. -/
  | next (setting : Setting) {value : String} (plain : Plain value) :
      Spells ["--" ++ (Opt.setting setting).name, value] (.setting setting value)
  /-- A letter and the value, which does not start with an equals sign. -/
  | attached {setting : Setting} {letter : Char}
      (own : (Opt.setting setting).letter? = some letter) {value : String} (nonempty : value ≠ "")
      (noEquals : value.toList.head? ≠ some '=') :
      Spells ["-" ++ String.singleton letter ++ value] (.setting setting value)
  /-- A letter, an equals sign and the value. -/
  | attachedEquals {setting : Setting} {letter : Char}
      (own : (Opt.setting setting).letter? = some letter) (value : String) :
      Spells ["-" ++ String.singleton letter ++ "=" ++ value] (.setting setting value)
  /-- A letter, and the value in the next argument. -/
  | nextToLetter {setting : Setting} {letter : Char}
      (own : (Opt.setting setting).letter? = some letter) {value : String} (plain : Plain value) :
      Spells ["-" ++ String.singleton letter, value] (.setting setting value)
  /-- A long name alone. -/
  | switch (switch : Switch) : Spells ["--" ++ (Opt.switch switch).name] (.switch switch)
  /-- A letter; what stands after it is not read. -/
  | switchLetter {switch : Switch} {letter : Char}
      (own : (Opt.switch switch).letter? = some letter) (rest : String) :
      Spells ["-" ++ String.singleton letter ++ rest] (.switch switch)
  /-- A path that is not the value of an option. -/
  | path {path : String} (plain : Plain path) : Spells [path] (.path path)

/-- Arguments spell items one after the other. -/
inductive Spelled : List String → List Item → Prop
  | nil : Spelled [] []
  | cons {spelling arguments : List String} {item : Item} {items : List Item}
      (spells : Spells spelling item) (spelled : Spelled arguments items) :
      Spelled (spelling ++ arguments) (item :: items)

/-! ## Shapes -/

namespace Shape

theorem ne_equals {name : List Char} (noEquals : '=' ∉ name) :
    ∀ c ∈ name, (c != '=') = true := by
  intro c member
  simpa using fun same : c = '=' => noEquals (same ▸ member)

/-- What stands before the first equals sign, and the rest. -/
theorem split_equals {name : List Char} (noEquals : '=' ∉ name) (text : List Char) :
    (name ++ '=' :: text).takeWhile (· != '=') = name ∧
      (name ++ '=' :: text).dropWhile (· != '=') = '=' :: text := by
  constructor
  · rw [List.takeWhile_append_of_pos (ne_equals noEquals), List.takeWhile_cons_of_neg (by simp),
      List.append_nil]
  · rw [List.dropWhile_append_of_pos (ne_equals noEquals), List.dropWhile_cons_of_neg (by simp)]

/-- An argument that starts with two dashes and goes on. -/
theorem of_dashes {argument : String} {cs : List Char}
    (spelled : argument.toList = '-' :: '-' :: cs) (nonempty : cs ≠ []) :
    Shape.of argument = .long (String.ofList (cs.takeWhile (· != '=')))
      ((cs.dropWhile (· != '=')).tail?.map String.ofList) := by
  cases cs with
  | nil => exact absurd rfl nonempty
  | cons c cs =>
      rw [Shape.of, spelled]
      simp only
      cases (c :: cs).dropWhile (· != '=') <;> rfl

theorem of_equals {name : String} (noEquals : '=' ∉ name.toList) (text : String) :
    Shape.of ("--" ++ name ++ "=" ++ text) = .long name (some text) := by
  have spelled : ("--" ++ name ++ "=" ++ text).toList =
      '-' :: '-' :: (name.toList ++ '=' :: text.toList) := by
    simp [String.toList_append]
  obtain ⟨before, after⟩ := split_equals noEquals text.toList
  rw [of_dashes spelled (by simp), before, after, String.ofList_toList, List.tail?_cons,
    Option.map_some, String.ofList_toList]

theorem of_name {name : String} (noEquals : '=' ∉ name.toList) (nonempty : name ≠ "") :
    Shape.of ("--" ++ name) = .long name none := by
  have spelled : ("--" ++ name).toList = '-' :: '-' :: name.toList := by
    simp [String.toList_append]
  have others := ne_equals noEquals
  have whole : name.toList.takeWhile (· != '=') = name.toList := by
    rw [← List.append_nil name.toList, List.takeWhile_append_of_pos others, List.takeWhile_nil]
  have nothing : name.toList.dropWhile (· != '=') = [] := List.dropWhile_eq_nil_iff.mpr others
  rw [of_dashes spelled (by simpa using nonempty), whole, nothing, String.ofList_toList]
  rfl

theorem of_letter {letter : Char} (noDash : letter ≠ '-') (rest : String) :
    Shape.of ("-" ++ String.singleton letter ++ rest) = .short letter rest.toList := by
  have spelled : ("-" ++ String.singleton letter ++ rest).toList =
      '-' :: letter :: rest.toList := by
    simp [String.toList_append]
  rw [Shape.of, spelled]
  simp [noDash]

theorem of_plain {argument : String} (plain : Plain argument) : Shape.of argument = .value := by
  obtain rfl | noDash := plain
  · rfl
  · rw [Shape.of]
    split
    · next own => simp [own] at noDash
    · next own => simp [own] at noDash
    · next own => simp [own] at noDash
    · rfl

end Shape

/-- The forms of arguments. -/
inductive Form : String → Prop
  | endOfOptions : Form "--"
  | equals {name : String} (noEquals : '=' ∉ name.toList) (text : String) :
      Form ("--" ++ name ++ "=" ++ text)
  | name {name : String} (noEquals : '=' ∉ name.toList) (nonempty : name ≠ "") :
      Form ("--" ++ name)
  | letter {letter : Char} (noDash : letter ≠ '-') (rest : String) :
      Form ("-" ++ String.singleton letter ++ rest)
  | plain {argument : String} (plain : Plain argument) : Form argument

theorem Form.of_dashes {argument : String} {cs : List Char}
    (own : argument.toList = '-' :: '-' :: cs) : Form argument := by
  have before : '=' ∉ cs.takeWhile (· != '=') := by
    intro member
    simpa using List.mem_takeWhile_imp member
  have whole := List.takeWhile_append_dropWhile (p := (· != '=')) (l := cs)
  rcases rest : cs.dropWhile (· != '=') with _ | ⟨c, text⟩
  · rw [rest, List.append_nil] at whole
    rw [whole] at before
    by_cases nothing : cs = []
    · subst nothing
      obtain rfl : argument = "--" := String.toList_inj.mp own
      exact .endOfOptions
    · have spelled : argument = "--" ++ String.ofList cs :=
        String.toList_inj.mp (by simp [own, String.toList_append])
      refine spelled ▸ .name (by simpa using before) ?_
      simpa [← String.toList_inj] using nothing
  · have equals : c = '=' := by
      have stops := List.head_dropWhile_not (· != '=') (l := cs) (by simp [rest])
      simpa [rest] using stops
    subst equals
    rw [rest] at whole
    have spelled : argument =
        "--" ++ String.ofList (cs.takeWhile (· != '=')) ++ "=" ++ String.ofList text :=
      String.toList_inj.mp (by simp [own, String.toList_append, whole])
    exact spelled ▸ .equals (by simpa using before) _

/-- **Every argument has a form.** -/
theorem Form.of (argument : String) : Form argument := by
  rcases own : argument.toList with _ | ⟨first, cs⟩
  · exact .plain (.inr (by simp [own]))
  by_cases dash : first = '-'
  case neg => exact .plain (.inr (by simpa [own] using dash))
  subst dash
  rcases cs with _ | ⟨second, cs⟩
  · exact .plain (.inl (String.toList_inj.mp own))
  by_cases dashes : second = '-'
  case pos => exact .of_dashes (dashes ▸ own)
  have spelled : argument = "-" ++ String.singleton second ++ String.ofList cs :=
    String.toList_inj.mp (by simp [own, String.toList_append])
  exact spelled ▸ .letter dashes _

/-! ## Reading items -/

/-- What has been asked for after one more item, if that adds to it. -/
def Draft.add? (draft : Draft) : Item → Option Draft
  | .setting setting value => draft.set? setting value
  | .path path => draft.setPath? path
  | .switch .tree => if draft.tree then none else some { draft with tree := true }
  | .switch .verify => if draft.verify then none else some { draft with verify := true }
  | .switch .version | .switch .help => none

/-- What an item asks for that adds nothing. -/
def Item.request : Item → Request
  | .switch .version => .version
  | .switch .help => .help
  | .switch .tree | .switch .verify | .setting .. | .path _ => .misuse

namespace Draft

variable (draft : Draft) (rest : List String)

theorem effect_equals (setting : Setting) (value : String) :
    draft.effect ("--" ++ (Opt.setting setting).name ++ "=" ++ value) =
      draft.give setting (some value) := by
  rw [effect, Shape.of_equals (Opt.equals_notMem_name _)]
  simp only [Opt.ofLongName?_name]

theorem effect_name (opt : Opt) :
    draft.effect ("--" ++ opt.name) =
      match opt with
      | .setting setting => .wants setting
      | .switch switch => draft.turnOn switch := by
  rw [effect, Shape.of_name opt.equals_notMem_name opt.name_ne_empty]
  simp only [Opt.ofLongName?_name]
  cases opt <;> rfl

theorem effect_letter {opt : Opt} {letter : Char} (own : opt.letter? = some letter)
    (rest : String) :
    draft.effect ("-" ++ String.singleton letter ++ rest) =
      match opt with
      | .setting setting => draft.give setting (attached? rest.toList)
      | .switch switch => draft.turnOn switch := by
  have noDash : letter ≠ '-' := by
    rintro rfl
    exact opt.letter?_ne_dash own
  rw [effect, Shape.of_letter noDash]
  simp only [Opt.ofLetter?_eq_some_iff.mpr own]
  cases opt <;> rfl

theorem effect_letterAlone {setting : Setting} {letter : Char}
    (own : (Opt.setting setting).letter? = some letter) :
    draft.effect ("-" ++ String.singleton letter) = .wants setting := by
  rw [← String.append_empty (s := "-" ++ _)]
  exact draft.effect_letter own ""

theorem effect_plain {path : String} (plain : Plain path) :
    draft.effect path = (draft.setPath? path).elim (.settled .misuse) .more := by
  rw [effect, Shape.of_plain plain]
  cases draft.setPath? path <;> rfl

variable {draft}

theorem readFrom_of_give {argument value : String} {setting : Setting}
    (gives : draft.effect argument = draft.give setting (some value)) :
    readFrom draft (argument :: rest) =
      (draft.set? setting value).elim .misuse fun next => readFrom next rest := by
  rw [readFrom, gives]
  simp only [give]
  cases draft.set? setting value <;> rfl

theorem readFrom_of_wants {argument value : String} {setting : Setting}
    (wants : draft.effect argument = .wants setting) (plain : Plain value) :
    readFrom draft (argument :: value :: rest) =
      (draft.set? setting value).elim .misuse fun next => readFrom next rest := by
  rw [readFrom, wants]
  simp only [Shape.of_plain plain]
  cases draft.set? setting value <;> rfl

theorem readFrom_of_turnOn {argument : String} {switch : Switch}
    (turns : draft.effect argument = draft.turnOn switch) :
    readFrom draft (argument :: rest) =
      (draft.add? (.switch switch)).elim (Item.switch switch).request
        fun next => readFrom next rest := by
  rw [readFrom, turns]
  cases switch with
  | tree => cases own : draft.tree <;> simp [turnOn, add?, own, Item.request]
  | verify => cases own : draft.verify <;> simp [turnOn, add?, own, Item.request]
  | version | help => rfl

end Draft

theorem attached?_of_ne {value : String} (nonempty : value ≠ "")
    (noEquals : value.toList.head? ≠ some '=') : attached? value.toList = some value := by
  rcases own : value.toList with _ | ⟨c, cs⟩
  · exact absurd (String.toList_inj.mp own) nonempty
  · have noSign : c ≠ '=' := by simpa [own] using noEquals
    have whole : String.ofList (c :: cs) = value := by rw [← own, String.ofList_toList]
    simp [attached?, noSign, whole]

theorem attached?_equals (value : String) : attached? ("=" ++ value).toList = some value := by
  simp [attached?, String.toList_append]

/-- **An item is read alike in each of its spellings.** -/
theorem readFrom_of_spells {spelling : List String} {item : Item} (spells : Spells spelling item)
    (draft : Draft) (rest : List String) :
    readFrom draft (spelling ++ rest) =
      (draft.add? item).elim item.request fun next => readFrom next rest := by
  cases spells with
  | equals setting value => exact Draft.readFrom_of_give rest (draft.effect_equals setting value)
  | next setting plain => exact Draft.readFrom_of_wants rest (draft.effect_name _) plain
  | attached own nonempty noEquals =>
      refine Draft.readFrom_of_give rest ((draft.effect_letter own _).trans ?_)
      simp only [attached?_of_ne nonempty noEquals]
  | attachedEquals own value =>
      refine Draft.readFrom_of_give rest ?_
      rw [String.append_assoc]
      refine (draft.effect_letter own _).trans ?_
      simp only [attached?_equals]
  | nextToLetter own plain =>
      exact Draft.readFrom_of_wants rest (draft.effect_letterAlone own) plain
  | switch switch => exact Draft.readFrom_of_turnOn rest (draft.effect_name _)
  | switchLetter own more => exact Draft.readFrom_of_turnOn rest (draft.effect_letter own more)
  | path plain =>
      rw [List.singleton_append, readFrom, draft.effect_plain plain]
      simp only [Draft.add?]
      cases draft.setPath? _ <;> rfl

/-! ## Reading a list of arguments -/

/-- What a list of arguments starts with: nothing, the end of the options, the spelling of an item,
or something wrong. -/
inductive Starts : List String → Prop
  | nothing : Starts []
  | endOfOptions (paths : List String) : Starts ("--" :: paths)
  | spelling {spelling : List String} {item : Item} (spells : Spells spelling item)
      (rest : List String) : Starts (spelling ++ rest)
  | misuse {arguments : List String} (wrong : ∀ draft, readFrom draft arguments = .misuse) :
      Starts arguments

theorem plain_of_value {argument : String} (value : Shape.of argument = .value) :
    Plain argument := by
  cases Form.of argument with
  | endOfOptions => cases value
  | equals noEquals text => rw [Shape.of_equals noEquals] at value; cases value
  | name noEquals nonempty => rw [Shape.of_name noEquals nonempty] at value; cases value
  | letter noDash rest => rw [Shape.of_letter noDash] at value; cases value
  | plain plain => exact plain

namespace Starts

theorem of_settled {argument : String}
    (settled : ∀ draft : Draft, draft.effect argument = .settled .misuse) (rest : List String) :
    Starts (argument :: rest) :=
  .misuse fun draft => by rw [readFrom, settled]

/-- An option that wants a value is followed by one, or the arguments are wrong. -/
theorem of_wants {argument : String} {setting : Setting}
    (wants : ∀ draft : Draft, draft.effect argument = .wants setting)
    (next : ∀ {value : String}, Plain value → Spells [argument, value] (.setting setting value))
    (rest : List String) : Starts (argument :: rest) := by
  cases rest with
  | nil => exact .misuse fun draft => by rw [readFrom, wants]
  | cons value rest =>
      by_cases plain : Plain value
      · exact .spelling (next plain) rest
      · refine .misuse fun draft => ?_
        rw [readFrom, wants]
        simp only
        split
        · next shape => exact absurd (plain_of_value shape) plain
        · rfl

theorem of_equals {name : String} (noEquals : '=' ∉ name.toList) (text : String)
    (rest : List String) : Starts (("--" ++ name ++ "=" ++ text) :: rest) := by
  cases known : Opt.ofLongName? name with
  | none =>
      refine of_settled (fun draft => ?_) rest
      rw [Draft.effect, Shape.of_equals noEquals]
      simp only [known]
  | some opt =>
      obtain rfl := Opt.ofLongName?_eq_some_iff.mp known
      cases opt with
      | setting setting => exact .spelling (.equals setting text) rest
      | switch switch =>
          refine of_settled (fun draft => ?_) rest
          rw [Draft.effect, Shape.of_equals noEquals]
          simp [known]

theorem of_name {name : String} (noEquals : '=' ∉ name.toList) (nonempty : name ≠ "")
    (rest : List String) : Starts (("--" ++ name) :: rest) := by
  cases known : Opt.ofLongName? name with
  | none =>
      refine of_settled (fun draft => ?_) rest
      rw [Draft.effect, Shape.of_name noEquals nonempty]
      simp only [known]
  | some opt =>
      obtain rfl := Opt.ofLongName?_eq_some_iff.mp known
      cases opt with
      | setting setting => exact of_wants (fun draft => draft.effect_name _) (.next setting) rest
      | switch switch => exact .spelling (.switch switch) rest

theorem of_letter {letter : Char} (noDash : letter ≠ '-') (text : String) (rest : List String) :
    Starts (("-" ++ String.singleton letter ++ text) :: rest) := by
  cases known : Opt.ofLetter? letter with
  | none =>
      refine of_settled (fun draft => ?_) rest
      rw [Draft.effect, Shape.of_letter noDash]
      simp only [known]
  | some opt =>
      have own := Opt.ofLetter?_eq_some_iff.mp known
      cases opt with
      | switch switch => exact .spelling (.switchLetter own text) rest
      | setting setting =>
          by_cases nothing : text = ""
          · subst nothing
            rw [String.append_empty]
            exact of_wants (fun draft => draft.effect_letterAlone own) (.nextToLetter own) rest
          by_cases equals : text.toList.head? = some '='
          · obtain ⟨value, spelled⟩ := List.head?_eq_some_iff.mp equals
            obtain rfl : text = "=" ++ String.ofList value :=
              String.toList_inj.mp (by simp [spelled, String.toList_append])
            rw [← String.append_assoc]
            exact .spelling (.attachedEquals own _) rest
          · exact .spelling (.attached own nothing equals) rest

/-- **Every list of arguments starts in one of these ways.** -/
theorem of : (arguments : List String) → Starts arguments
  | [] => .nothing
  | argument :: rest =>
    match Form.of argument with
    | .endOfOptions => .endOfOptions rest
    | .equals noEquals text => of_equals noEquals text rest
    | .name noEquals nonempty => of_name noEquals nonempty rest
    | .letter noDash text => of_letter noDash text rest
    | .plain plain => .spelling (.path plain) rest

end Starts

theorem readFrom_of_spelled {arguments : List String} {items : List Item} {draft next : Draft}
    (spelled : Spelled arguments items) (adds : items.foldlM Draft.add? draft = some next)
    (rest : List String) : readFrom draft (arguments ++ rest) = readFrom next rest := by
  induction spelled generalizing draft with
  | nil =>
      obtain rfl := Option.some.inj adds
      rfl
  | cons spells spelled ih =>
      rw [List.foldlM_cons] at adds
      obtain ⟨between, added, adds⟩ := Option.bind_eq_some_iff.mp adds
      rw [List.append_assoc, readFrom_of_spells spells, added, Option.elim_some, ih adds]

/-- Where the reading of options stops. -/
inductive Stops (draft : Draft) : List String → Prop
  | nothing : Stops draft []
  | endOfOptions (paths : List String) : Stops draft ("--" :: paths)
  | refused {spelling : List String} {item : Item} (spells : Spells spelling item)
      (refuses : draft.add? item = none) (rest : List String) : Stops draft (spelling ++ rest)
  | unspelled {arguments : List String} (misuse : readFrom draft arguments = .misuse) :
      Stops draft arguments

theorem Spells.length_pos {spelling : List String} {item : Item} (spells : Spells spelling item) :
    0 < spelling.length := by
  cases spells <;> exact Nat.succ_pos _

/-- **Reading goes through items until it stops.** -/
theorem exists_stop (draft : Draft) (arguments : List String) :
    ∃ before items next rest, Spelled before items ∧ arguments = before ++ rest ∧
      items.foldlM Draft.add? draft = some next ∧ Stops next rest := by
  -- The induction is on the number of arguments, as an item takes one or two of them.
  generalize size : arguments.length = length
  induction length using Nat.strong_induction_on generalizing draft arguments with
  | _ length ih =>
  have here (stops : Stops draft arguments) : ∃ before items next rest, Spelled before items ∧
      arguments = before ++ rest ∧ items.foldlM Draft.add? draft = some next ∧ Stops next rest :=
    ⟨[], [], draft, arguments, .nil, rfl, rfl, stops⟩
  cases Starts.of arguments with
  | nothing => exact here .nothing
  | endOfOptions paths => exact here (.endOfOptions paths)
  | misuse wrong => exact here (.unspelled (wrong draft))
  | @spelling spelling item spells more =>
      cases added : draft.add? item with
      | none => exact here (.refused spells added more)
      | some between =>
          have shorter : more.length < length := by
            have positive := spells.length_pos
            rw [← size, List.length_append]
            omega
          obtain ⟨before, items, next, rest, spelled, rfl, adds, stops⟩ :=
            ih more.length shorter between more rfl
          refine ⟨spelling ++ before, item :: items, next, rest, .cons spells spelled, ?_, ?_,
            stops⟩
          · rw [List.append_assoc]
          · rw [List.foldlM_cons, added]
            exact adds

end BlockScript.CommandLine
