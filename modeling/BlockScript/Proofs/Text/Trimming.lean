import BlockScript.Text.Blank
import Mathlib.Data.List.DropRight

/-!
# Trimmed texts and words

What trimming leaves alone, and how the words of a text follow from its pieces.

A text is solid when it starts and ends with characters that are not blank. The solid texts are
those with something in them that trimming does not change (`solid_iff`), and trimming a text
leaves nothing or a solid text (`solid_trim`). Every line that the reader of scripts sees is solid.

Words are found from the left: a run of characters that are not blank is the first word of every
text that goes on with a blank (`words_append_cons`).
-/

set_option autoImplicit false

namespace BlockScript.Text

/-! ## Blanks among the ASCII characters -/

theorem isBlank_space : isBlank ' ' = true := by decide

/-- The ASCII characters with a shape of their own are not blank. -/
theorem isBlank_eq_false_of_visible {c : Char} (low : 33 ≤ c.toNat) (high : c.toNat ≤ 126) :
    isBlank c = false := by
  rw [← Bool.not_eq_true]
  intro blank
  obtain ⟨range, member, first, last⟩ := CharSet.contains_iff.mp blank
  simp only [blanks, List.mem_cons, List.not_mem_nil, or_false] at member
  rcases member with rfl | rfl | rfl | rfl | rfl | rfl | rfl | rfl | rfl | rfl <;> omega

theorem isBlank_eq_false_of_isDigit {c : Char} (digit : c.isDigit = true) : isBlank c = false := by
  obtain ⟨low, high⟩ := Char.isDigit_iff_toNat.mp digit
  have first : '0'.toNat = 48 := rfl
  have last : '9'.toNat = 57 := rfl
  exact isBlank_eq_false_of_visible (by omega) (by omega)

/-! ## One end -/

theorem trimStart_eq_self {cs : List Char} (first : ∃ c ∈ cs.head?, isBlank c = false) :
    trimStart cs = cs := by
  obtain ⟨c, starts, solid⟩ := first
  cases cs with
  | nil => cases starts
  | cons d rest =>
      cases starts
      exact List.dropWhile_cons_of_neg (by simp [solid])

theorem trimEnd_eq_self {cs : List Char} (last : ∃ c ∈ cs.getLast?, isBlank c = false) :
    trimEnd cs = cs := by
  obtain ⟨c, ends, solid⟩ := last
  refine List.rdropWhile_eq_self_iff.mpr fun nonempty => ?_
  rw [List.getLast?_eq_some_getLast nonempty] at ends
  cases ends
  simp [solid]

theorem trimEnd_concat_blank {cs : List Char} {c : Char} (blank : isBlank c = true) :
    trimEnd (cs ++ [c]) = trimEnd cs :=
  List.rdropWhile_concat_pos isBlank cs c blank

theorem trimEnd_eq_nil_iff {cs : List Char} : trimEnd cs = [] ↔ isAllBlank cs = true := by
  rw [isAllBlank, List.all_eq_true]
  exact List.rdropWhile_eq_nil_iff

theorem trimEnd_trimEnd (cs : List Char) : trimEnd (trimEnd cs) = trimEnd cs :=
  List.rdropWhile_idempotent isBlank cs

theorem isAllBlank_trimEnd (cs : List Char) : isAllBlank (trimEnd cs) = isAllBlank cs := by
  rw [Bool.eq_iff_iff, ← trimEnd_eq_nil_iff, ← trimEnd_eq_nil_iff, trimEnd_trimEnd]

/-- Trimming at the end does not go past a text with something visible in it. -/
theorem trimEnd_append {rest : List Char} (notBlank : isAllBlank rest = false) (cs : List Char) :
    trimEnd (cs ++ rest) = cs ++ trimEnd rest := by
  have stops : ¬ (rest.reverse.dropWhile isBlank).isEmpty := by
    rw [List.isEmpty_iff, ← List.reverse_eq_nil_iff]
    exact fun empty => Bool.false_ne_true (notBlank.symm.trans (trimEnd_eq_nil_iff.mp empty))
  rw [trimEnd, List.reverse_append, List.dropWhile_append, if_neg stops, List.reverse_append,
    List.reverse_reverse, trimEnd]

/-- What is left after trimming at the end does not end with a blank. -/
theorem notBlank_of_mem_getLast?_trimEnd {cs : List Char} {c : Char}
    (ends : c ∈ (trimEnd cs).getLast?) : isBlank c = false := by
  obtain ⟨nonempty, rfl⟩ := List.mem_getLast?_eq_getLast ends
  have notBlank := List.rdropWhile_last_not isBlank cs nonempty
  exact Bool.not_eq_true _ ▸ notBlank

theorem mem_of_mem_trimEnd {cs : List Char} {c : Char} (member : c ∈ trimEnd cs) : c ∈ cs :=
  (List.rdropWhile_prefix isBlank cs).subset member

theorem mem_of_mem_trim {cs : List Char} {c : Char} (member : c ∈ trim cs) : c ∈ cs :=
  List.dropWhile_subset isBlank (mem_of_mem_trimEnd member)

/-- Trimming at the end keeps what stands at the start, when anything is left. -/
theorem head?_trimEnd {cs : List Char} (nonempty : trimEnd cs ≠ []) :
    (trimEnd cs).head? = cs.head? := by
  obtain ⟨rest, whole⟩ := List.rdropWhile_prefix isBlank cs
  conv_rhs => rw [← whole]
  exact (List.head?_append_of_ne_nil _ nonempty).symm

/-! ## Both ends -/

/-- A text that starts and ends with a character that is not blank. -/
structure Solid (cs : List Char) : Prop where
  /-- The first character is not blank. -/
  first : ∃ c ∈ cs.head?, isBlank c = false
  /-- The last character is not blank. -/
  last : ∃ c ∈ cs.getLast?, isBlank c = false

theorem Solid.ne_nil {cs : List Char} (solid : Solid cs) : cs ≠ [] := by
  rintro rfl
  obtain ⟨c, starts, -⟩ := solid.first
  cases starts

theorem Solid.trim_eq {cs : List Char} (solid : Solid cs) : trim cs = cs := by
  rw [trim, trimStart_eq_self solid.first, trimEnd_eq_self solid.last]

theorem Solid.not_isAllBlank {cs : List Char} (solid : Solid cs) : isAllBlank cs = false := by
  obtain ⟨c, starts, notBlank⟩ := solid.first
  exact List.all_eq_false.mpr ⟨c, List.mem_of_mem_head? starts, by simp [notBlank]⟩

/-- The trimmed form of a text that does not consist of blanks alone is solid. -/
theorem solid_trim {cs : List Char} (nonempty : trim cs ≠ []) : Solid (trim cs) := by
  have startNonempty : trimStart cs ≠ [] := by
    intro empty
    rw [trim, empty] at nonempty
    exact nonempty rfl
  constructor
  · have notBlank := List.head_dropWhile_not isBlank startNonempty
    refine ⟨(trimStart cs).head startNonempty, ?_, notBlank⟩
    rw [trim, head?_trimEnd nonempty]
    exact List.head?_eq_some_head startNonempty
  · have ends := List.getLast?_eq_some_getLast nonempty
    exact ⟨(trim cs).getLast nonempty, ends, notBlank_of_mem_getLast?_trimEnd ends⟩

/-- **Solid texts are the ones that trimming does not change.** -/
theorem solid_iff {cs : List Char} : Solid cs ↔ cs ≠ [] ∧ trim cs = cs := by
  constructor
  · exact fun solid => ⟨solid.ne_nil, solid.trim_eq⟩
  · rintro ⟨nonempty, same⟩
    rw [← same] at nonempty ⊢
    exact solid_trim nonempty

theorem trim_trim (cs : List Char) : trim (trim cs) = trim cs := by
  by_cases empty : trim cs = []
  · rw [empty]
    rfl
  · exact (solid_trim empty).trim_eq

theorem trimmed_trimmed (text : String) : trimmed (trimmed text) = trimmed text := by
  rw [trimmed, trimmed, String.toList_ofList, trim_trim]

/-- The trimmed form of a solid text with a blank after it. -/
theorem Solid.trim_concat_blank {cs : List Char} (solid : Solid cs) {c : Char}
    (blank : isBlank c = true) : trim (cs ++ [c]) = cs := by
  obtain ⟨first, starts, notBlank⟩ := solid.first
  have start : trimStart (cs ++ [c]) = cs ++ [c] :=
    trimStart_eq_self ⟨first, by rw [List.head?_append_of_ne_nil _ solid.ne_nil]; exact starts,
      notBlank⟩
  rw [trim, start, trimEnd_concat_blank blank, trimEnd_eq_self solid.last]

/-! ## Words -/

/-- A run of characters that are not blank, before a blank, is the first word. -/
theorem words_append_cons {word : List Char} (nonempty : word ≠ [])
    (solid : ∀ c ∈ word, isBlank c = false) {blank : Char} (separates : isBlank blank = true)
    (rest : List Char) : words (word ++ blank :: rest) = word :: words rest := by
  rw [words, List.splitOnP_append_cons_of_forall_mem solid blank separates,
    List.filter_cons_of_pos (by simpa using nonempty), words]

/-- A text without blanks is one word. -/
theorem words_eq_singleton {word : List Char} (nonempty : word ≠ [])
    (solid : ∀ c ∈ word, isBlank c = false) : words word = [word] := by
  rw [words, List.splitOnP_eq_singleton solid, List.filter_cons_of_pos (by simpa using nonempty),
    List.filter_nil]

end BlockScript.Text
