/-!
# Sets of characters and blank characters

A character property of a standard is a list of closed ranges of code points. `CharSet` is that
list, and `CharSet.contains` is membership; the property tables of this library (here, in
`Text.LetterCase` and in `Text.Shown`) are values of this type.

Scripts, trigger intervals and conditions agree on one notion of white space: the characters with
the White_Space property, so a no-break space is blank and a zero-width space is not. Text is
handled as a list of characters; `trim` removes blanks at both ends and `words` lists the maximal
runs of other characters.
-/

set_option autoImplicit false

namespace BlockScript

/-- A set of characters, as closed ranges of code points. -/
structure CharSet where
  /-- The first and the last code point of each range. -/
  ranges : List (Nat × Nat)

namespace CharSet

/-- Membership: some range holds the character's code point. -/
def contains (set : CharSet) (c : Char) : Bool :=
  set.ranges.any fun range => decide (range.1 ≤ c.toNat) && decide (c.toNat ≤ range.2)

/-- Membership is being inside one of the ranges. -/
theorem contains_iff {set : CharSet} {c : Char} :
    set.contains c = true ↔ ∃ range ∈ set.ranges, range.1 ≤ c.toNat ∧ c.toNat ≤ range.2 := by
  simp [contains, List.any_eq_true]

end CharSet

namespace Text

/-! ## Blank characters -/

/-- The characters with the White_Space property. -/
def blanks : CharSet :=
  ⟨[(0x09, 0x0D), (0x20, 0x20), (0x85, 0x85), (0xA0, 0xA0), (0x1680, 0x1680), (0x2000, 0x200A),
    (0x2028, 0x2029), (0x202F, 0x202F), (0x205F, 0x205F), (0x3000, 0x3000)]⟩

/-- A white space character. -/
def isBlank (c : Char) : Bool := blanks.contains c

/-- Every character that the standard library calls white space is blank. -/
theorem isBlank_of_isWhitespace {c : Char} (h : c.isWhitespace = true) : isBlank c = true := by
  simp only [Char.isWhitespace, Bool.or_eq_true, decide_eq_true_eq] at h
  rcases h with ((rfl | rfl) | rfl) | rfl <;> decide

/-- The text without its leading blanks. -/
def trimStart (cs : List Char) : List Char := cs.dropWhile isBlank

/-- The text without its trailing blanks. -/
def trimEnd (cs : List Char) : List Char := (cs.reverse.dropWhile isBlank).reverse

/-- The text without the blanks at its two ends. -/
def trim (cs : List Char) : List Char := trimEnd (trimStart cs)

/-- Holds of a text with nothing but blanks in it. -/
def isAllBlank (cs : List Char) : Bool := cs.all isBlank

/-- The maximal runs of characters that are not blank, in order. -/
def words (cs : List Char) : List (List Char) := (cs.splitOnP isBlank).filter (! ·.isEmpty)

/-- A text without the blanks at its two ends. -/
def trimmed (text : String) : String := String.ofList (trim text.toList)

end Text

end BlockScript
