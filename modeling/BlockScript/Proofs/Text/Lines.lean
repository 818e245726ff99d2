import BlockScript.Script.Line
import Mathlib.Data.List.Basic

/-!
# Lines written and read

The lines of a text that was written line by line are the lines that were written
(`lines_flatMap`), as long as no line has a line feed in it or a carriage return at its end; where
one ends with a carriage return they can still be told apart (`flatMap_newline_inj`). In the other
direction, no line of any text has a line feed in it (`newline_notMem_of_mem_lines`), and any text
can be cut after any of its lines (`exists_cut`).

What ends a line is seen because it is unlike what is in the line. The same goes for every run of
like elements (`run_append_inj`).
-/

set_option autoImplicit false

namespace BlockScript.Text

/-! ## Reading what was written -/

theorem dropReturn_eq_self {line : List Char} (noReturn : line.getLast? ≠ some '\r') :
    dropReturn line = line :=
  if_neg noReturn

/-- The pieces between the line feeds of lines that end with one each. -/
theorem splitOnP_flatMap_newline {raws : List (List Char)} (noFeed : ∀ raw ∈ raws, '\n' ∉ raw) :
    (raws.flatMap (· ++ ['\n'])).splitOnP (· == '\n') = raws ++ [[]] := by
  induction raws with
  | nil => rfl
  | cons raw raws ih =>
      have solid : ∀ c ∈ raw, (c == '\n') = false := fun c member =>
        beq_eq_false_iff_ne.mpr fun feed => noFeed raw List.mem_cons_self (feed ▸ member)
      rw [List.flatMap_cons, List.append_assoc, List.singleton_append,
        List.splitOnP_append_cons_of_forall_mem solid '\n' (by simp),
        ih fun other member => noFeed other (List.mem_cons_of_mem _ member), List.cons_append]

/-- **Lines that end with a line feed each can be told apart**, whatever they say. -/
theorem flatMap_newline_inj {raws others : List (List Char)} (noFeed : ∀ raw ∈ raws, '\n' ∉ raw)
    (noFeedToo : ∀ raw ∈ others, '\n' ∉ raw)
    (same : raws.flatMap (· ++ ['\n']) = others.flatMap (· ++ ['\n'])) : raws = others := by
  have pieces := congrArg (List.splitOnP (· == '\n')) same
  rw [splitOnP_flatMap_newline noFeed, splitOnP_flatMap_newline noFeedToo] at pieces
  exact List.append_cancel_right pieces

/-- When every line has its end, nothing is left after the last one. -/
theorem linesOfPieces_concat_nil {raws : List (List Char)}
    (noReturn : ∀ raw ∈ raws, raw.getLast? ≠ some '\r') :
    linesOfPieces (raws ++ [[]]) = raws := by
  induction raws with
  | nil => rfl
  | cons raw raws ih =>
      have rest := ih fun other member => noReturn other (List.mem_cons_of_mem _ member)
      have own := dropReturn_eq_self (noReturn raw List.mem_cons_self)
      cases raws with
      | nil => simp [linesOfPieces, own]
      | cons next raws =>
          simp only [List.cons_append] at rest ⊢
          rw [linesOfPieces, rest, own]

/-- **The lines of a text are the lines that were written.** -/
theorem lines_flatMap {raws : List (List Char)} (noFeed : ∀ raw ∈ raws, '\n' ∉ raw)
    (noReturn : ∀ raw ∈ raws, raw.getLast? ≠ some '\r') :
    lines (raws.flatMap (· ++ ['\n'])) = raws := by
  rw [lines, splitOnP_flatMap_newline noFeed, linesOfPieces_concat_nil noReturn]

/-! ## No line has a line feed -/

theorem mem_of_mem_dropReturn {line : List Char} {c : Char} (member : c ∈ dropReturn line) :
    c ∈ line := by
  unfold dropReturn at member
  split at member
  · exact (List.dropLast_sublist line).subset member
  · exact member

/-- A line is a piece of its text, up to a carriage return. -/
theorem exists_piece_of_mem_linesOfPieces {pieces : List (List Char)} {line : List Char}
    (member : line ∈ linesOfPieces pieces) : ∃ piece ∈ pieces, ∀ c ∈ line, c ∈ piece := by
  induction pieces with
  | nil => cases member
  | cons piece pieces ih =>
      cases pieces with
      | nil =>
          simp only [linesOfPieces] at member
          split at member
          · cases member
          · exact ⟨piece, List.mem_cons_self, fun c there => List.mem_singleton.mp member ▸ there⟩
      | cons next pieces =>
          rcases List.mem_cons.mp member with rfl | later
          · exact ⟨piece, List.mem_cons_self, fun c there => mem_of_mem_dropReturn there⟩
          · obtain ⟨other, found, inside⟩ := ih later
            exact ⟨other, List.mem_cons_of_mem _ found, inside⟩

/-- No piece of a split text holds a character at which the text is split. -/
theorem eq_false_of_mem_splitOnP {p : Char → Bool} {cs piece : List Char}
    (member : piece ∈ cs.splitOnP p) : ∀ c ∈ piece, p c = false := by
  induction cs generalizing piece with
  | nil =>
      rw [List.splitOnP_nil, List.mem_singleton] at member
      simp [member]
  | cons d cs ih =>
      rw [List.splitOnP_cons_eq_if_modifyHead] at member
      split at member
      · rcases List.mem_cons.mp member with rfl | later
        · simp
        · exact ih later
      · next keeps =>
        obtain ⟨first, others, whole⟩ := List.exists_cons_of_ne_nil (List.splitOnP_ne_nil p cs)
        rw [whole, List.modifyHead_cons] at member
        rw [whole] at ih
        rcases List.mem_cons.mp member with rfl | later
        · intro c there
          rcases List.mem_cons.mp there with rfl | there
          · simpa using keeps
          · exact ih List.mem_cons_self c there
        · exact ih (List.mem_cons_of_mem _ later)

/-- **No line of a text has a line feed in it.** -/
theorem newline_notMem_of_mem_lines {cs line : List Char} (member : line ∈ lines cs) :
    '\n' ∉ line := by
  intro feed
  obtain ⟨piece, found, inside⟩ := exists_piece_of_mem_linesOfPieces member
  have differs := eq_false_of_mem_splitOnP found '\n' (inside '\n' feed)
  simp at differs

/-! ## Runs -/

section Runs

variable {α : Type} (like : α → Bool)

/-- A run of like elements, before something else. -/
theorem takeWhile_run {run rest : List α} (inside : ∀ a ∈ run, like a = true)
    (stops : ∀ a ∈ rest.head?, like a = false) : (run ++ rest).takeWhile like = run := by
  have nothing : rest.takeWhile like = [] := by
    cases rest with
    | nil => rfl
    | cons a rest => exact List.takeWhile_cons_of_neg (by simp [stops a rfl])
  rw [List.takeWhile_append_of_pos inside, nothing, List.append_nil]

/-- **It can be seen where a run of like elements ends.** -/
theorem run_append_inj {run other rest more : List α} (inside : ∀ a ∈ run, like a = true)
    (insideToo : ∀ a ∈ other, like a = true) (stops : ∀ a ∈ rest.head?, like a = false)
    (stopsToo : ∀ a ∈ more.head?, like a = false) (same : run ++ rest = other ++ more) :
    run = other ∧ rest = more := by
  have runs : run = other := by
    rw [← takeWhile_run like inside stops, same, takeWhile_run like insideToo stopsToo]
  subst runs
  exact ⟨rfl, List.append_cancel_left same⟩

/-- It can be seen where such a run starts, at the end. -/
theorem append_run_inj {run other rest more : List α} (inside : ∀ a ∈ run, like a = true)
    (insideToo : ∀ a ∈ other, like a = true) (stops : ∀ a ∈ rest.getLast?, like a = false)
    (stopsToo : ∀ a ∈ more.getLast?, like a = false) (same : rest ++ run = more ++ other) :
    rest = more ∧ run = other := by
  have reversed := congrArg List.reverse same
  rw [List.reverse_append, List.reverse_append] at reversed
  obtain ⟨runs, rests⟩ := run_append_inj like
    (fun a member => inside a (List.mem_reverse.mp member))
    (fun a member => insideToo a (List.mem_reverse.mp member))
    (by rwa [List.head?_reverse]) (by rwa [List.head?_reverse]) reversed
  exact ⟨List.reverse_inj.mp rests, List.reverse_inj.mp runs⟩

end Runs

/-! ## Cutting a text -/

/-- The first line of a text with a line feed in it ends there. -/
theorem lines_append_newline {first : List Char} (noFeed : '\n' ∉ first) (rest : List Char) :
    lines (first ++ '\n' :: rest) = dropReturn first :: lines rest := by
  have solid : ∀ c ∈ first, (c == '\n') = false := fun c member =>
    beq_eq_false_iff_ne.mpr fun feed => noFeed (feed ▸ member)
  obtain ⟨next, others, pieces⟩ :=
    List.exists_cons_of_ne_nil (List.splitOnP_ne_nil (· == '\n') rest)
  rw [lines, lines, List.splitOnP_append_cons_of_forall_mem solid '\n' (by simp), pieces]
  rfl

/-- A text without a line feed is one line, or none where it is empty. -/
theorem lines_of_newline_notMem {cs : List Char} (noFeed : '\n' ∉ cs) :
    lines cs = if cs.isEmpty then [] else [cs] := by
  have solid : ∀ c ∈ cs, (c == '\n') = false := fun c member =>
    beq_eq_false_iff_ne.mpr fun feed => noFeed (feed ▸ member)
  rw [lines, List.splitOnP_eq_singleton solid]
  rfl

/-- **A text can be cut after any of its lines.** -/
theorem exists_cut {cs : List Char} {before after : List (List Char)}
    (whole : lines cs = before ++ after) :
    ∃ cut rest, cs = cut ++ rest ∧ lines cut = before ∧ lines rest = after := by
  induction before generalizing cs with
  | nil => exact ⟨[], cs, rfl, rfl, whole⟩
  | cons line before ih =>
      by_cases feed : '\n' ∈ cs
      · obtain ⟨first, later, rfl, noFeed⟩ := List.eq_append_cons_of_mem feed
        rw [lines_append_newline noFeed, List.cons_append] at whole
        obtain ⟨rfl, wholeLater⟩ := List.cons.inj whole
        obtain ⟨cut, rest, rfl, own, others⟩ := ih wholeLater
        refine ⟨first ++ '\n' :: cut, rest, by simp, ?_, others⟩
        rw [lines_append_newline noFeed, own]
      · have single := lines_of_newline_notMem feed
        rw [whole] at single
        split at single
        · cases single
        · obtain ⟨rfl, none⟩ := List.cons.inj single
          obtain ⟨rfl, rfl⟩ := List.append_eq_nil_iff.mp none
          exact ⟨line, [], (List.append_nil line).symm, whole, rfl⟩

end BlockScript.Text
