import StyleTypings.Proofs.Text.CodePoints
import StyleTypings.Text.Lines

/-!
# Lines and their ends

A text that was put together from lines without a line feed gives these lines back when it is
cut at its line feeds. Shortening line ends changes nothing in such a text, provided that no
line ends in a carriage return of its own.
-/

namespace StyleTypings.Text

variable {line text : Text} {lines first second : List Text}

/-- The lines one after the other, each with a line feed behind it. -/
def unlines (lines : List Text) : Text := lines.flatMap (· ++ [.char '\n'])

theorem unlines_cons (line : Text) (lines : List Text) :
    unlines (line :: lines) = line ++ .char '\n' :: unlines lines := by
  simp only [unlines, List.flatMap_cons, List.append_assoc, List.singleton_append]

theorem unlines_append (first second : List Text) :
    unlines (first ++ second) = unlines first ++ unlines second := List.flatMap_append

theorem plain_unlines_iff : (unlines lines).Plain ↔ ∀ line ∈ lines, line.Plain := by
  induction lines with
  | nil => exact iff_of_true (plain_ofChars []) fun _ hl => nomatch hl
  | cons line lines ih =>
    rw [unlines_cons, plain_append, plain_cons, ih, List.forall_mem_cons]
    exact and_congr_right fun _ => ⟨fun h => h.2, fun h => ⟨rfl, h⟩⟩

/-- A text without the mark in front of a mark is the first piece. -/
theorem splitAtChar_append {mark : CodePoint} {piece : Text} (hp : mark ∉ piece) (text : Text) :
    splitAtChar mark (piece ++ mark :: text) = piece :: splitAtChar mark text := by
  induction piece with
  | nil => rw [List.nil_append, splitAtChar, if_pos rfl]
  | cons c piece ih =>
    rw [List.mem_cons, not_or] at hp
    obtain ⟨hc, hp⟩ := hp
    rw [List.cons_append, splitAtChar, if_neg (Ne.symm hc), ih hp]

/-- A text without the mark is one piece. -/
theorem splitAtChar_of_not_mem {mark : CodePoint} {piece : Text} (hp : mark ∉ piece) :
    splitAtChar mark piece = [piece] := by
  induction piece with
  | nil => rfl
  | cons c piece ih =>
    rw [List.mem_cons, not_or] at hp
    obtain ⟨hc, hp⟩ := hp
    rw [splitAtChar, if_neg (Ne.symm hc), ih hp]

/-- Between the line feeds of lines stand the lines, and nothing behind the last. -/
theorem splitAtChar_unlines (hl : ∀ line ∈ lines, .char '\n' ∉ line) :
    splitAtChar '\n' (unlines lines) = lines ++ [[]] := by
  induction lines with
  | nil => rfl
  | cons line lines ih =>
    obtain ⟨hline, hlines⟩ := List.forall_mem_cons.mp hl
    rw [unlines_cons, splitAtChar_append hline, ih hlines, List.cons_append]

/-- Lines that hold no line feed themselves can be told from their text. -/
theorem unlines_injective (hf : ∀ line ∈ first, .char '\n' ∉ line)
    (hs : ∀ line ∈ second, .char '\n' ∉ line) (he : unlines first = unlines second) :
    first = second := by
  have hp : first ++ [[]] = second ++ [[]] := by
    rw [← splitAtChar_unlines hf, ← splitAtChar_unlines hs, he]
  exact List.append_cancel_right hp

/-- A line in front of a line feed keeps its characters, unless its own end would form a
line end of two characters. -/
theorem crlfToLf_append (hl : .char '\n' ∉ line) (hr : line.getLast? ≠ some (.char '\r'))
    (text : Text) :
    crlfToLf (line ++ .char '\n' :: text) = line ++ .char '\n' :: crlfToLf text := by
  induction line with
  | nil => rfl
  | cons c line ih =>
    rw [List.mem_cons, not_or] at hl
    obtain ⟨-, hl⟩ := hl
    cases line with
    | nil =>
      have hcr : c ≠ '\r' := by
        rintro rfl
        exact hr rfl
      simp [crlfToLf, hcr]
    | cons d line =>
      rw [List.cons_append, List.cons_append, crlfToLf]
      · rw [← List.cons_append, ih hl (by simpa using hr)]
        rfl
      · rintro _ rfl he
        exact hl ((List.cons.inj he).1 ▸ List.mem_cons_self)

/-- Lines without carriage returns at their ends stay as they are. -/
theorem crlfToLf_unlines (hl : ∀ line ∈ lines, .char '\n' ∉ line)
    (hr : ∀ line ∈ lines, line.getLast? ≠ some (.char '\r')) :
    crlfToLf (unlines lines) = unlines lines := by
  induction lines with
  | nil => rfl
  | cons line lines ih =>
    obtain ⟨hline, hlines⟩ := List.forall_mem_cons.mp hl
    obtain ⟨hlast, hrest⟩ := List.forall_mem_cons.mp hr
    rw [unlines_cons, crlfToLf_append hline hlast, ih hlines hrest]

theorem same_iff {first second : Text} :
    same (some first) (some second) = true ↔ crlfToLf first = crlfToLf second := by
  simp only [same, Option.map_some, beq_iff_eq, Option.some.injEq]

/-- Joined lines with a line feed behind them: an empty list still gives one empty line. -/
theorem join_append_lineFeed (lines : List Text) :
    join ['\n'] lines ++ ['\n'] = unlines (if lines = [] then [[]] else lines) := by
  cases lines with
  | nil => rfl
  | cons line lines =>
    rw [if_neg (List.cons_ne_nil _ _)]
    induction lines generalizing line with
    | nil => simp [join, unlines]
    | cons next lines ih =>
      rw [unlines_cons, ← ih next]
      simp [join, List.intercalate_cons_cons]

end StyleTypings.Text
