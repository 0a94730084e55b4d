import StyleTypings.Text.Basic

/-!
# Line ends and lines

Three views of line ends. `crlfToLf` shortens each carriage return that stands before a line
feed; comparison of declaration texts looks through it. `universalNewlines` turns every line
end of the three common kinds into a line feed, as a file opened for reading text does.
`lines` cuts text after each line-breaking character and keeps the break with its line, so
joining the lines gives the text back.
-/

namespace StyleTypings

namespace Text

/-- Each carriage return before a line feed is dropped; all else stays. -/
def crlfToLf : Text → Text
  | [] => []
  | '\r' :: '\n' :: text => '\n' :: crlfToLf text
  | c :: text => c :: crlfToLf text

/-- Every line end, written `\r\n`, `\r` or `\n`, becomes a line feed. -/
def universalNewlines : Text → Text
  | [] => []
  | '\r' :: '\n' :: text => '\n' :: universalNewlines text
  | '\r' :: text => '\n' :: universalNewlines text
  | c :: text => c :: universalNewlines text

/-- Whether two texts that may be absent are the same but for carriage returns before line
feeds. An absent text equals only an absent one. -/
def same (first second : Option Text) : Bool := first.map crlfToLf == second.map crlfToLf

/-- Whether a line ends after this character. -/
def breaksLine (c : CodePoint) : Bool :=
  let n := c.toNat
  (0x0A ≤ n && n ≤ 0x0D) || (0x1C ≤ n && n ≤ 0x1E) || n == 0x85 || n == 0x2028 || n == 0x2029

/-- The lines of the text, each with its break. A carriage return and the line feed after it
are one break, and there is no empty last line. -/
def lines : Text → List Text
  | [] => []
  | c :: text =>
    if breaksLine c && !(c == '\r' && text.head? == some (.char '\n')) then [c] :: lines text
    else match lines text with
      | [] => [[c]]
      | line :: rest => (c :: line) :: rest

/-- Cutting into lines loses nothing. -/
theorem flatten_lines (text : Text) : (lines text).flatten = text := by
  induction text with
  | nil => rfl
  | cons c text ih =>
    unfold lines
    split
    · simp [ih]
    · split
      · next h => rw [h] at ih; simp_all
      · next h => rw [h] at ih; simp_all

/-- No line is empty. -/
theorem ne_nil_of_mem_lines {text line : Text} (h : line ∈ lines text) : line ≠ [] := by
  induction text generalizing line with
  | nil => simp [lines] at h
  | cons c text ih =>
    unfold lines at h
    split at h
    · rcases List.mem_cons.1 h with rfl | h
      · simp
      · exact ih h
    · split at h
      · simp at h; simp [h]
      · next hl =>
        rcases List.mem_cons.1 h with rfl | h
        · simp
        · exact ih (by rw [hl]; exact List.mem_cons_of_mem _ h)

end Text

end StyleTypings
