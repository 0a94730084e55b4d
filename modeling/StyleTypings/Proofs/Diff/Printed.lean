import StyleTypings.Diff.Unified
import StyleTypings.Proofs.Text.LineEnds

/-!
# Reading the lines of a diff

The hunks of a diff can be read off its lines alone: a line with one of three marks in front is
a step of the hunk whose header it stands under, and the header states where the hunk starts and
how many lines it has in either list. Reading gives back the hunks that the lines were made
from, so all that is said of the hunks of a diff is said of its lines. The lines are taken one
by one; that the whole text of a diff can be cut into them again is not said here.
-/

namespace StyleTypings.Diff

/-- The number that decimal digits stand for. -/
def readNumber (digits : Text) : Nat :=
  digits.foldl (fun number digit => 10 * number + (digit.toNat - 48)) 0

/-- The number of lines in front of a range, and the number of its lines, as the text of the
range states them. -/
def readRange (text : Text) : Option (Nat × Nat) :=
  match (Text.splitAtChar ',' text).map readNumber with
  | [first] => some (first - 1, 1)
  | [before, 0] => some (before, 0)
  | [first, length] => some (first - 1, length)
  | _ => none

/-- The ranges in the old and in the new list that a header states. -/
def readHeader (line : Text) : Option ((Nat × Nat) × (Nat × Nat)) :=
  match Text.splitAtChar ' ' line with
  | [['@', '@'], '-' :: old, '+' :: new, ['@', '@', '\n']] =>
    match readRange old, readRange new with
    | some old, some new => some (old, new)
    | _, _ => none
  | _ => none

/-- The step that the mark in front of a line stands for. -/
def readStep : Text → Option (Step Text)
  | ' ' :: line => some (.keep line)
  | '-' :: line => some (.remove line)
  | '+' :: line => some (.add line)
  | _ => none

/-- The steps in front of the first header, and the hunks under the headers. -/
def readParts : List Text → List (Step Text) × List (Hunk Text)
  | [] => ([], [])
  | line :: lines =>
    let parts := readParts lines
    match readStep line, readHeader line with
    | some step, _ => (step :: parts.1, parts.2)
    | none, some (old, new) => ([], ⟨old.1, new.1, parts.1⟩ :: parts.2)
    | none, none => parts

/-- The hunks under the headers. -/
def readHunks (lines : List Text) : List (Hunk Text) := (readParts lines).2

/-! ## Headers -/

/-- A number is written in digits. -/
theorem isDigit_of_mem_ofNat {n : Nat} {c : CodePoint} (hc : c ∈ Text.ofNat n) :
    c.isDigit = true := by
  obtain ⟨digit, hd, rfl⟩ := List.mem_map.mp hc
  exact Nat.isDigit_of_mem_toDigits (by omega) (by omega) hd

theorem not_mem_ofNat {n : Nat} {c : CodePoint} (hc : c.isDigit = false) : c ∉ Text.ofNat n := by
  intro hm
  rw [isDigit_of_mem_ofNat hm] at hc
  cases hc

/-- A number is read back. -/
theorem readNumber_ofNat (n : Nat) : readNumber (Text.ofNat n) = n :=
  List.foldl_map.trans Nat.ofDigitChars_ten_toDigits

/-- The numbers that a range is stated by. -/
theorem numbers_rangeText (start length : Nat) :
    (Text.splitAtChar ',' (rangeText start length)).map readNumber =
      if length = 1 then [start + 1] else if length = 0 then [start, 0]
        else [start + 1, length] := by
  have hcomma : ∀ n, .char ',' ∉ Text.ofNat n := fun n => not_mem_ofNat (by decide)
  unfold rangeText
  split
  · rw [Text.splitAtChar_of_not_mem (hcomma _), List.map_singleton, readNumber_ofNat]
  · split
    · have hcut : Text.splitAtChar ',' (Text.ofNat start ++ [',', '0']) =
          [Text.ofNat start, ['0']] := Text.splitAtChar_append (hcomma start) ['0']
      rw [hcut, List.map_cons, List.map_singleton, readNumber_ofNat]
      rfl
    · rw [Text.splitAtChar_append (hcomma _), Text.splitAtChar_of_not_mem (hcomma _),
        List.map_cons, List.map_singleton, readNumber_ofNat, readNumber_ofNat]

/-- A range is stated so that it can be read back, the empty one and that of one line too. -/
theorem readRange_rangeText (start length : Nat) :
    readRange (rangeText start length) = some (start, length) := by
  rw [readRange, numbers_rangeText]
  match length with
  | 0 => rfl
  | 1 => rfl
  | _ + 2 => rfl

/-- A range has no blank in it. -/
theorem blank_not_mem_rangeText (start length : Nat) : .char ' ' ∉ rangeText start length := by
  have hblank : ∀ n, .char ' ' ∉ Text.ofNat n := fun n => not_mem_ofNat (by decide)
  unfold rangeText
  split
  · exact hblank _
  · split
    · rw [List.mem_append, not_or]
      exact ⟨hblank _, by decide⟩
    · rw [List.mem_append, List.mem_cons, not_or, not_or]
      exact ⟨hblank _, by decide, hblank _⟩

/-- A header is four words: two signs, and a range with its mark for either list. -/
theorem hunkHeader_eq_words (hunk : Hunk Text) :
    hunkHeader hunk = (['@', '@'] : Text) ++
      .char ' ' :: ((.char '-' :: rangeText hunk.oldStart hunk.oldLength) ++
      .char ' ' :: ((.char '+' :: rangeText hunk.newStart hunk.newLength) ++
        .char ' ' :: (['@', '@', '\n'] : Text))) := by
  have ho : "@@ -".toText = ['@', '@', ' ', '-'] := String.toText_ofList
  have hm : " +".toText = [' ', '+'] := String.toText_ofList
  have hc : " @@\n".toText = [' ', '@', '@', '\n'] := String.toText_ofList
  delta hunkHeader
  rw [ho, hm, hc]
  simp only [List.append_assoc, List.cons_append, List.nil_append]

/-- A header states the ranges of its hunk. -/
theorem readHeader_hunkHeader (hunk : Hunk Text) : readHeader (hunkHeader hunk) =
    some ((hunk.oldStart, hunk.oldLength), (hunk.newStart, hunk.newLength)) := by
  have hold := blank_not_mem_rangeText hunk.oldStart hunk.oldLength
  have hnew := blank_not_mem_rangeText hunk.newStart hunk.newLength
  have hwords : Text.splitAtChar ' ' (hunkHeader hunk) =
      ([['@', '@'], .char '-' :: rangeText hunk.oldStart hunk.oldLength,
        .char '+' :: rangeText hunk.newStart hunk.newLength, ['@', '@', '\n']] : List Text) := by
    rw [hunkHeader_eq_words, Text.splitAtChar_append (by decide),
      Text.splitAtChar_append (by simpa using hold),
      Text.splitAtChar_append (by simpa using hnew), Text.splitAtChar_of_not_mem (by decide)]
  simp only [readHeader, hwords, readRange_rangeText]

/-! ## Lines -/

/-- A printed step is read back. -/
theorem readStep_stepText (step : Step Text) : readStep (stepText step) = some step := by
  cases step <;> rfl

/-- The header of a hunk is not read as a step. -/
theorem readStep_hunkHeader (hunk : Hunk Text) : readStep (hunkHeader hunk) = none := by
  rw [hunkHeader_eq_words]
  rfl

/-- Printed steps are read in front of the rest. -/
theorem readParts_steps (steps : List (Step Text)) (lines : List Text) :
    readParts (steps.map stepText ++ lines) =
      (steps ++ (readParts lines).1, (readParts lines).2) := by
  induction steps with
  | nil => rfl
  | cons step steps ih =>
    rw [List.map_cons, List.cons_append, readParts, ih, readStep_stepText]
    rfl

/-- A printed hunk is read in front of the rest. -/
theorem readParts_hunkLines (hunk : Hunk Text) (lines : List Text) :
    readParts (hunkLines hunk ++ lines) =
      ([], ⟨hunk.oldStart, hunk.newStart, hunk.steps ++ (readParts lines).1⟩ ::
        (readParts lines).2) := by
  rw [hunkLines, List.cons_append, readParts, readParts_steps, readStep_hunkHeader,
    readHeader_hunkHeader]

/-- The hunks are read off their lines. -/
theorem readParts_flatMap_hunkLines (hunks : List (Hunk Text)) :
    readParts (hunks.flatMap hunkLines) = ([], hunks) := by
  induction hunks with
  | nil => rfl
  | cons hunk hunks ih =>
    rw [List.flatMap_cons, readParts_hunkLines, ih, List.append_nil]

end StyleTypings.Diff
