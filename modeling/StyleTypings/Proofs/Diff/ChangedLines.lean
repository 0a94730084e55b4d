import StyleTypings.Proofs.Diff.CommonOrder
import StyleTypings.Proofs.Diff.Printed
import StyleTypings.Proofs.Text.WholeLines

/-!
# Changed lines as a diff shows them

The hunks of a script leave out kept lines only, so they show every change once and in order. A
reader of the diff finds the changes by their marks: a line with one mark in front is a changed
line, and a line with more of them is taken for a header. This finds all changes in the text of a
diff if its lines are whole ones and no changed line begins so that it looks like a header.
-/

namespace StyleTypings.Diff

/-! ## Hunks -/

section

variable {α : Type}

/-- A step attached to the hunks stands in front of theirs. -/
theorem steps_attach (old new : Nat) (step : Step α) (parts : List (Hunk α)) :
    (Hunk.attach old new step parts).flatMap Hunk.steps = step :: parts.flatMap Hunk.steps := by
  cases parts with
  | nil => rfl
  | cons hunk parts =>
    rw [Hunk.attach]
    split
    · rfl
    · rfl

/-- The hunks show lines of the script only, in its order. -/
theorem shown_sublist (context since old new : Nat) (steps : List (Step α)) :
    ((hunksFrom context since old new steps).flatMap Hunk.steps).Sublist steps := by
  induction steps generalizing since old new with
  | nil => exact List.Sublist.refl []
  | cons step steps ih =>
    rw [hunksFrom]
    split
    · rw [steps_attach]
      exact (ih _ _ _).cons_cons step
    · exact (ih _ _ _).cons step

/-- The hunks show all changes of the script. -/
theorem changes_hunksFrom (context since old new : Nat) (steps : List (Step α)) :
    ((hunksFrom context since old new steps).flatMap Hunk.steps).filter Step.isChange =
      steps.filter Step.isChange := by
  induction steps generalizing since old new with
  | nil => rfl
  | cons step steps ih =>
    rw [hunksFrom]
    split
    · rw [steps_attach, List.filter_cons, List.filter_cons, ih]
    · next hhidden =>
      have hkept : ¬step.isChange = true := by
        intro hc
        rw [hc, Bool.true_or, Bool.true_or] at hhidden
        exact hhidden rfl
      rw [ih, List.filter_cons, if_neg hkept]

/-- Kept lines do not matter for what is removed and what is added. -/
theorem changedLines_filter (steps : List (Step α)) :
    removedLines (steps.filter Step.isChange) = removedLines steps ∧
      addedLines (steps.filter Step.isChange) = addedLines steps := by
  simp only [removedLines, addedLines, List.filterMap_filter]
  constructor
  · refine List.filterMap_congr fun step _ => ?_
    cases step <;> rfl
  · refine List.filterMap_congr fun step _ => ?_
    cases step <;> rfl

/-- The hunks remove and add what the script removes and adds. -/
theorem changedLines_hunks (context : Nat) (steps : List (Step α)) :
    removedLines ((hunks context steps).flatMap Hunk.steps) = removedLines steps ∧
      addedLines ((hunks context steps).flatMap Hunk.steps) = addedLines steps := by
  rw [← (changedLines_filter (List.flatMap Hunk.steps _)).1,
    ← (changedLines_filter (List.flatMap Hunk.steps _)).2, hunks, changes_hunksFrom]
  exact changedLines_filter steps

end

/-! ## Marks -/

/-- The line behind a mark, unless there are two more marks: such a line is a header. -/
def marked? (mark : CodePoint) : Text → Option Text
  | [] => none
  | c :: line => if c = mark ∧ ¬[mark, mark] <+: line then some line else none

/-- The changed lines with this mark, as they are found in the text of a diff. -/
def markedLines (mark : CodePoint) (diff : Text) : List Text :=
  (Text.lines diff).filterMap (marked? mark)

/-- Behind a mark the line cannot be taken for a header. -/
def PlainStart (line : Text) : Prop := ¬(['-', '-'] : Text) <+: line ∧ ¬(['+', '+'] : Text) <+: line

variable {mark : CodePoint} {step : Step Text} {line label existing expected : Text}
  {parts : List (Hunk Text)} {old new : List Text}

theorem marked?_of_ne {c : CodePoint} (hc : c ≠ mark) (line : Text) :
    marked? mark (c :: line) = none :=
  if_neg fun h => hc h.1

theorem marked?_of_plain (hl : ¬[mark, mark] <+: line) : marked? mark (mark :: line) = some line :=
  if_pos ⟨rfl, hl⟩

/-- The mark of removed lines finds them. -/
theorem marked?_removed (hs : ∀ line, step = .remove line → PlainStart line) :
    marked? '-' (stepText step) = step.removed? := by
  cases step with
  | keep line => exact marked?_of_ne (by decide) line
  | remove line => exact marked?_of_plain (hs line rfl).1
  | add line => exact marked?_of_ne (by decide) line

/-- The mark of added lines finds them. -/
theorem marked?_added (hs : ∀ line, step = .add line → PlainStart line) :
    marked? '+' (stepText step) = step.added? := by
  cases step with
  | keep line => exact marked?_of_ne (by decide) line
  | remove line => exact marked?_of_ne (by decide) line
  | add line => exact marked?_of_plain (hs line rfl).2

/-- Three marks in a row make a header. -/
theorem marked?_thrice (mark : CodePoint) (line : Text) :
    marked? mark (mark :: mark :: mark :: line) = none :=
  if_neg fun h => h.2 (List.prefix_append [mark, mark] line)

/-- Neither mark finds a header. -/
theorem marked?_headers (hm : mark = '-' ∨ mark = '+') (label : Text) (hunk : Hunk Text) :
    marked? mark (oldHeader label) = none ∧ marked? mark (newHeader label) = none ∧
      marked? mark (hunkHeader hunk) = none := by
  have ho : "--- ".toText = ['-', '-', '-', ' '] := String.toText_ofList
  have hn : "+++ ".toText = ['+', '+', '+', ' '] := String.toText_ofList
  delta oldHeader newHeader
  rw [hunkHeader_eq_words, ho, hn]
  rcases hm with rfl | rfl
  · exact ⟨marked?_thrice '-' _, marked?_of_ne (by decide) _, marked?_of_ne (by decide) _⟩
  · exact ⟨marked?_of_ne (by decide) _, marked?_thrice '+' _, marked?_of_ne (by decide) _⟩

/-- What a mark finds in the lines of hunks is what it finds in their steps. -/
theorem marked_hunkLines (hm : mark = '-' ∨ mark = '+') (parts : List (Hunk Text)) :
    (parts.flatMap hunkLines).filterMap (marked? mark) =
      (parts.flatMap Hunk.steps).filterMap (marked? mark ∘ stepText) := by
  induction parts with
  | nil => rfl
  | cons hunk parts ih =>
    obtain ⟨-, -, hheader⟩ := marked?_headers hm [] hunk
    rw [List.flatMap_cons, List.flatMap_cons, List.filterMap_append, List.filterMap_append, ih,
      hunkLines, List.filterMap_cons, hheader, List.filterMap_map]

/-! ## Lines of a diff -/

/-- A digit breaks no line. -/
theorem breaksLine_of_isDigit {c : CodePoint} (hd : c.isDigit = true) :
    Text.breaksLine c = false := by
  cases c with
  | surrogate offset => cases hd
  | char c =>
    obtain ⟨hzero, hnine⟩ := Bool.and_eq_true_iff.mp hd
    have hlow : 48 ≤ (CodePoint.char c).toNat :=
      UInt32.le_iff_toNat_le.mp (of_decide_eq_true hzero)
    have hhigh : (CodePoint.char c).toNat ≤ 57 :=
      UInt32.le_iff_toNat_le.mp (of_decide_eq_true hnine)
    simp only [Text.breaksLine, Bool.or_eq_false_iff, Bool.and_eq_false_iff,
      decide_eq_false_iff_not, beq_eq_false_iff_ne]
    omega

/-- A range is written on a single line. -/
theorem singleLine_rangeText (start length : Nat) : Text.SingleLine (rangeText start length) := by
  have hdigits : ∀ n, Text.SingleLine (Text.ofNat n) := fun n c hc =>
    breaksLine_of_isDigit (isDigit_of_mem_ofNat hc)
  unfold rangeText
  split
  · exact hdigits _
  · split
    · exact Text.singleLine_append_iff.mpr ⟨hdigits _, by decide⟩
    · exact Text.singleLine_append_iff.mpr
        ⟨hdigits _, Text.singleLine_cons_iff.mpr ⟨rfl, hdigits _⟩⟩

/-- The header of a hunk is a whole line. -/
theorem wholeLine_hunkHeader (hunk : Hunk Text) : Text.WholeLine (hunkHeader hunk) := by
  have ho : "@@ -".toText = ['@', '@', ' ', '-'] := String.toText_ofList
  have hm : " +".toText = [' ', '+'] := String.toText_ofList
  have hc : " @@\n".toText = [' ', '@', '@', '\n'] := String.toText_ofList
  have hend : Text.WholeLine [' ', '@', '@', '\n'] := ⟨[' ', '@', '@'], by decide, rfl⟩
  have hnew := hend.append (singleLine_rangeText hunk.newStart hunk.newLength)
  have hold := (hnew.append (by decide : Text.SingleLine [' ', '+'])).append
    (singleLine_rangeText hunk.oldStart hunk.oldLength)
  delta hunkHeader
  rw [ho, hm, hc, List.append_assoc, List.append_assoc, List.append_assoc]
  exact hold.append (by decide : Text.SingleLine ['@', '@', ' ', '-'])

/-- The line is the label between words that break no line, and a line feed. -/
def Frames (label line : Text) : Prop :=
  ∃ front back, Text.SingleLine front ∧ Text.SingleLine back ∧
    line = front ++ label ++ back ++ [.char '\n']

theorem frames_headers (label : Text) :
    Frames label (oldHeader label) ∧ Frames label (newHeader label) := by
  have ho : "--- ".toText = ['-', '-', '-', ' '] := String.toText_ofList
  have hn : "+++ ".toText = ['+', '+', '+', ' '] := String.toText_ofList
  have he : " (existing)\n".toText = _ := String.toText_ofList
  have hx : " (expected)\n".toText = _ := String.toText_ofList
  delta oldHeader newHeader
  rw [ho, hn, he, hx]
  constructor
  · refine ⟨['-', '-', '-', ' '], [' ', '(', 'e', 'x', 'i', 's', 't', 'i', 'n', 'g', ')'],
      by decide, by decide, ?_⟩
    rw [List.append_assoc, List.append_assoc, List.append_assoc]
    rfl
  · refine ⟨['+', '+', '+', ' '], [' ', '(', 'e', 'x', 'p', 'e', 'c', 't', 'e', 'd', ')'],
      by decide, by decide, ?_⟩
    rw [List.append_assoc, List.append_assoc, List.append_assoc]
    rfl

/-- A line that frames the label is whole if the label is a part of a line. -/
theorem Frames.wholeLine (h : Frames label line) (hl : Text.SingleLine label) :
    Text.WholeLine line := by
  obtain ⟨front, back, hf, hb, rfl⟩ := h
  exact ⟨_, Text.singleLine_append_iff.mpr ⟨Text.singleLine_append_iff.mpr ⟨hf, hl⟩, hb⟩, rfl⟩

/-- A line of a diff: one of its two headers, the header of a hunk, or a line of the two lists
behind the mark that says in which of them it stands. -/
inductive EmittedLine (label : Text) (old new : List Text) : Text → Prop where
  /-- The header that names the existing text. -/
  | oldHeader : EmittedLine label old new (oldHeader label)
  /-- The header that names the expected text. -/
  | newHeader : EmittedLine label old new (newHeader label)
  /-- The header of a hunk. -/
  | hunkHeader (hunk : Hunk Text) : EmittedLine label old new (hunkHeader hunk)
  /-- A line that stands in both lists. -/
  | kept {line : Text} (ho : line ∈ old) (hn : line ∈ new) : EmittedLine label old new (' ' :: line)
  /-- A line of the old list. -/
  | removed {line : Text} (ho : line ∈ old) : EmittedLine label old new ('-' :: line)
  /-- A line of the new list. -/
  | added {line : Text} (hn : line ∈ new) : EmittedLine label old new ('+' :: line)

/-- Each step of a script is emitted as a line of its own kind. -/
theorem emittedLine_stepText {steps : List (Step Text)} (hs : step ∈ steps) (label : Text) :
    EmittedLine label (oldLines steps) (newLines steps) (stepText step) := by
  cases step with
  | keep line =>
    exact .kept (List.mem_filterMap.mpr ⟨_, hs, rfl⟩) (List.mem_filterMap.mpr ⟨_, hs, rfl⟩)
  | remove line => exact .removed (List.mem_filterMap.mpr ⟨_, hs, rfl⟩)
  | add line => exact .added (List.mem_filterMap.mpr ⟨_, hs, rfl⟩)

/-- The lines of a diff are headers and lines of the two texts. -/
theorem emittedLine_of_mem (hm : line ∈ unifiedLines label existing expected) :
    EmittedLine label (comparedLines existing) (comparedLines expected) line := by
  have hhunks : ∀ line ∈ (textHunks existing expected).flatMap hunkLines,
      EmittedLine label (comparedLines existing) (comparedLines expected) line := by
    intro line hm
    obtain ⟨hunk, hhunk, hline⟩ := List.mem_flatMap.mp hm
    obtain rfl | hline := List.mem_cons.mp hline
    · exact .hunkHeader hunk
    · obtain ⟨step, hstep, rfl⟩ := List.mem_map.mp hline
      have hscript : step ∈ script (comparedLines existing) (comparedLines expected) :=
        (shown_sublist _ _ _ _ _).subset (List.mem_flatMap.mpr ⟨hunk, hhunk, hstep⟩)
      have hemitted := emittedLine_stepText hscript label
      rw [oldLines_script, newLines_script] at hemitted
      exact hemitted
  rw [unifiedLines] at hm
  split at hm
  · exact absurd hm List.not_mem_nil
  · next hcons =>
    rw [hcons] at hhunks
    obtain rfl | hm := List.mem_cons.mp hm
    · exact .oldHeader
    · obtain rfl | hm := List.mem_cons.mp hm
      · exact .newHeader
      · exact hhunks line hm

/-- All lines of a diff are whole, if those of the two texts are and the label is a part of
one. -/
theorem wholeLine_of_mem_unifiedLines (hl : Text.SingleLine label)
    (ho : ∀ line ∈ comparedLines existing, Text.WholeLine line)
    (hn : ∀ line ∈ comparedLines expected, Text.WholeLine line) :
    ∀ line ∈ unifiedLines label existing expected, Text.WholeLine line := by
  intro line hm
  cases emittedLine_of_mem hm with
  | oldHeader => exact (frames_headers label).1.wholeLine hl
  | newHeader => exact (frames_headers label).2.wholeLine hl
  | hunkHeader hunk => exact wholeLine_hunkHeader hunk
  | kept hold _ => exact (ho _ hold).append (by decide : Text.SingleLine [' '])
  | removed hold => exact (ho _ hold).append (by decide : Text.SingleLine ['-'])
  | added hnew => exact (hn _ hnew).append (by decide : Text.SingleLine ['+'])

/-- What a mark finds in the lines of a diff is what it finds in the steps that are shown. -/
theorem marked_unifiedLines (hm : mark = '-' ∨ mark = '+') (label existing expected : Text) :
    (unifiedLines label existing expected).filterMap (marked? mark) =
      ((textHunks existing expected).flatMap Hunk.steps).filterMap (marked? mark ∘ stepText) := by
  rw [← marked_hunkLines hm, unifiedLines]
  split
  · next hnil =>
    rw [hnil]
    rfl
  · next hunk parts hcons =>
    obtain ⟨hold, hnew, -⟩ := marked?_headers hm label hunk
    rw [hcons, List.filterMap_cons, hold]
    dsimp only
    rw [List.filterMap_cons, hnew]

/-- The changed lines found in the text of a diff are those that the script changes. -/
theorem markedLines_unified (hl : Text.SingleLine label)
    (ho : ∀ line ∈ comparedLines existing, Text.WholeLine line)
    (hn : ∀ line ∈ comparedLines expected, Text.WholeLine line)
    (hremoved : ∀ line ∈ removedLines (script (comparedLines existing) (comparedLines expected)),
      PlainStart line)
    (hadded : ∀ line ∈ addedLines (script (comparedLines existing) (comparedLines expected)),
      PlainStart line) :
    let diff := unified label (some existing) expected
    let steps := script (comparedLines existing) (comparedLines expected)
    markedLines '-' diff = removedLines steps ∧ markedLines '+' diff = addedLines steps := by
  intro diff steps
  have hcut : Text.lines diff = unifiedLines label existing expected :=
    Text.lines_flatten (wholeLine_of_mem_unifiedLines hl ho hn)
  obtain ⟨hallRemoved, hallAdded⟩ := changedLines_hunks context steps
  have hshown : ∀ step ∈ (textHunks existing expected).flatMap Hunk.steps, step ∈ steps :=
    fun step hs => (shown_sublist _ _ _ _ _).subset hs
  rw [markedLines, markedLines, hcut, marked_unifiedLines (Or.inl rfl),
    marked_unifiedLines (Or.inr rfl), ← hallRemoved, ← hallAdded]
  constructor
  · refine List.filterMap_congr fun step hs => marked?_removed fun line he => ?_
    exact hremoved line (List.mem_filterMap.mpr ⟨step, hshown step hs, he ▸ rfl⟩)
  · refine List.filterMap_congr fun step hs => marked?_added fun line he => ?_
    exact hadded line (List.mem_filterMap.mpr ⟨step, hshown step hs, he ▸ rfl⟩)

end StyleTypings.Diff
