import StyleTypings.Diff.Hunk
import StyleTypings.Proofs.Diff.Scripts

/-!
# Hunks as a patch

The two lists of a script are tiled by its hunks and by gaps that are the same in both. This is
kept line by line as the hunks are put together, and it says all that is needed of them: where
each hunk stands in either list, that they stand there in order with a line between each two of
them, that the lists agree outside of them, and that applying them to either list gives the
other. It holds for every script and for every number of kept lines around a change; how many
of these are shown is not said here.
-/

namespace StyleTypings.Diff

variable {α : Type} {context since i j : Nat} {step : Step α} {steps : List (Step α)}
  {first second third hunk : Hunk α} {parts : List (Hunk α)} {old new : List α}

/-- From line `i` of the old list and line `j` of the new one on, the lists agree outside the
hunks, and each hunk has the lines that stand at its place in either list. -/
inductive AgreeOutside : Nat → Nat → List (Hunk α) → List α → List α → Prop
  /-- Behind the last hunk the lists are the same. -/
  | rest (i j : Nat) (lines : List α) : AgreeOutside i j [] lines lines
  /-- In front of a hunk the lists have the same lines. -/
  | hunk {i j : Nat} {hunk : Hunk α} {hunks : List (Hunk α)} {old new : List α} (gap : List α)
      (hold : hunk.oldStart = i + gap.length) (hnew : hunk.newStart = j + gap.length)
      (hrest : AgreeOutside (hunk.oldStart + hunk.oldLength) (hunk.newStart + hunk.newLength)
        hunks old new) :
      AgreeOutside i j (hunk :: hunks) (gap ++ (oldLines hunk.steps ++ old))
        (gap ++ (newLines hunk.steps ++ new))

/-- A hunk ends in both lists before the other begins, and a line stands between them. -/
def Hunk.Before (first second : Hunk α) : Prop :=
  first.oldStart + first.oldLength < second.oldStart ∧
  first.newStart + first.newLength < second.newStart

theorem Hunk.Before.trans (hf : first.Before second) (hs : second.Before third) :
    first.Before third := by
  obtain ⟨hfo, hfn⟩ := hf
  obtain ⟨hso, hsn⟩ := hs
  constructor <;> omega

/-! ## Putting the hunks together -/

/-- A kept line that is not shown belongs to the gap in front of the next hunk. -/
theorem AgreeOutside.keep (ha : AgreeOutside (i + 1) (j + 1) parts old new) (line : α) :
    AgreeOutside i j parts (line :: old) (line :: new) := by
  cases ha with
  | rest => exact .rest i j _
  | hunk gap hold hnew hrest =>
    refine .hunk (line :: gap) ?_ ?_ hrest
    · rw [hold, List.length_cons]
      omega
    · rw [hnew, List.length_cons]
      omega

/-- A hunk without a gap in front of it. -/
theorem AgreeOutside.shown (ha : AgreeOutside (i + (oldLines steps).length)
      (j + (newLines steps).length) parts old new) :
    AgreeOutside i j (⟨i, j, steps⟩ :: parts) (oldLines steps ++ old) (newLines steps ++ new) :=
  .hunk [] rfl rfl ha

/-- A shown line is a hunk of its own or the first line of the hunk that starts behind it. -/
theorem AgreeOutside.attach
    (ha : AgreeOutside (i + step.old?.toList.length) (j + step.new?.toList.length) parts old new) :
    AgreeOutside i j (Hunk.attach i j step parts) (step.old?.toList ++ old)
      (step.new?.toList ++ new) := by
  have hold : oldLines [step] = step.old?.toList := by
    rw [oldLines_cons]
    exact List.append_nil _
  have hnew : newLines [step] = step.new?.toList := by
    rw [newLines_cons]
    exact List.append_nil _
  have halone : AgreeOutside i j (⟨i, j, [step]⟩ :: parts) (step.old?.toList ++ old)
      (step.new?.toList ++ new) := by
    rw [← hold, ← hnew] at ha ⊢
    exact ha.shown
  cases parts with
  | nil => exact halone
  | cons hunk parts =>
    rw [Hunk.attach]
    split
    · next hnext =>
      cases ha with
      | hunk gap hgo hgn hrest =>
        have hgap : gap = [] := by
          apply List.eq_nil_of_length_eq_zero
          omega
        subst hgap
        rw [List.nil_append, List.nil_append, ← List.append_assoc, ← List.append_assoc,
          ← oldLines_cons, ← newLines_cons]
        apply AgreeOutside.shown
        rw [oldLines_cons, newLines_cons, List.length_append, List.length_append,
          ← Nat.add_assoc, ← Nat.add_assoc, ← hnext.1, ← hnext.2]
        exact hrest
    · exact halone

/-- The hunks of a script tile its two lists. -/
theorem agreeOutside_hunksFrom (context since i j : Nat) (steps : List (Step α)) :
    AgreeOutside i j (hunksFrom context since i j steps) (oldLines steps) (newLines steps) := by
  induction steps generalizing since i j with
  | nil => exact .rest i j []
  | cons step steps ih =>
    have hrest := ih (if step.isChange then 0 else since + 1)
      (i + step.old?.toList.length) (j + step.new?.toList.length)
    rw [hunksFrom, oldLines_cons, newLines_cons]
    split
    · exact hrest.attach
    · next hhidden =>
      cases step with
      | keep line => exact hrest.keep line
      | remove line => exact absurd rfl hhidden
      | add line => exact absurd rfl hhidden

/-- A shown line that is no part of the next hunk ends before that hunk begins. -/
theorem pairwise_attach
    (ha : AgreeOutside (i + step.old?.toList.length) (j + step.new?.toList.length) parts old new)
    (hp : parts.Pairwise Hunk.Before) : (Hunk.attach i j step parts).Pairwise Hunk.Before := by
  cases ha with
  | rest => exact List.pairwise_singleton _ _
  | @hunk _ _ hunk parts old new gap hgo hgn hrest =>
    obtain ⟨hfirst, hothers⟩ := List.pairwise_cons.mp hp
    rw [Hunk.attach]
    split
    · next hnext =>
      refine List.pairwise_cons.mpr ⟨fun later hl => ?_, hothers⟩
      obtain ⟨hlo, hln⟩ := hfirst later hl
      simp only [Hunk.Before, Hunk.oldLength, Hunk.newLength, oldLines_cons, newLines_cons,
        List.length_append] at hlo hln ⊢
      omega
    · next hapart =>
      have hbefore : (⟨i, j, [step]⟩ : Hunk α).Before hunk := by
        simp only [Hunk.Before, Hunk.oldLength, Hunk.newLength, oldLines_cons, newLines_cons,
          List.length_append]
        have hno : (oldLines ([] : List (Step α))).length = 0 := rfl
        have hnn : (newLines ([] : List (Step α))).length = 0 := rfl
        omega
      refine List.pairwise_cons.mpr ⟨fun later hl => ?_, hp⟩
      rcases List.mem_cons.mp hl with rfl | hl
      · exact hbefore
      · exact hbefore.trans (hfirst later hl)

/-- The hunks stand in order, with a line between each two of them. -/
theorem pairwise_hunksFrom (context since i j : Nat) (steps : List (Step α)) :
    (hunksFrom context since i j steps).Pairwise Hunk.Before := by
  induction steps generalizing since i j with
  | nil => exact List.Pairwise.nil
  | cons step steps ih =>
    rw [hunksFrom]
    split
    · exact pairwise_attach (agreeOutside_hunksFrom context _ _ _ steps) (ih _ _ _)
    · exact ih _ _ _

/-- A script without a change has no hunk, if no change stands shortly before it. -/
theorem hunksFrom_unchanged (hs : ∀ step ∈ steps, step.isChange = false)
    (hsince : context ≤ since) : hunksFrom context since i j steps = [] := by
  induction steps generalizing since i j with
  | nil => rfl
  | cons step steps ih =>
    obtain ⟨hstep, hsteps⟩ := List.forall_mem_cons.mp hs
    have hnear : (steps.take context).any Step.isChange = false := by
      rw [List.any_eq_false]
      intro step hm
      rw [hsteps step (List.mem_of_mem_take hm)]
      exact Bool.false_ne_true
    have hfar : ¬since < context := Nat.not_lt.mpr hsince
    rw [hunksFrom]
    simp only [hstep, hnear, hfar, decide_false, Bool.or_false, Bool.false_eq_true, if_false]
    exact ih hsteps (Nat.le_succ_of_le hsince)

/-! ## What the hunks say of the two lists -/

/-- An inverted script has the old lines for the new ones, and the other way round. -/
theorem lines_invert (steps : List (Step α)) :
    oldLines (steps.map Step.invert) = newLines steps ∧
    newLines (steps.map Step.invert) = oldLines steps := by
  induction steps with
  | nil => exact ⟨rfl, rfl⟩
  | cons step steps ih =>
    rw [List.map_cons, oldLines_cons, newLines_cons, oldLines_cons, newLines_cons, ih.1, ih.2]
    cases step <;> exact ⟨rfl, rfl⟩

theorem Hunk.length_invert (hunk : Hunk α) :
    hunk.invert.oldLength = hunk.newLength ∧ hunk.invert.newLength = hunk.oldLength := by
  simp only [Hunk.oldLength, Hunk.newLength, Hunk.invert, (lines_invert hunk.steps).1,
    (lines_invert hunk.steps).2, and_self]

/-- The inverted hunks tile the two lists the other way round. -/
theorem AgreeOutside.invert (ha : AgreeOutside i j parts old new) :
    AgreeOutside j i (parts.map Hunk.invert) new old := by
  induction ha with
  | rest i j lines => exact .rest j i lines
  | @hunk i j hunk parts old new gap hold hnew hrest ih =>
    obtain ⟨hio, hin⟩ := lines_invert hunk.steps
    obtain ⟨hlo, hln⟩ := hunk.length_invert
    rw [List.map_cons, ← hio, ← hin]
    refine .hunk gap hnew hold ?_
    rw [hlo, hln]
    exact ih

/-- Applying the hunks to the old list gives the new one. -/
theorem AgreeOutside.applyFrom_eq (ha : AgreeOutside i j parts old new) :
    applyFrom i parts old = new := by
  induction ha with
  | rest i j lines => rfl
  | @hunk i j hunk parts old new gap hold hnew hrest ih =>
    have hgap : hunk.oldStart - i = gap.length := by omega
    have hdrop :
        (gap ++ (oldLines hunk.steps ++ old)).drop (gap.length + hunk.oldLength) = old := by
      rw [List.drop_length_add_append, Hunk.oldLength, List.drop_left]
    rw [applyFrom, hgap, List.take_left, hdrop, ih, List.append_assoc]

/-- Each hunk stands at its place in the old list. -/
theorem AgreeOutside.exists_place (ha : AgreeOutside i j parts old new) (hm : hunk ∈ parts) :
    ∃ lead tail, old = lead ++ (oldLines hunk.steps ++ tail) ∧
      hunk.oldStart = i + lead.length := by
  induction ha with
  | rest => exact absurd hm List.not_mem_nil
  | @hunk i j head parts old new gap hold hnew hrest ih =>
    rcases List.mem_cons.mp hm with rfl | hm
    · exact ⟨gap, old, rfl, hold⟩
    · obtain ⟨lead, tail, rfl, hstart⟩ := ih hm
      refine ⟨gap ++ (oldLines head.steps ++ lead), tail, ?_, ?_⟩
      · simp only [List.append_assoc]
      · rw [hstart, hold, Hunk.oldLength, List.length_append, List.length_append]
        omega

/-- The lines that a hunk has in the old list are those of its range, which lies within it. -/
theorem AgreeOutside.oldLines_eq (ha : AgreeOutside 0 0 parts old new) (hm : hunk ∈ parts) :
    oldLines hunk.steps = (old.drop hunk.oldStart).take hunk.oldLength ∧
      hunk.oldStart + hunk.oldLength ≤ old.length := by
  obtain ⟨lead, tail, rfl, hstart⟩ := ha.exists_place hm
  rw [hstart, Nat.zero_add, Hunk.oldLength, List.drop_left, List.take_left, List.length_append,
    List.length_append]
  exact ⟨rfl, by omega⟩

/-- The same is true of the new list. -/
theorem AgreeOutside.newLines_eq (ha : AgreeOutside 0 0 parts old new) (hm : hunk ∈ parts) :
    newLines hunk.steps = (new.drop hunk.newStart).take hunk.newLength ∧
      hunk.newStart + hunk.newLength ≤ new.length := by
  have hplace := ha.invert.oldLines_eq (List.mem_map_of_mem hm)
  rw [hunk.length_invert.1, Hunk.invert, (lines_invert hunk.steps).1] at hplace
  exact hplace

/-! ## The hunks of the script of two lists -/

variable [DecidableEq α]

/-- Outside of the hunks of a script the texts agree. -/
theorem agreeOutside_hunks (context : Nat) (old new : List α) :
    AgreeOutside 0 0 (hunks context (script old new)) old new := by
  have ha := agreeOutside_hunksFrom context context 0 0 (script old new)
  rw [oldLines_script, newLines_script] at ha
  exact ha

/-- There is no hunk exactly if the lists are the same. -/
theorem hunks_eq_nil_iff {context : Nat} : hunks context (script old new) = [] ↔ old = new := by
  constructor
  · intro hn
    have ha := agreeOutside_hunks context old new
    rw [hn] at ha
    cases ha
    rfl
  · intro he
    exact hunksFrom_unchanged (script_unchanged_iff.mpr he) (Nat.le_refl context)

end StyleTypings.Diff
