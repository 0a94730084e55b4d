import StyleTypings.Proofs.Diff.CommonRuns

/-!
# Scripts read back

A script gives back the two lists that it was made from, whichever lines may start a run. It
changes a line exactly if the lists differ: a script without a change keeps every line, and the
script of two equal lists keeps the whole of them.
-/

namespace StyleTypings.Diff

variable {α : Type} {steps : List (Step α)} {old new lines : List α}

theorem oldLines_append (first second : List (Step α)) :
    oldLines (first ++ second) = oldLines first ++ oldLines second := List.filterMap_append

theorem newLines_append (first second : List (Step α)) :
    newLines (first ++ second) = newLines first ++ newLines second := List.filterMap_append

/-- The first step decides the first line of the old text, if it has one. -/
theorem oldLines_cons (step : Step α) (steps : List (Step α)) :
    oldLines (step :: steps) = step.old?.toList ++ oldLines steps := by
  cases step <;> rfl

/-- The first step decides the first line of the new text, if it has one. -/
theorem newLines_cons (step : Step α) (steps : List (Step α)) :
    newLines (step :: steps) = step.new?.toList ++ newLines steps := by
  cases step <;> rfl

/-- Kept lines stand in both lists. -/
theorem lines_keep (lines : List α) :
    oldLines (lines.map .keep) = lines ∧ newLines (lines.map .keep) = lines := by
  induction lines with
  | nil => exact ⟨rfl, rfl⟩
  | cons line lines ih =>
    rw [List.map_cons, oldLines_cons, newLines_cons, ih.1, ih.2]
    exact ⟨rfl, rfl⟩

/-- Removed lines are lines of the old text only. -/
theorem lines_remove (lines : List α) :
    oldLines (lines.map .remove) = lines ∧ newLines (lines.map .remove) = [] := by
  induction lines with
  | nil => exact ⟨rfl, rfl⟩
  | cons line lines ih =>
    rw [List.map_cons, oldLines_cons, newLines_cons, ih.1, ih.2]
    exact ⟨rfl, rfl⟩

/-- Added lines are lines of the new text only. -/
theorem lines_add (lines : List α) :
    oldLines (lines.map .add) = [] ∧ newLines (lines.map .add) = lines := by
  induction lines with
  | nil => exact ⟨rfl, rfl⟩
  | cons line lines ih =>
    rw [List.map_cons, oldLines_cons, newLines_cons, ih.1, ih.2]
    exact ⟨rfl, rfl⟩

/-- A script without a change has the same list on both sides. -/
theorem lines_eq_of_unchanged (hs : ∀ step ∈ steps, step.isChange = false) :
    oldLines steps = newLines steps := by
  induction steps with
  | nil => rfl
  | cons step steps ih =>
    obtain ⟨hstep, hsteps⟩ := List.forall_mem_cons.mp hs
    rw [oldLines_cons, newLines_cons, ih hsteps]
    cases step with
    | keep line => rfl
    | remove line => cases hstep
    | add line => cases hstep

/-- A list is put together from what stands before a run, the run, and what stands behind it. -/
theorem cut_at_run (lines : List α) (start size : Nat) :
    lines.take start ++ ((lines.drop start).take size ++ lines.drop (start + size)) = lines := by
  rw [← List.drop_drop, List.take_append_drop, List.take_append_drop]

variable [DecidableEq α]

/-- Both lists of a script are those that it was made from. -/
theorem lines_scriptWith (usable : α → Bool) (old new : List α) :
    oldLines (scriptWith usable old new) = old ∧ newLines (scriptWith usable old new) = new := by
  induction old, new using scriptWith.induct usable with
  | case1 old new run hempty =>
    rw [scriptWith, dif_pos hempty, oldLines_append, newLines_append, (lines_remove old).1,
      (lines_remove old).2, (lines_add new).1, (lines_add new).2]
    exact ⟨List.append_nil old, rfl⟩
  | case2 old new run hsome ihbefore ihbehind =>
    have hsame : (old.drop run.old).take run.size = (new.drop run.new).take run.size :=
      (longestRun_standsIn usable old new).slices_eq
    have hkeep := lines_keep ((old.drop run.old).take run.size)
    rw [scriptWith, dif_neg hsome, oldLines_append, newLines_append, oldLines_append,
      newLines_append, ihbefore.1, ihbefore.2, ihbehind.1, ihbehind.2, hkeep.1, hkeep.2,
      List.append_assoc, List.append_assoc]
    constructor
    · exact cut_at_run old run.old run.size
    · rw [hsame]
      exact cut_at_run new run.new run.size

/-- The script starts from the old lines. -/
theorem oldLines_script (old new : List α) : oldLines (script old new) = old :=
  (lines_scriptWith _ old new).1

/-- The script leads to the new lines. -/
theorem newLines_script (old new : List α) : newLines (script old new) = new :=
  (lines_scriptWith _ old new).2

/-- The script of lists that have no line in common removes the old one and then adds the new
one. -/
theorem script_of_disjoint {old new : List α} (h : ∀ line ∈ old, line ∉ new) :
    script old new = old.map .remove ++ new.map .add := by
  obtain ⟨oldLead, newLead, common, oldTail, newTail, ho, hn, hr⟩ :=
    longestRun_standsIn (fun line => !(frequentLines new).contains line) old new
  have hnone : common = [] := by
    refine List.eq_nil_iff_forall_not_mem.mpr fun line hl => ?_
    have hold : line ∈ old := ho ▸ List.mem_append_right _ (List.mem_append_left _ hl)
    have hnew : line ∈ new := hn ▸ List.mem_append_right _ (List.mem_append_left _ hl)
    exact h line hold hnew
  rw [script, scriptWith, dif_pos]
  rw [hr, hnone, List.length_nil]

/-- The script of two equal lists keeps every line, even if none of them may start a run. -/
theorem scriptWith_self (usable : α → Bool) (lines : List α) :
    scriptWith usable lines lines = lines.map .keep := by
  have hnil : scriptWith usable ([] : List α) [] = [] := by
    rw [scriptWith, longestRun_self]
    rfl
  cases lines with
  | nil => exact hnil
  | cons line lines =>
    have hsize : ¬(line :: lines).length = 0 := Nat.succ_ne_zero _
    rw [scriptWith, longestRun_self, dif_neg hsize]
    simp only [List.take_zero, List.drop_zero, List.take_length, Nat.zero_add, List.drop_length,
      hnil, List.nil_append, List.append_nil]

/-- A script changes no line exactly if its two lists are the same. -/
theorem script_unchanged_iff :
    (∀ step ∈ script old new, step.isChange = false) ↔ old = new := by
  constructor
  · intro hs
    have hlines := lines_eq_of_unchanged hs
    rw [oldLines_script, newLines_script] at hlines
    exact hlines
  · rintro rfl step hstep
    rw [script, scriptWith_self] at hstep
    obtain ⟨line, -, rfl⟩ := List.mem_map.mp hstep
    rfl

end StyleTypings.Diff
