import StyleTypings.Proofs.Diff.Hunks
import StyleTypings.Proofs.Diff.Printed
import StyleTypings.Proofs.Reconcile.Readings

/-!
# The diff of a declaration that is out of date

The lines of a diff are a patch: what can be read off them turns the existing lines into the
expected ones, and in the opposite direction the expected ones into the existing ones. There is
no diff exactly if the lines of the two texts are the same, so a declaration that is reported
as out of date comes with a diff that says something. Lines are those of texts in which carriage
returns before line feeds were dropped.
-/

namespace StyleTypings

namespace Diff

variable {label existing expected : Text}

/-- The hunk says of two lists what is true of them: its header states its ranges, which lie
within the lists, its kept and removed lines are those of the range in the old list, and its
kept and added lines are those of the range in the new one. -/
structure Hunk.Faithful (hunk : Hunk Text) (old new : List Text) : Prop where
  /-- The ranges can be read off the header. -/
  header : readHeader (hunkHeader hunk) =
    some ((hunk.oldStart, hunk.oldLength), (hunk.newStart, hunk.newLength))
  /-- The range in the old list lies within it. -/
  withinOld : hunk.oldStart + hunk.oldLength ≤ old.length
  /-- The range in the new list lies within it. -/
  withinNew : hunk.newStart + hunk.newLength ≤ new.length
  /-- The kept and the removed lines. -/
  removed : oldLines hunk.steps = (old.drop hunk.oldStart).take hunk.oldLength
  /-- The kept and the added lines. -/
  added : newLines hunk.steps = (new.drop hunk.newStart).take hunk.newLength

theorem AgreeOutside.faithful {old new : List Text} {hunks : List (Hunk Text)} {hunk : Hunk Text}
    (ha : AgreeOutside 0 0 hunks old new) (hm : hunk ∈ hunks) : hunk.Faithful old new := by
  obtain ⟨hremoved, hwithinOld⟩ := ha.oldLines_eq hm
  obtain ⟨hadded, hwithinNew⟩ := ha.newLines_eq hm
  exact ⟨readHeader_hunkHeader hunk, hwithinOld, hwithinNew, hremoved, hadded⟩

/-- There are no hunks exactly if the compared lines are the same. -/
theorem textHunks_eq_nil_iff :
    textHunks existing expected = [] ↔ comparedLines existing = comparedLines expected :=
  hunks_eq_nil_iff

theorem unifiedLines_of_eq (label : Text)
    (he : comparedLines existing = comparedLines expected) :
    unifiedLines label existing expected = [] := by
  rw [unifiedLines, textHunks_eq_nil_iff.mpr he]

/-- The lines of a diff are two headers and the lines of its hunks. -/
theorem unifiedLines_of_ne (label : Text)
    (hn : comparedLines existing ≠ comparedLines expected) :
    unifiedLines label existing expected = oldHeader label :: newHeader label ::
      (textHunks existing expected).flatMap hunkLines := by
  have hhunks : textHunks existing expected ≠ [] := mt textHunks_eq_nil_iff.mp hn
  rw [unifiedLines]
  split
  · next hnil => exact absurd hnil hhunks
  · next hcons => rw [hcons]

/-- The hunks of a diff can be read off its lines. -/
theorem readHunks_unifiedLines (label existing expected : Text) :
    readHunks ((unifiedLines label existing expected).drop 2) = textHunks existing expected := by
  by_cases he : comparedLines existing = comparedLines expected
  · rw [unifiedLines_of_eq label he, textHunks_eq_nil_iff.mpr he]
    rfl
  · rw [unifiedLines_of_ne label he, List.drop_succ_cons, List.drop_succ_cons, List.drop_zero,
      readHunks, readParts_flatMap_hunkLines]

theorem oldHeader_ne_nil (label : Text) : oldHeader label ≠ [] := by
  have hs : "--- ".toText = ['-', '-', '-', ' '] := String.toText_ofList
  delta oldHeader
  rw [hs]
  exact List.cons_ne_nil _ _

/-- A diff is empty exactly if the lines of the two texts are the same. -/
theorem unified_eq_nil_iff {actual : Option Text} : unified label actual expected = [] ↔
    comparedLines (actual.getD []) = comparedLines expected := by
  by_cases he : comparedLines (actual.getD []) = comparedLines expected
  · rw [unified, unifiedLines_of_eq label he]
    exact iff_of_true rfl he
  · rw [unified, unifiedLines_of_ne label he, List.flatten_cons, List.append_eq_nil_iff]
    exact iff_of_false (fun hn => oldHeader_ne_nil label hn.1) he

/-- Texts with the same lines are the same but for their line ends. -/
theorem comparedLines_eq_iff : comparedLines existing = comparedLines expected ↔
    Text.crlfToLf existing = Text.crlfToLf expected := by
  constructor
  · intro he
    rw [← Text.flatten_lines (Text.crlfToLf existing),
      ← Text.flatten_lines (Text.crlfToLf expected)]
    exact congrArg List.flatten he
  · exact congrArg Text.lines

end Diff

open Diff

/-- A report of a declaration that is out of date shows a difference. -/
theorem diff_of_outdated_ne_nil {disk : Disk} {request : Request} {path : Path} {diff : Text}
    (hr : (reconcile disk request).result = .error (.declarationOutdated path diff)) :
    diff ≠ [] := by
  rcases reconcile_eq_error_iff.mp hr with hp | ⟨plan, hp, hf⟩
  · rcases Request.cause_of_plan_error hp with ⟨_, hc⟩ | ⟨_, hc⟩ | ⟨_, hc⟩ <;> cases hc
  · cases hm : plan.mode with
    | emit =>
      rw [Plan.carryOut_of_emit hm] at hf
      rcases Plan.cause_of_emit_error hf with (⟨_, _, hc⟩ | ⟨_, -, hc⟩) | ⟨_, hc⟩ <;> cases hc
    | verify =>
      rw [Plan.carryOut_of_verify hm] at hf
      obtain ⟨existing, -, hd, -, rfl⟩ := Plan.verify_outdated_iff.mp hf
      rw [ne_eq, unified_eq_nil_iff, comparedLines_eq_iff]
      exact hd

/-- The diff of an existing text, which may be absent, and an expected one is a patch. It is empty
exactly if the lines of the two texts are the same; else its lines are two headers and those of
the hunks that can be read off them. The hunks stand in order and apart, each is faithful to the
two lists of lines, and outside of them the lists agree. Applied to the existing lines the hunks
give the expected ones, and inverted they lead back. A declaration is never reported as out of
date with an empty diff. -/
theorem unified_is_patch (label : Text) (actual : Option Text) (expected : Text) :
    let old := comparedLines (actual.getD [])
    let new := comparedLines expected
    let lines := unifiedLines label (actual.getD []) expected
    let hunks := readHunks (lines.drop 2)
    unified label actual expected = lines.flatten ∧
    (unified label actual expected = [] ↔ old = new) ∧
    (old ≠ new → lines = oldHeader label :: newHeader label :: hunks.flatMap hunkLines ∧
      hunks ≠ []) ∧
    hunks.Pairwise Hunk.Before ∧
    (∀ hunk ∈ hunks, hunk.Faithful old new) ∧
    AgreeOutside 0 0 hunks old new ∧
    applyHunks hunks old = new ∧
    applyHunks (hunks.map Hunk.invert) new = old ∧
    ∀ (disk : Disk) (request : Request) (path : Path) (diff : Text),
      (reconcile disk request).result = .error (.declarationOutdated path diff) → diff ≠ [] := by
  intro old new lines hunks
  have hread : hunks = textHunks (actual.getD []) expected := readHunks_unifiedLines _ _ _
  have hagree : AgreeOutside 0 0 hunks old new := by
    rw [hread]
    exact agreeOutside_hunks context old new
  have hlines : old ≠ new →
      lines = oldHeader label :: newHeader label :: hunks.flatMap hunkLines ∧ hunks ≠ [] := by
    intro hn
    rw [hread]
    exact ⟨unifiedLines_of_ne label hn, mt textHunks_eq_nil_iff.mp hn⟩
  have hordered : hunks.Pairwise Hunk.Before := by
    rw [hread]
    exact pairwise_hunksFrom context context 0 0 (script old new)
  refine ⟨rfl, unified_eq_nil_iff, hlines, hordered, fun hunk hm => hagree.faithful hm, hagree,
    hagree.applyFrom_eq, hagree.invert.applyFrom_eq, ?_⟩
  intro disk request path diff hr
  exact diff_of_outdated_ne_nil hr

/-- A line end of two characters is looked through, and a missing one is not; a declaration
without a character is reported with a diff. -/
theorem unified_is_patch_missingBreak :
    let actual : Text := ['a', '\r', '\n', 'b']
    let expected : Text := ['a', '\n', 'b', '\n']
    let lines := unifiedLines [] actual expected
    let disk : Disk := ⟨[], [(.ofNames ["a.d.ts".toText], .file [])]⟩
    let request : Request :=
      { content := [], resource := ['a'], strategies := [.fixed [] true []],
        options := ⟨Mode.verify.text, false⟩ }
    comparedLines actual ≠ comparedLines expected ∧
      applyHunks (readHunks (lines.drop 2)) [['a', '\n'], ['b']] =
        ([['a', '\n'], ['b', '\n']] : List Text) ∧
      ∃ path diff, (reconcile disk request).result = .error (.declarationOutdated path diff) ∧
        diff ≠ [] := by
  intro actual expected lines disk request
  have hne : comparedLines actual ≠ comparedLines expected := by decide
  obtain ⟨-, -, -, -, -, -, happly, -, hreport⟩ := unified_is_patch [] (some actual) expected
  have hr : (reconcile disk request).result = .error (.declarationOutdated
      ⟨.working, ["a.d.ts".toText]⟩
      (unified "a.d.ts".toText (some []) (Declaration.render [] false))) := rfl
  exact ⟨hne, happly, _, _, hr, hreport disk request _ _ hr⟩

end StyleTypings
