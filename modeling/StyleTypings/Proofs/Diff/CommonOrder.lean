import Mathlib.Data.List.Nodup
import StyleTypings.Proofs.Diff.Scripts

/-!
# Lists in a common order

Scripts that take the longest run first are in general not the shortest ones. They are if each
list has every line once and the lines that stand in both lists stand there in the same order:
then a run in common cuts both lists so that no line in front of it in the one stands behind it
in the other, and the same is true of the parts. So what is removed are exactly the lines that
stand in the old list only, and what is added those that stand in the new list only. Lists without
repetitions have no frequent lines, however long they are.
-/

namespace StyleTypings.Diff

variable {α : Type}

/-- The line that a step removes, if it removes one. -/
def Step.removed? : Step α → Option α
  | .remove line => some line
  | _ => none

/-- The line that a step adds, if it adds one. -/
def Step.added? : Step α → Option α
  | .add line => some line
  | _ => none

/-- The lines that a script removes. -/
def removedLines (steps : List (Step α)) : List α := steps.filterMap Step.removed?

/-- The lines that a script adds. -/
def addedLines (steps : List (Step α)) : List α := steps.filterMap Step.added?

/-- What a script removes, part by part. -/
theorem removedLines_append (first second : List (Step α)) :
    removedLines (first ++ second) = removedLines first ++ removedLines second :=
  List.filterMap_append

/-- What a script adds, part by part. -/
theorem addedLines_append (first second : List (Step α)) :
    addedLines (first ++ second) = addedLines first ++ addedLines second :=
  List.filterMap_append

/-- Kept lines are neither removed nor added. -/
theorem changes_keep (lines : List α) :
    removedLines (lines.map .keep) = [] ∧ addedLines (lines.map .keep) = [] := by
  simp only [removedLines, addedLines, List.filterMap_map, List.filterMap_eq_nil_iff]
  exact ⟨fun _ _ => rfl, fun _ _ => rfl⟩

/-- A script that removes lines removes these and adds none. -/
theorem changes_remove (lines : List α) :
    removedLines (lines.map .remove) = lines ∧ addedLines (lines.map .remove) = [] := by
  simp only [removedLines, addedLines, List.filterMap_map, List.filterMap_eq_nil_iff]
  exact ⟨List.filterMap_some, fun _ _ => rfl⟩

/-- A script that adds lines adds these and removes none. -/
theorem changes_add (lines : List α) :
    removedLines (lines.map .add) = [] ∧ addedLines (lines.map .add) = lines := by
  simp only [removedLines, addedLines, List.filterMap_map, List.filterMap_eq_nil_iff]
  exact ⟨fun _ _ => rfl, List.filterMap_some⟩

/-! ## Lists that are put together -/

variable {first later first' later' : List α}

/-- No line of the two first lists stands in one of the two later ones. -/
def Separate (first first' later later' : List α) : Prop :=
  ∀ line ∈ first ++ first', line ∉ later ++ later'

/-- A line of a first list stands in lists that are put together exactly if it stands in the
first of them, and a line of a later list exactly if it stands in the later one. -/
theorem Separate.mem_iff (hs : Separate first first' later later') :
    (∀ line ∈ first, line ∈ first' ++ later' ↔ line ∈ first') ∧
      ∀ line ∈ later, line ∈ first' ++ later' ↔ line ∈ later' := by
  constructor
  · intro line hl
    have hout : line ∉ later' := fun hm =>
      hs line (List.mem_append_left _ hl) (List.mem_append_right _ hm)
    rw [List.mem_append, or_iff_left hout]
  · intro line hl
    have hout : line ∉ first' := fun hm =>
      hs line (List.mem_append_right _ hm) (List.mem_append_left _ hl)
    rw [List.mem_append, or_iff_right hout]

/-- It makes no difference which side is called the old one. -/
theorem Separate.symm (hs : Separate first first' later later') :
    Separate first' first later' later := by
  intro line hl hm
  refine hs line ?_ ?_
  · exact List.mem_append.mpr (List.mem_append.mp hl).symm
  · exact List.mem_append.mpr (List.mem_append.mp hm).symm

variable [DecidableEq α] {usable : α → Bool}
  {old new oldLead newLead common oldTail newTail : List α}

/-- The lines of a list that do not stand in another one. -/
def onlyIn (lines others : List α) : List α := lines.filter (· ∉ others)

theorem mem_onlyIn {line : α} {lines others : List α} :
    line ∈ onlyIn lines others ↔ line ∈ lines ∧ line ∉ others := by
  rw [onlyIn, List.mem_filter, decide_eq_true_iff]

theorem onlyIn_self (lines : List α) : onlyIn lines lines = [] := by
  rw [onlyIn, List.filter_eq_nil_iff]
  exact fun line hl hn => of_decide_eq_true hn hl

/-- Both lists have every line once, and the lines that stand in both stand there in the same
order. -/
structure InCommonOrder (old new : List α) : Prop where
  /-- The old list has every line once. -/
  oldNodup : old.Nodup
  /-- The new list has every line once. -/
  newNodup : new.Nodup
  /-- What they have in common is the same list. -/
  common : old.filter (· ∈ new) = new.filter (· ∈ old)

/-- The common order is the same from both sides. -/
theorem InCommonOrder.symm (h : InCommonOrder old new) : InCommonOrder new old :=
  ⟨h.newNodup, h.oldNodup, h.common.symm⟩

section

variable {β : Type} [DecidableEq β] {f : α → β}

theorem InCommonOrder.refl (h : old.Nodup) : InCommonOrder old old := ⟨h, h, rfl⟩

/-- The lines in common, moved by a map that tells lines apart, are the lines in common of the
images. -/
theorem filter_map_mem (hf : Function.Injective f) (lines others : List α) :
    (lines.map f).filter (· ∈ others.map f) = (lines.filter (· ∈ others)).map f := by
  rw [List.filter_map]
  refine congrArg (List.map f) (List.filter_congr fun line _ => ?_)
  exact decide_eq_decide.mpr (List.mem_map_of_injective hf)

/-- So are the lines on one side only. -/
theorem onlyIn_map (hf : Function.Injective f) (lines others : List α) :
    onlyIn (lines.map f) (others.map f) = (onlyIn lines others).map f := by
  rw [onlyIn, List.filter_map]
  refine congrArg (List.map f) (List.filter_congr fun line _ => ?_)
  exact decide_eq_decide.mpr (not_congr (List.mem_map_of_injective hf))

/-- Images under a function that keeps lines apart stand in a common order if the lines do. -/
theorem InCommonOrder.map (h : InCommonOrder old new) (hf : Function.Injective f) :
    InCommonOrder (old.map f) (new.map f) where
  oldNodup := List.Nodup.map hf h.oldNodup
  newNodup := List.Nodup.map hf h.newNodup
  common := by rw [filter_map_mem hf, filter_map_mem hf, h.common]

/-- Lists that are put together of separate parts in a common order are in a common order. -/
theorem InCommonOrder.append (hf : InCommonOrder first first') (hl : InCommonOrder later later')
    (hs : Separate first first' later later') :
    InCommonOrder (first ++ later) (first' ++ later') := by
  obtain ⟨hfirst, hlater⟩ := hs.mem_iff
  obtain ⟨hfirst', hlater'⟩ := hs.symm.mem_iff
  refine ⟨List.nodup_append.mpr ⟨hf.oldNodup, hl.oldNodup, ?_⟩,
    List.nodup_append.mpr ⟨hf.newNodup, hl.newNodup, ?_⟩, ?_⟩
  · rintro line hm _ hm' rfl
    exact hs line (List.mem_append_left _ hm) (List.mem_append_left _ hm')
  · rintro line hm _ hm' rfl
    exact hs line (List.mem_append_right _ hm) (List.mem_append_right _ hm')
  · rw [List.filter_append, List.filter_append,
      List.filter_congr fun line h => decide_eq_decide.mpr (hfirst line h),
      List.filter_congr fun line h => decide_eq_decide.mpr (hlater line h),
      List.filter_congr fun line h => decide_eq_decide.mpr (hfirst' line h),
      List.filter_congr fun line h => decide_eq_decide.mpr (hlater' line h), hf.common, hl.common]

/-- What stands in the one of such lists only stands so in one of its parts. -/
theorem Separate.onlyIn_append (hs : Separate first first' later later') :
    onlyIn (first ++ later) (first' ++ later') = onlyIn first first' ++ onlyIn later later' := by
  obtain ⟨hfirst, hlater⟩ := hs.mem_iff
  rw [onlyIn, List.filter_append,
    List.filter_congr fun line h => decide_eq_decide.mpr (not_congr (hfirst line h)),
    List.filter_congr fun line h => decide_eq_decide.mpr (not_congr (hlater line h))]
  rfl

theorem mem_filter_mem {line : α} {lines others : List α} :
    line ∈ lines.filter (· ∈ others) ↔ line ∈ lines ∧ line ∈ others := by
  rw [List.mem_filter, decide_eq_true_iff]

end

/-! ## Cutting at a run -/

/-- In front of a run in common and behind it, the lines that stand in both lists are the same
on both sides. -/
theorem InCommonOrder.filters_eq
    (h : InCommonOrder (oldLead ++ (common ++ oldTail)) (newLead ++ (common ++ newTail)))
    (hne : common ≠ []) :
    oldLead.filter (· ∈ newLead ++ (common ++ newTail)) =
        newLead.filter (· ∈ oldLead ++ (common ++ oldTail)) ∧
      oldTail.filter (· ∈ newLead ++ (common ++ newTail)) =
        newTail.filter (· ∈ oldLead ++ (common ++ oldTail)) := by
  obtain ⟨line, lines, rfl⟩ := List.exists_cons_of_ne_nil hne
  have hin : ∀ lead tail : List α, ∀ x ∈ line :: lines,
      decide (x ∈ lead ++ (line :: lines ++ tail)) = true := by
    intro lead tail x hx
    exact decide_eq_true (List.mem_append_right _ (List.mem_append_left _ hx))
  obtain ⟨-, hbehind, hapart⟩ := List.nodup_append.mp h.oldNodup
  have honce : line ∉ lines ++ oldTail := (List.nodup_cons.mp hbehind).1
  have hlead : line ∉ oldLead.filter (· ∈ newLead ++ (line :: lines ++ newTail)) :=
    fun hm => hapart line (List.mem_filter.mp hm).1 line List.mem_cons_self rfl
  have htail : line ∉ lines ++ oldTail.filter (· ∈ newLead ++ (line :: lines ++ newTail)) := by
    intro hm
    rcases List.mem_append.mp hm with hl | ht
    · exact honce (List.mem_append_left _ hl)
    · exact honce (List.mem_append_right _ (List.mem_filter.mp ht).1)
  have hcommon := h.common
  rw [List.filter_append, List.filter_append, List.filter_append, List.filter_append,
    List.filter_eq_self.mpr (hin newLead newTail), List.filter_eq_self.mpr (hin oldLead oldTail),
    List.cons_append, List.cons_append] at hcommon
  -- the first line of the run stands in the old list once, so it marks the place of the cut
  obtain ⟨hleads, -, htails⟩ := (List.append_cons_inj_of_notMem hlead htail).mp hcommon
  exact ⟨hleads, List.append_cancel_left htails⟩

/-- A line in front of the run stands in the other list exactly if it stands in front of the run
there, and a line behind it exactly if it stands behind. -/
theorem InCommonOrder.mem_iff
    (h : InCommonOrder (oldLead ++ (common ++ oldTail)) (newLead ++ (common ++ newTail)))
    (hne : common ≠ []) :
    (∀ line ∈ oldLead, line ∈ newLead ++ (common ++ newTail) ↔ line ∈ newLead) ∧
      ∀ line ∈ oldTail, line ∈ newLead ++ (common ++ newTail) ↔ line ∈ newTail := by
  obtain ⟨hleads, htails⟩ := h.filters_eq hne
  constructor
  · intro line hline
    refine ⟨fun hm => ?_, fun hm => List.mem_append_left _ hm⟩
    have hfilter : line ∈ oldLead.filter (· ∈ newLead ++ (common ++ newTail)) :=
      List.mem_filter.mpr ⟨hline, decide_eq_true hm⟩
    rw [hleads] at hfilter
    exact (List.mem_filter.mp hfilter).1
  · intro line hline
    refine ⟨fun hm => ?_, fun hm => List.mem_append_right _ (List.mem_append_right _ hm)⟩
    have hfilter : line ∈ oldTail.filter (· ∈ newLead ++ (common ++ newTail)) :=
      List.mem_filter.mpr ⟨hline, decide_eq_true hm⟩
    rw [htails] at hfilter
    exact (List.mem_filter.mp hfilter).1

/-- In front of a run in common and behind it, the lists are again in a common order. -/
theorem InCommonOrder.parts
    (h : InCommonOrder (oldLead ++ (common ++ oldTail)) (newLead ++ (common ++ newTail)))
    (hne : common ≠ []) : InCommonOrder oldLead newLead ∧ InCommonOrder oldTail newTail := by
  obtain ⟨hleads, htails⟩ := h.filters_eq hne
  obtain ⟨holdLead, holdTail⟩ := h.mem_iff hne
  obtain ⟨hnewLead, hnewTail⟩ := h.symm.mem_iff hne
  obtain ⟨hnodupLead, hbehind, -⟩ := List.nodup_append.mp h.oldNodup
  obtain ⟨hnodupLead', hbehind', -⟩ := List.nodup_append.mp h.newNodup
  refine ⟨⟨hnodupLead, hnodupLead', ?_⟩,
    ⟨(List.nodup_append.mp hbehind).2.1, (List.nodup_append.mp hbehind').2.1, ?_⟩⟩
  · rw [List.filter_congr fun line hl => decide_eq_decide.mpr (holdLead line hl),
      List.filter_congr fun line hl => decide_eq_decide.mpr (hnewLead line hl)] at hleads
    exact hleads
  · rw [List.filter_congr fun line hl => decide_eq_decide.mpr (holdTail line hl),
      List.filter_congr fun line hl => decide_eq_decide.mpr (hnewTail line hl)] at htails
    exact htails

/-- What stands in the old list only stands so in the part in front of the run or in the part
behind it. -/
theorem InCommonOrder.only_eq
    (h : InCommonOrder (oldLead ++ (common ++ oldTail)) (newLead ++ (common ++ newTail)))
    (hne : common ≠ []) :
    onlyIn (oldLead ++ (common ++ oldTail)) (newLead ++ (common ++ newTail)) =
      onlyIn oldLead newLead ++ onlyIn oldTail newTail := by
  obtain ⟨hlead, htail⟩ := h.mem_iff hne
  have hcommon : common.filter (· ∉ newLead ++ (common ++ newTail)) = [] := by
    rw [List.filter_eq_nil_iff]
    intro line hl hn
    exact of_decide_eq_true hn (List.mem_append_right _ (List.mem_append_left _ hl))
  rw [onlyIn, List.filter_append, List.filter_append, hcommon, List.nil_append,
    List.filter_congr fun line hl => decide_eq_decide.mpr (not_congr (hlead line hl)),
    List.filter_congr fun line hl => decide_eq_decide.mpr (not_congr (htail line hl))]
  rfl

/-! ## An empty run -/

/-- A better run is no shorter than either of the two that it was chosen from. -/
theorem size_le_better (best other : CommonRun) :
    best.size ≤ (if best.size < other.size then other else best).size ∧
      other.size ≤ (if best.size < other.size then other else best).size := by
  split
  · next hlt => exact ⟨Nat.le_of_lt hlt, Nat.le_refl _⟩
  · next hge => exact ⟨Nat.le_refl _, Nat.not_lt.mp hge⟩

/-- A row of the search keeps what was found, and looks at every place in the new list. -/
theorem commonLength_le_longestFrom (usable : α → Bool) (old new : List α) (i j : Nat)
    (best : CommonRun) :
    best.size ≤ (longestFrom usable old i new j best).size ∧
      ∀ tail, tail <:+ new →
        commonLength usable old tail ≤ (longestFrom usable old i new j best).size := by
  induction new generalizing j best with
  | nil =>
    refine ⟨Nat.le_refl _, fun tail ht => ?_⟩
    rw [List.suffix_nil.mp ht, commonLength_nil_right]
    exact Nat.zero_le _
  | cons y new ih =>
    rw [longestFrom]
    obtain ⟨hbest, hhere⟩ := size_le_better best ⟨i, j, commonLength usable old (y :: new)⟩
    obtain ⟨hkept, htails⟩ := ih (j + 1)
      (if best.size < commonLength usable old (y :: new) then
        ⟨i, j, commonLength usable old (y :: new)⟩ else best)
    refine ⟨Nat.le_trans hbest hkept, fun tail ht => ?_⟩
    rcases List.suffix_cons_iff.mp ht with rfl | ht
    · exact Nat.le_trans hhere hkept
    · exact htails tail ht

/-- The search keeps what was found, and looks at every place in either list. -/
theorem commonLength_le_longestIn (usable : α → Bool) (new old : List α) (i : Nat)
    (best : CommonRun) :
    best.size ≤ (longestIn usable new old i best).size ∧
      ∀ rest tail, rest <:+ old → tail <:+ new →
        commonLength usable rest tail ≤ (longestIn usable new old i best).size := by
  induction old generalizing i best with
  | nil =>
    refine ⟨Nat.le_refl _, fun rest tail hr _ => ?_⟩
    rw [List.suffix_nil.mp hr, commonLength_nil_left]
    exact Nat.zero_le _
  | cons x old ih =>
    rw [longestIn]
    obtain ⟨hbest, hrow⟩ := commonLength_le_longestFrom usable (x :: old) new i 0 best
    obtain ⟨hkept, hrows⟩ := ih (i + 1) (longestFrom usable (x :: old) i new 0 best)
    refine ⟨Nat.le_trans hbest hkept, fun rest tail hr ht => ?_⟩
    rcases List.suffix_cons_iff.mp hr with rfl | hr
    · exact Nat.le_trans (hrow tail ht) hkept
    · exact hrows rest tail hr ht

/-- If the longest run is empty, no line that may start a run stands in both lists. -/
theorem not_mem_of_longestRun (h : (longestRun usable old new).size = 0) {line : α}
    (hu : usable line = true) (hold : line ∈ old) : line ∉ new := by
  intro hnew
  have hempty : (longestIn usable new old 0 ⟨0, 0, 0⟩).size = 0 := by
    simp only [longestRun] at h
    omega
  obtain ⟨oldLead, oldTail, rfl⟩ := List.append_of_mem hold
  obtain ⟨newLead, newTail, rfl⟩ := List.append_of_mem hnew
  have hplace := (commonLength_le_longestIn usable (newLead ++ line :: newTail)
    (oldLead ++ line :: oldTail) 0 ⟨0, 0, 0⟩).2 (line :: oldTail) (line :: newTail)
    (List.suffix_append _ _) (List.suffix_append _ _)
  rw [hempty, commonLength_cons, if_pos ⟨rfl, hu⟩] at hplace
  omega

/-! ## The changes of a script -/

/-- A script for lists in a common order removes exactly the lines that stand in the old list
only, and adds exactly those that stand in the new list only. -/
theorem InCommonOrder.changes_scriptWith (h : InCommonOrder old new)
    (hu : ∀ line ∈ old, usable line = true) :
    removedLines (scriptWith usable old new) = onlyIn old new ∧
      addedLines (scriptWith usable old new) = onlyIn new old := by
  -- along the recursion of the script: the order is kept by both parts around the run
  induction old, new using scriptWith.induct usable with
  | case1 old new run hempty =>
    have hnone : ∀ line ∈ old, line ∉ new := fun line hl =>
      not_mem_of_longestRun hempty (hu line hl) hl
    have hold : onlyIn old new = old :=
      List.filter_eq_self.mpr fun line hl => decide_eq_true (hnone line hl)
    have hnew : onlyIn new old = new :=
      List.filter_eq_self.mpr fun line hl => decide_eq_true fun ho => hnone line ho hl
    rw [scriptWith, dif_pos hempty, removedLines_append, addedLines_append,
      (changes_remove old).1, (changes_remove old).2, (changes_add new).1, (changes_add new).2,
      hold, hnew]
    exact ⟨List.append_nil old, rfl⟩
  | case2 old new run hsome ihlead ihtail =>
    obtain ⟨oldLead, newLead, common, oldTail, newTail, ho, hn, hr⟩ :=
      longestRun_standsIn usable old new
    have hrun : run = ⟨oldLead.length, newLead.length, common.length⟩ := hr
    have hne : common ≠ [] := by
      rintro rfl
      exact hsome (congrArg CommonRun.size hrun)
    rw [scriptWith, dif_neg hsome]
    simp only [hr, hrun] at ihlead ihtail ⊢
    subst ho hn
    simp only [← List.drop_drop, List.take_left, List.drop_left] at ihlead ihtail ⊢
    obtain ⟨hlead, htail⟩ := h.parts hne
    obtain ⟨hremovedLead, haddedLead⟩ := ihlead hlead fun line hl =>
      hu line (List.mem_append_left _ hl)
    obtain ⟨hremovedTail, haddedTail⟩ := ihtail htail fun line hl =>
      hu line (List.mem_append_right _ (List.mem_append_right _ hl))
    obtain ⟨hkeptRemoved, hkeptAdded⟩ := changes_keep common
    rw [removedLines_append, removedLines_append, addedLines_append, addedLines_append,
      hremovedLead, haddedLead, hremovedTail, haddedTail, hkeptRemoved, hkeptAdded,
      List.append_nil, List.append_nil, h.only_eq hne, h.symm.only_eq hne]
    exact ⟨rfl, rfl⟩

/-- A list without repetitions has no frequent lines. -/
theorem frequentLines_of_nodup (h : new.Nodup) : frequentLines new = [] := by
  rw [frequentLines]
  split
  · rfl
  · have hnone : new.filter (fun line => new.length / 100 + 1 < new.count line) = [] := by
      rw [List.filter_eq_nil_iff]
      intro line _ hcount
      have hmany : new.length / 100 + 1 < new.count line := of_decide_eq_true hcount
      have honce : new.count line ≤ 1 := List.nodup_iff_count.mp h line
      omega
    rw [hnone]
    rfl

/-- The script of lists in a common order, however long they are, changes exactly the lines that
stand in one of them only, in the order in which they stand there. -/
theorem InCommonOrder.changes_script (h : InCommonOrder old new) :
    removedLines (script old new) = onlyIn old new ∧
      addedLines (script old new) = onlyIn new old := by
  rw [script, frequentLines_of_nodup h.newNodup]
  exact h.changes_scriptWith fun _ _ => rfl

end StyleTypings.Diff
