import StyleTypings.Diff.Script

/-!
# Common runs

Whatever lines may start a run, the run that the search settles on stands in both lists, and
widening it keeps this true. On two equal lists the search settles on a run that starts at the
same line in both, because the run that starts there is no shorter than any other; widening then
reaches both ends. So the run of two equal lists is the whole list, even if no line of it may
start a run. Nothing is said of how good the choice is for lists that differ.
-/

namespace StyleTypings.Diff

variable {α : Type}

/-- The run stands in both lists: they are the same from its two starts on, for its length. -/
def CommonRun.StandsIn (run : CommonRun) (old new : List α) : Prop :=
  ∃ oldLead newLead common oldTail newTail,
    old = oldLead ++ (common ++ oldTail) ∧ new = newLead ++ (common ++ newTail) ∧
    run = ⟨oldLead.length, newLead.length, common.length⟩

/-- Cutting both lists at a run that stands in them gives the same lines. -/
theorem CommonRun.StandsIn.slices_eq {run : CommonRun} {old new : List α}
    (hr : run.StandsIn old new) :
    (old.drop run.old).take run.size = (new.drop run.new).take run.size := by
  obtain ⟨oldLead, newLead, common, oldTail, newTail, rfl, rfl, rfl⟩ := hr
  simp only [List.drop_left, List.take_left]

variable [DecidableEq α] {usable : α → Bool} {old new whole oldWhole newWhole : List α}

/-! ## The search finds a run that stands in both lists -/

theorem commonLength_nil_left (usable : α → Bool) (new : List α) :
    commonLength usable [] new = 0 := by
  simp [commonLength]

theorem commonLength_nil_right (usable : α → Bool) (old : List α) :
    commonLength usable old [] = 0 := by
  simp [commonLength]

theorem commonLength_cons (usable : α → Bool) (x y : α) (old new : List α) :
    commonLength usable (x :: old) (y :: new) =
      if x = y ∧ usable x = true then commonLength usable old new + 1 else 0 := by
  simp only [commonLength, Bool.and_eq_true, decide_eq_true_eq]

/-- As many lines as are counted stand at the beginning of both lists. -/
theorem exists_common (usable : α → Bool) (old new : List α) :
    ∃ common oldTail newTail, old = common ++ oldTail ∧ new = common ++ newTail ∧
      common.length = commonLength usable old new := by
  induction old generalizing new with
  | nil => exact ⟨[], [], new, rfl, rfl, (commonLength_nil_left usable new).symm⟩
  | cons x old ih =>
    cases new with
    | nil => exact ⟨[], x :: old, [], rfl, rfl, (commonLength_nil_right usable _).symm⟩
    | cons y new =>
      rw [commonLength_cons]
      split
      · next h =>
        obtain ⟨rfl, -⟩ := h
        obtain ⟨common, oldTail, newTail, rfl, rfl, hl⟩ := ih new
        exact ⟨x :: common, oldTail, newTail, rfl, rfl, by rw [List.length_cons, hl]⟩
      · exact ⟨[], x :: old, y :: new, rfl, rfl, rfl⟩

/-- The longest run of a search through one row stands in both lists. -/
theorem longestFrom_standsIn {oldLead newLead : List α} {best : CommonRun}
    (ho : oldWhole = oldLead ++ old) (hn : newWhole = newLead ++ new)
    (hb : best.StandsIn oldWhole newWhole) :
    (longestFrom usable old oldLead.length new newLead.length best).StandsIn oldWhole newWhole := by
  induction new generalizing newLead best with
  | nil => exact hb
  | cons y new ih =>
    have hlead : newWhole = (newLead ++ [y]) ++ new := by
      rw [hn, List.append_assoc]
      rfl
    have hcount : newLead.length + 1 = (newLead ++ [y]).length := by
      rw [List.length_append, List.length_singleton]
    rw [longestFrom, hcount]
    refine ih hlead ?_
    split
    · obtain ⟨common, oldTail, newTail, hold, hnew, hl⟩ := exists_common usable old (y :: new)
      exact ⟨oldLead, newLead, common, oldTail, newTail, by rw [ho, hold], by rw [hn, hnew],
        by rw [hl]⟩
    · exact hb

/-- So does the longest run of a search through several rows. -/
theorem longestIn_standsIn {oldLead : List α} {best : CommonRun}
    (ho : whole = oldLead ++ old) (hb : best.StandsIn whole new) :
    (longestIn usable new old oldLead.length best).StandsIn whole new := by
  induction old generalizing oldLead best with
  | nil => exact hb
  | cons x old ih =>
    have hlead : whole = (oldLead ++ [x]) ++ old := by
      rw [ho, List.append_assoc]
      rfl
    have hcount : oldLead.length + 1 = (oldLead ++ [x]).length := by
      rw [List.length_append, List.length_singleton]
    have hnone : new = [] ++ new := rfl
    have hrow : (longestFrom usable (x :: old) oldLead.length new 0 best).StandsIn whole new :=
      longestFrom_standsIn ho hnone hb
    rw [longestIn, hcount]
    exact ih hlead hrow

/-- Widening a run that stands in both lists gives one that does so too. -/
theorem longestRun_standsIn (usable : α → Bool) (old new : List α) :
    (longestRun usable old new).StandsIn old new := by
  have hempty : (⟨0, 0, 0⟩ : CommonRun).StandsIn old new := ⟨[], [], [], old, new, rfl, rfl, rfl⟩
  have hnone : old = [] ++ old := rfl
  have hfound : (longestIn usable new old 0 ⟨0, 0, 0⟩).StandsIn old new :=
    longestIn_standsIn hnone hempty
  unfold longestRun
  dsimp only
  obtain ⟨oldLead, newLead, common, oldTail, newTail, ho, hn, hr⟩ := hfound
  rw [hr]
  -- The lines in front of the run are compared from the run backwards.
  obtain ⟨lead, oldFar, newFar, hol, hnl, hlead⟩ :=
    exists_common (fun _ => true) oldLead.reverse newLead.reverse
  obtain ⟨tail, oldRest, newRest, hot, hnt, htail⟩ :=
    exists_common (fun _ => true) oldTail newTail
  have hold : oldLead = oldFar.reverse ++ lead.reverse := by
    rw [← List.reverse_append, ← hol, List.reverse_reverse]
  have hnew : newLead = newFar.reverse ++ lead.reverse := by
    rw [← List.reverse_append, ← hnl, List.reverse_reverse]
  have htakeOld : old.take oldLead.length = oldLead := by rw [ho, List.take_left]
  have htakeNew : new.take newLead.length = newLead := by rw [hn, List.take_left]
  have hdropOld : old.drop (oldLead.length + common.length) = oldTail := by
    rw [ho, ← List.drop_drop, List.drop_left, List.drop_left]
  have hdropNew : new.drop (newLead.length + common.length) = newTail := by
    rw [hn, ← List.drop_drop, List.drop_left, List.drop_left]
  simp only [htakeOld, htakeNew, hdropOld, hdropNew, ← hlead, ← htail]
  refine ⟨oldFar.reverse, newFar.reverse, lead.reverse ++ common ++ tail, oldRest, newRest,
    ?_, ?_, ?_⟩
  · rw [ho, hold, hot]
    simp only [List.append_assoc]
  · rw [hn, hnew, hnt]
    simp only [List.append_assoc]
  · rw [hold, hnew]
    simp only [List.length_append, List.length_reverse, Nat.add_sub_cancel]

/-! ## The run of two equal lists -/

/-- No run is longer than those of its two beginnings with themselves. -/
theorem commonLength_le_self (usable : α → Bool) (old new : List α) :
    commonLength usable old new ≤ commonLength usable old old ∧
      commonLength usable old new ≤ commonLength usable new new := by
  induction old generalizing new with
  | nil =>
    rw [commonLength_nil_left]
    exact ⟨Nat.zero_le _, Nat.zero_le _⟩
  | cons x old ih =>
    cases new with
    | nil =>
      rw [commonLength_nil_right]
      exact ⟨Nat.zero_le _, Nat.zero_le _⟩
    | cons y new =>
      obtain ⟨hold, hnew⟩ := ih new
      simp only [commonLength_cons, true_and]
      split
      · next h =>
        obtain ⟨rfl, hx⟩ := h
        rw [if_pos hx, if_pos hx]
        omega
      · exact ⟨Nat.zero_le _, Nat.zero_le _⟩

/-- A list runs along with itself to its end. -/
theorem commonLength_self (lines : List α) :
    commonLength (fun _ => true) lines lines = lines.length := by
  induction lines with
  | nil => exact commonLength_nil_left _ _
  | cons x lines ih => rw [commonLength_cons, if_pos ⟨rfl, rfl⟩, ih, List.length_cons]

/-- The best run starts at the same line in both lists, and it is no shorter than the runs that
start at one of the first lines in both, as long as more than `left` lines follow. -/
structure CommonRun.Leads (best : CommonRun) (usable : α → Bool) (whole : List α) (left : Nat) :
    Prop where
  /-- It starts at the same line in both lists. -/
  diagonal : best.old = best.new
  /-- It is no shorter than those of the lines that were looked at. -/
  longest : ∀ tail, tail <:+ whole → left < tail.length → commonLength usable tail tail ≤ best.size

/-- One row of the search keeps this true, and it looks at the run that starts at its own line
in both lists. -/
theorem longestFrom_leads {rest new : List α} {i j : Nat} {best : CommonRun}
    (hr : rest <:+ whole) (hn : new <:+ whole) (hi : i + rest.length = whole.length)
    (hj : j + new.length = whole.length) (hb : best.Leads usable whole rest.length)
    (hpast : new.length < rest.length → commonLength usable rest rest ≤ best.size) :
    (longestFrom usable rest i new j best).Leads usable whole rest.length ∧
      (rest ≠ [] →
        commonLength usable rest rest ≤ (longestFrom usable rest i new j best).size) := by
  induction new generalizing j best with
  | nil =>
    refine ⟨hb, fun hne => hpast ?_⟩
    exact List.length_pos_iff.mpr hne
  | cons y new ih =>
    obtain ⟨hleft, hright⟩ := commonLength_le_self usable rest (y :: new)
    have htail : new <:+ whole := (List.suffix_cons y new).trans hn
    have hj' : j + 1 + new.length = whole.length := by
      rw [List.length_cons] at hj
      omega
    rw [longestFrom]
    rcases Nat.lt_trichotomy rest.length (y :: new).length with hlt | heq | hgt
    · -- The row has not come to its own line, and the runs before it are known.
      have hsize : ¬best.size < commonLength usable rest (y :: new) :=
        Nat.not_lt.mpr (Nat.le_trans hright (hb.longest _ hn hlt))
      rw [if_neg hsize]
      refine ih htail hj' hb fun h => ?_
      rw [List.length_cons] at hlt
      omega
    · have hsame : y :: new = rest :=
        (List.suffix_of_suffix_length_le hn hr (Nat.le_of_eq heq.symm)).eq_of_length heq.symm
      have hij : i = j := by omega
      rw [hsame]
      split
      · next hlt =>
        refine ih htail hj' ⟨hij, fun tail ht hl => ?_⟩ fun _ => Nat.le_refl _
        exact Nat.le_trans (hb.longest tail ht hl) (Nat.le_of_lt hlt)
      · next hge => exact ih htail hj' hb fun _ => Nat.not_lt.mp hge
    · have hsize : ¬best.size < commonLength usable rest (y :: new) :=
        Nat.not_lt.mpr (Nat.le_trans hleft (hpast hgt))
      rw [if_neg hsize]
      exact ih htail hj' hb fun _ => hpast hgt

/-- A search for a list in itself keeps the run from its start in the lead. -/
theorem longestIn_leads {rest : List α} {i : Nat} {best : CommonRun} (hr : rest <:+ whole)
    (hi : i + rest.length = whole.length) (hb : best.Leads usable whole rest.length) :
    (longestIn usable whole rest i best).Leads usable whole 0 := by
  induction rest generalizing i best with
  | nil => exact hb
  | cons x rest ih =>
    have hnot : ¬whole.length < (x :: rest).length := Nat.not_lt.mpr hr.length_le
    obtain ⟨hrow, hown⟩ := longestFrom_leads hr (List.suffix_refl whole) hi (Nat.zero_add _) hb
      fun hlt => absurd hlt hnot
    have hi' : i + 1 + rest.length = whole.length := by
      rw [List.length_cons] at hi
      omega
    rw [longestIn]
    refine ih ((List.suffix_cons x rest).trans hr) hi' ⟨hrow.diagonal, fun tail ht hl => ?_⟩
    rcases Nat.lt_or_eq_of_le (Nat.succ_le_of_lt hl) with hlong | hsame
    · exact hrow.longest tail ht hlong
    · have htail : x :: rest = tail :=
        (List.suffix_of_suffix_length_le hr ht (Nat.le_of_eq hsame)).eq_of_length hsame
      rw [← htail]
      exact hown (List.cons_ne_nil x rest)

/-- The run of two equal lists is the whole of them. -/
theorem longestRun_self (usable : α → Bool) (lines : List α) :
    longestRun usable lines lines = ⟨0, 0, lines.length⟩ := by
  have hempty : (⟨0, 0, 0⟩ : CommonRun).Leads usable lines lines.length :=
    ⟨rfl, fun tail ht hl => absurd ht.length_le (Nat.not_le.mpr hl)⟩
  have hlead := longestIn_leads (List.suffix_refl lines) (Nat.zero_add _) hempty
  have hwithin : (longestIn usable lines lines 0 ⟨0, 0, 0⟩).old +
      (longestIn usable lines lines 0 ⟨0, 0, 0⟩).size ≤ lines.length :=
    longestIn_within usable lines lines 0 ⟨0, 0, 0⟩ (by simp) (by simp)
  unfold longestRun
  simp only [← hlead.diagonal, commonLength_self, List.length_reverse, List.length_take,
    List.length_drop, CommonRun.mk.injEq]
  omega

end StyleTypings.Diff
