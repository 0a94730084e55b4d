import StyleTypings.Proofs.Disk.Writing

/-!
# What a change of some files leaves alone

When files are made or replaced at some places, every path leads to the place it led to before, and
all other places hold what they held. So a path that leads to none of the changed places is read
and written as before. A path that leads nowhere still leads nowhere, but the system may refuse it
for another reason, because it may now pass a file where nothing was.
-/

namespace StyleTypings.Disk

/-- From one disk to the other at most the files at some places were made or replaced. -/
structure Keeps (changed : Place → Prop) (before after : Disk) : Prop where
  /-- The working directory is the same. -/
  working : after.working = before.working
  /-- Every path leads to the same place. -/
  leads : ∀ {path place}, after.locate path = .ok place ↔ before.locate path = .ok place
  /-- All other places hold the same. -/
  holds : ∀ {place}, ¬changed place → after.entry? place = before.entry? place

variable {before middle after disk : Disk} {changed further : Place → Prop} {path : Path}
  {place : Place} {content : Bytes} {fault : AccessFault} {bad : PathFault}

namespace Keeps

theorem refl (changed : Place → Prop) (disk : Disk) : Keeps changed disk disk :=
  { working := rfl, leads := Iff.rfl, holds := fun _ => rfl }

/-- What stays where less changes stays where more does. -/
theorem mono (hk : Keeps changed before after) (hc : ∀ place, changed place → further place) :
    Keeps further before after :=
  { working := hk.working
    leads := hk.leads
    holds := fun hn => hk.holds fun h => hn (hc _ h) }

/-- What stays through both of two changes stays. -/
theorem trans (hf : Keeps changed before middle) (hs : Keeps changed middle after) :
    Keeps changed before after :=
  { working := hs.working.trans hf.working
    leads := hs.leads.trans hf.leads
    holds := fun hn => (hs.holds hn).trans (hf.holds hn) }

theorem file?_eq (hk : Keeps changed before after) (hn : ¬changed place) :
    after.file? place = before.file? place := by
  rw [file?, file?, hk.holds hn]

end Keeps

/-- A write changes the file at the place that the path leads to. -/
theorem keeps_write (hw : disk.write path content = .ok after) :
    Keeps (fun place => disk.locate path = .ok place) disk after := by
  obtain ⟨place, hl, hd, hafter⟩ := write_eq_ok_iff.mp hw
  refine { working := ?_, leads := locate_write_iff hw, holds := ?_ }
  · rw [hafter]
    rfl
  · intro other ho
    have hne : other ≠ place := by
      rintro rfl
      exact ho hl
    rw [hafter]
    exact entry?_set_of_ne hne _

/-! ## Paths that lead somewhere -/

/-- At a place that is found, a file is written unless a directory is there. -/
theorem write_of_locate (hl : disk.locate path = .ok place) : disk.write path content =
    if disk.entry? place = some .directory then .error (.refused .isADirectory)
    else .ok (disk.set place (.file content)) := by
  rw [write, hl]
  dsimp only
  split
  · next he => rw [if_pos he]
  · next he => rw [if_neg he]

/-- A path that leads to an unchanged place is read as before. -/
theorem Keeps.read_eq (hk : Keeps changed before after) (hl : before.locate path = .ok place)
    (hn : ¬changed place) : after.read path = before.read path := by
  rw [read, read, hl, hk.leads.mpr hl]
  dsimp only
  rw [hk.holds hn]

/-- A path that leads to an unchanged place is written as before: the write fails over the same, or
it succeeds and leaves the same at the place. -/
theorem Keeps.write_cases (hk : Keeps changed before after) (hl : before.locate path = .ok place)
    (hn : ¬changed place) (content : Bytes) :
    (∃ fault, before.write path content = .error fault ∧ after.write path content = .error fault) ∨
    ∃ first second, before.write path content = .ok first ∧ after.write path content = .ok second ∧
      second.entry? place = first.entry? place := by
  rw [write_of_locate hl, write_of_locate (hk.leads.mpr hl), hk.holds hn]
  by_cases hd : before.entry? place = some .directory
  · rw [if_pos hd, if_pos hd]
    exact Or.inl ⟨_, rfl, rfl⟩
  · rw [if_neg hd, if_neg hd]
    have hp := ne_nil_of_not_directory hd
    refine Or.inr ⟨_, _, rfl, rfl, ?_⟩
    rw [entry?_set_same hp, entry?_set_same hp]

/-! ## Paths that lead nowhere -/

/-- Whether a path is none that the system takes does not depend on the disk. -/
theorem locate_eq_invalid_iff :
    disk.locate path = .error (.invalid bad) ↔ PathFault.of? path.text = some bad := by
  rw [locate]
  split
  · next hb => rw [hb, Except.error.injEq, AccessFault.invalid.injEq, Option.some.injEq]
  · next hb =>
    rw [hb]
    refine iff_of_false ?_ (Option.some_ne_none bad).symm
    split
    · simp
    · split <;> simp

/-- A path that leads nowhere still leads nowhere, and it is refused by the system, or none that it
takes, as before. -/
theorem Keeps.locate_error (hk : Keeps changed before after)
    (hl : before.locate path = .error fault) :
    ∃ other, after.locate path = .error other ∧
      ∀ bad, other = .invalid bad ↔ fault = .invalid bad := by
  cases ha : after.locate path with
  | ok place => exact nomatch (hk.leads.mp ha).symm.trans hl
  | error other =>
    refine ⟨other, rfl, fun bad => ?_⟩
    rw [← Except.error.injEq, ← ha, ← Except.error.injEq (ε := AccessFault) (α := Place), ← hl,
      locate_eq_invalid_iff, locate_eq_invalid_iff]

theorem read_of_locate_error (hl : disk.locate path = .error fault) :
    disk.read path = .error fault := by
  rw [read, hl]

theorem write_of_locate_error (hl : disk.locate path = .error fault) (content : Bytes) :
    disk.write path content = .error fault := by
  rw [write, hl]

/-- A reading fails over the path itself exactly if the system does not take it. -/
theorem read_eq_invalid_iff :
    disk.read path = .error (.invalid bad) ↔ PathFault.of? path.text = some bad := by
  rw [← locate_eq_invalid_iff]
  cases hl : disk.locate path with
  | error fault => rw [read_of_locate_error hl, Except.error.injEq, Except.error.injEq]
  | ok place =>
    constructor
    · intro hr
      rw [read, hl] at hr
      dsimp only at hr
      split at hr <;> cases hr
    · intro hr
      cases hr

/-- So does a writing. -/
theorem write_eq_invalid_iff (content : Bytes) :
    disk.write path content = .error (.invalid bad) ↔ PathFault.of? path.text = some bad := by
  rw [← locate_eq_invalid_iff]
  cases hl : disk.locate path with
  | error fault => rw [write_of_locate_error hl, Except.error.injEq, Except.error.injEq]
  | ok place =>
    constructor
    · intro hw
      rw [write_of_locate hl] at hw
      split at hw <;> cases hw
    · intro hw
      cases hw

end StyleTypings.Disk
