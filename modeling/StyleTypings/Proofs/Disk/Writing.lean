import StyleTypings.Disk

/-!
# Writing a file and finding it again

Setting one place changes what that place holds and nothing else. A write succeeds only at a
place that is no directory, and a walk passes through directories alone, so the walk that led
to the written place still leads there afterwards. Hence a written file is read back as it was
written, and every other file keeps its bytes.
-/

namespace StyleTypings.Disk

variable {disk after : Disk} {path : Path} {place other : Place} {content : Bytes}

theorem lookup_setEntry_same (place : Place) (entry : Entry) (entries : List (Place × Entry)) :
    (setEntry place entry entries).lookup place = some entry := by
  induction entries with
  | nil => exact List.lookup_cons_self
  | cons e entries ih =>
    obtain ⟨p, old⟩ := e
    rw [setEntry]
    split
    · exact List.lookup_cons_self
    · next hp =>
      rw [List.lookup_cons, beq_false_of_ne (Ne.symm hp)]
      exact ih

/-- The other entries stay. -/
theorem lookup_setEntry_of_ne (ho : other ≠ place) (entry : Entry)
    (entries : List (Place × Entry)) :
    (setEntry place entry entries).lookup other = entries.lookup other := by
  induction entries with
  | nil =>
    rw [setEntry, List.lookup_cons, beq_false_of_ne ho]
  | cons e entries ih =>
    obtain ⟨p, old⟩ := e
    rw [setEntry]
    split
    · next hp =>
      subst hp
      rw [List.lookup_cons, List.lookup_cons, beq_false_of_ne ho]
    · rw [List.lookup_cons, List.lookup_cons, ih]

/-- An entry that is set is found. -/
theorem entry?_set_same (hp : place ≠ []) (entry : Entry) :
    entry? (disk.set place entry) place = some entry := by
  unfold entry?
  rw [if_neg hp]
  exact lookup_setEntry_same place entry disk.entries

/-- An entry is found as before at any other place. -/
theorem entry?_set_of_ne (ho : other ≠ place) (entry : Entry) :
    entry? (disk.set place entry) other = disk.entry? other := by
  unfold entry?
  split
  · rfl
  · exact lookup_setEntry_of_ne ho entry disk.entries

/-- A place that is no directory is not the top. -/
theorem ne_nil_of_not_directory (hd : disk.entry? place ≠ some .directory) : place ≠ [] := by
  rintro rfl
  exact hd rfl

/-- A step leaves a directory, so it is not disturbed by a change at a place that is none. -/
theorem step_set (hd : disk.entry? place ≠ some .directory) {here next : Place} {name : Text}
    (hs : disk.step here name = .ok next) (entry : Entry) :
    (disk.set place entry).step here name = .ok next := by
  have hne : here ≠ place := by
    rintro rfl
    unfold step at hs
    split at hs
    · cases hs
    · cases hs
    · next he => exact hd he
  rw [step, entry?_set_of_ne hne]
  exact hs

/-- Where a walk leads does not depend on an entry that is no directory. -/
theorem walk_set (hd : disk.entry? place ≠ some .directory) {here target : Place}
    {names : List Text} (hw : disk.walk here names = .ok target) (entry : Entry) :
    (disk.set place entry).walk here names = .ok target := by
  induction names generalizing here with
  | nil => exact hw
  | cons name names ih =>
    rw [walk] at hw ⊢
    cases hs : disk.step here name with
    | error fault =>
      rw [hs] at hw
      cases hw
    | ok next =>
      rw [hs] at hw
      rw [step_set hd hs]
      exact ih hw

/-- A path leads to a place exactly if the system takes it as a path and the walk along its
names ends there. -/
theorem locate_eq_ok_iff : disk.locate path = .ok place ↔
    PathFault.of? path.text = none ∧ (Utf8.nameBytes path.text).length < pathLimit ∧
      disk.walk (.ofNames (disk.start path.root)) path.names = .ok place := by
  unfold locate
  split
  · next hf => simp only [hf, reduceCtorEq, false_and]
  · next hf =>
    split
    · next hl => simp only [Nat.not_lt.mpr hl, reduceCtorEq, false_and, and_false]
    · next hl =>
      simp only [hf, Nat.lt_of_not_le hl, true_and]
      cases disk.walk (.ofNames (disk.start path.root)) path.names <;>
        simp only [reduceCtorEq, Except.ok.injEq]

/-- Nor does where it starts. -/
theorem start_set (root : Root) (entry : Entry) :
    (disk.set place entry).start root = disk.start root := by
  cases root <;> rfl

/-- A path that leads to a place leads there also after a change at a place that is no
directory. -/
theorem locate_set (hd : disk.entry? place ≠ some .directory) {target : Place}
    (hl : disk.locate path = .ok target) (entry : Entry) :
    (disk.set place entry).locate path = .ok target := by
  obtain ⟨hn, hs, hw⟩ := locate_eq_ok_iff.mp hl
  rw [← start_set] at hw
  exact locate_eq_ok_iff.mpr ⟨hn, hs, walk_set hd hw entry⟩

/-- A place that became a file is no directory, so no step that succeeds now leaves it. -/
theorem step_of_step_set (hp : place ≠ []) {here next : Place} {name : Text}
    (hs : (disk.set place (.file content)).step here name = .ok next) :
    disk.step here name = .ok next := by
  have hne : here ≠ place := by
    rintro rfl
    rw [step, entry?_set_same hp] at hs
    cases hs
  rw [step, entry?_set_of_ne hne] at hs
  exact hs

/-- A file that is set opens no way. -/
theorem walk_of_walk_set (hp : place ≠ []) {here target : Place} {names : List Text}
    (hw : (disk.set place (.file content)).walk here names = .ok target) :
    disk.walk here names = .ok target := by
  induction names generalizing here with
  | nil => exact hw
  | cons name names ih =>
    rw [walk] at hw ⊢
    cases hs : (disk.set place (.file content)).step here name with
    | error fault =>
      rw [hs] at hw
      cases hw
    | ok next =>
      rw [hs] at hw
      rw [step_of_step_set hp hs]
      exact ih hw

/-- Making or replacing a file changes neither which paths lead anywhere nor where they lead. -/
theorem locate_set_file_iff (hd : disk.entry? place ≠ some .directory) {target : Place} :
    (disk.set place (.file content)).locate path = .ok target ↔ disk.locate path = .ok target := by
  constructor
  · intro hl
    obtain ⟨hn, hs, hw⟩ := locate_eq_ok_iff.mp hl
    rw [start_set] at hw
    exact locate_eq_ok_iff.mpr ⟨hn, hs, walk_of_walk_set (ne_nil_of_not_directory hd) hw⟩
  · intro hl
    exact locate_set hd hl _

/-- A write succeeds exactly at a place that can be reached and is no directory; then that
place is set, and nothing else happens. -/
theorem write_eq_ok_iff : disk.write path content = .ok after ↔
    ∃ place, disk.locate path = .ok place ∧ disk.entry? place ≠ some .directory ∧
      after = disk.set place (.file content) := by
  unfold write
  cases hl : disk.locate path with
  | error fault => simp
  | ok place =>
    dsimp only
    constructor
    · intro h
      split at h
      · cases h
      · next hd =>
        cases h
        exact ⟨place, rfl, hd, rfl⟩
    · rintro ⟨p, hp, hd, rfl⟩
      cases hp
      split
      · next he => exact absurd he hd
      · rfl

/-- A file can be opened for writing at the path. -/
def Opens (disk : Disk) (path : Path) : Prop :=
  ∃ place, disk.locate path = .ok place ∧ disk.entry? place ≠ some .directory

/-- Whether a write succeeds does not depend on what is to be written. -/
theorem exists_write_iff : (∃ after, disk.write path content = .ok after) ↔ disk.Opens path := by
  simp only [write_eq_ok_iff, Opens]
  constructor
  · rintro ⟨after, place, hl, hd, -⟩
    exact ⟨place, hl, hd⟩
  · rintro ⟨place, hl, hd⟩
    exact ⟨_, place, hl, hd, rfl⟩

/-- What was written is read back, byte for byte. -/
theorem read_write (hw : disk.write path content = .ok after) : after.read path = .ok content := by
  obtain ⟨place, hl, hd, rfl⟩ := write_eq_ok_iff.mp hw
  simp only [read, locate_set hd hl, entry?_set_same (ne_nil_of_not_directory hd)]

/-- The path that was written to leads to one place before and after. That place now holds the
new bytes, and every other one holds the bytes it had. -/
theorem file?_write (hw : disk.write path content = .ok after) :
    ∃ place, disk.locate path = .ok place ∧ after.locate path = .ok place ∧
      after.file? place = some content ∧
      ∀ other, other ≠ place → after.file? other = disk.file? other := by
  obtain ⟨place, hl, hd, rfl⟩ := write_eq_ok_iff.mp hw
  refine ⟨place, hl, locate_set hd hl _, ?_, ?_⟩
  · rw [file?, entry?_set_same (ne_nil_of_not_directory hd)]
  · intro other ho
    rw [file?, entry?_set_of_ne ho, file?]

/-- A write leaves every path leading to the place that it led to before. -/
theorem locate_write_iff (hw : disk.write path content = .ok after) {other : Path}
    {target : Place} : after.locate other = .ok target ↔ disk.locate other = .ok target := by
  obtain ⟨place, -, hd, rfl⟩ := write_eq_ok_iff.mp hw
  exact locate_set_file_iff hd

end StyleTypings.Disk
