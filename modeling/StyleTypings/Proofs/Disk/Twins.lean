import StyleTypings.Config
import StyleTypings.Proofs.Disk.Keeping

/-!
# Two disks that differ in one file

Two disks may differ in what they hold at one place, where neither has a directory. A walk comes to
the same place on both, or it fails over the same on both, unless the way leads on from that place
and only one of them has a file there. A path that is followed alike on both, and not to the place
itself, is read and written alike; a write keeps such paths so, and what each disk holds at the
place. The place of a configuration file is found alike in every case.
-/

namespace StyleTypings

namespace Disk

/-- The disks differ at most in what they hold at the place, and this is a directory on neither. -/
structure DifferAt (place : Place) (first second : Disk) : Prop where
  /-- The working directory is the same. -/
  working : second.working = first.working
  /-- All other places hold the same. -/
  elsewhere : ∀ {other}, other ≠ place → second.entry? other = first.entry? other
  /-- The first has no directory at the place. -/
  notDirectory : first.entry? place ≠ some .directory
  /-- Nor has the second. -/
  otherNotDirectory : second.entry? place ≠ some .directory

/-- The path is followed alike on both disks, and does not lead to the place. -/
structure Unseen (place : Place) (first second : Disk) (path : Path) : Prop where
  /-- It leads to the same place, or nowhere for the same reason. -/
  alike : second.locate path = first.locate path
  /-- It does not lead to the place. -/
  elsewhere : first.locate path ≠ .ok place

/-- The disks differ in what they hold at the place, which is given for both, and the paths are
followed alike. -/
structure Twins (place : Place) (held other : Option Entry) (paths : List Path)
    (first second : Disk) : Prop where
  /-- They differ at the place only. -/
  differ : DifferAt place first second
  /-- What the first holds there. -/
  holds : first.entry? place = held
  /-- What the second holds there. -/
  otherHolds : second.entry? place = other
  /-- The paths do not come upon the difference. -/
  unseen : ∀ path ∈ paths, Unseen place first second path

variable {place target here : Place} {first second : Disk} {path : Path} {names : List Text}
  {content : Bytes} {held other : Option Entry} {paths : List Path}

/-! ## Following a path -/

/-- No name is looked up in a file, nor where there is nothing. -/
theorem step_of_not_directory (hn : first.entry? place ≠ some .directory) (name : Text) :
    first.step place name =
      .error (if (first.entry? place).isSome then .notADirectory else .notFound) := by
  rw [step]
  cases he : first.entry? place with
  | none => rfl
  | some entry =>
    cases entry with
    | directory => exact absurd he hn
    | file content => rfl

namespace DifferAt

/-- Twins have the same directories to start from. -/
theorem start_eq (hd : DifferAt place first second) (root : Root) :
    second.start root = first.start root := by
  cases root with
  | working => exact hd.working
  | top => rfl
  | doubled => rfl

/-- A step from elsewhere leads to the same place. -/
theorem step_eq (hd : DifferAt place first second) (hh : here ≠ place) (name : Text) :
    second.step here name = first.step here name := by
  rw [step, step, hd.elsewhere hh]

/-- A walk ends alike on both disks, unless it comes to the place with names left and only one of
them has a file there. Then neither fails over a name that is too long. -/
theorem walk_cases (hd : DifferAt place first second) (here : Place) (names : List Text) :
    second.walk here names = first.walk here names ∨
    (second.entry? place).isSome ≠ (first.entry? place).isSome ∧
      ∃ fault other, first.walk here names = .error fault ∧ second.walk here names = .error other ∧
        fault ≠ .nameTooLong ∧ other ≠ .nameTooLong := by
  have hshort : ∀ kind : Bool,
      (if kind then FileFault.notADirectory else FileFault.notFound) ≠ .nameTooLong := by
    intro kind he
    cases kind <;> exact absurd (congrArg FileFault.code he) (by decide)
  induction names generalizing here with
  | nil => exact Or.inl rfl
  | cons name names ih =>
    rw [walk, walk]
    by_cases hh : here = place
    · rw [hh, step_of_not_directory hd.notDirectory, step_of_not_directory hd.otherNotDirectory]
      by_cases hkind : (second.entry? place).isSome = (first.entry? place).isSome
      · rw [hkind]
        exact Or.inl rfl
      · exact Or.inr ⟨hkind, _, _, rfl, rfl, hshort _, hshort _⟩
    · rw [hd.step_eq hh]
      cases first.step here name with
      | error fault => exact Or.inl rfl
      | ok next => exact ih next

/-- So a path leads to the same place on both disks, or nowhere for the same reason, unless it leads
on from the place and only one of them has a file there. -/
theorem locate_cases (hd : DifferAt place first second) (path : Path) :
    second.locate path = first.locate path ∨
    (second.entry? place).isSome ≠ (first.entry? place).isSome ∧
      ∃ fault other, first.locate path = .error (.refused fault) ∧
        second.locate path = .error (.refused other) ∧
        fault ≠ .nameTooLong ∧ other ≠ .nameTooLong := by
  unfold locate
  rw [hd.start_eq]
  split
  · exact Or.inl rfl
  · split
    · exact Or.inl rfl
    · rcases hd.walk_cases (.ofNames (first.start path.root)) path.names with
        hw | ⟨hkind, fault, other, hf, ho, hshort, hotherShort⟩
      · rw [hw]
        exact Or.inl rfl
      · rw [hf, ho]
        exact Or.inr ⟨hkind, fault, other, rfl, rfl, hshort, hotherShort⟩

/-- Where both disks have a file at the place, or both nothing, every path that leads to another
place, or nowhere, is followed alike. -/
theorem unseen_of_isSome_eq (hd : DifferAt place first second)
    (hkind : (second.entry? place).isSome = (first.entry? place).isSome)
    (hl : first.locate path ≠ .ok place) : Unseen place first second path := by
  refine { alike := ?_, elsewhere := hl }
  rcases hd.locate_cases path with he | ⟨hne, -⟩
  · exact he
  · exact absurd hkind hne

/-! ## Files that are made -/

/-- A file made at the place is the only difference. -/
theorem of_set (hn : first.entry? place ≠ some .directory) (content : Bytes) :
    DifferAt place first (first.set place (.file content)) := by
  refine { working := rfl, elsewhere := fun ho => entry?_set_of_ne ho _, notDirectory := hn,
           otherNotDirectory := ?_ }
  rw [entry?_set_same (ne_nil_of_not_directory hn)]
  intro he
  cases he

/-- What is made at another place on both disks adds no difference. -/
theorem set (hd : DifferAt place first second) (ht : target ≠ place) (entry : Entry) :
    DifferAt place (first.set target entry) (second.set target entry) := by
  refine { working := hd.working, elsewhere := ?_, notDirectory := ?_, otherNotDirectory := ?_ }
  · intro other ho
    by_cases hother : other = target
    · subst hother
      unfold entry?
      split
      · rfl
      · exact (lookup_setEntry_same _ entry _).trans (lookup_setEntry_same _ entry _).symm
    · rw [entry?_set_of_ne hother, entry?_set_of_ne hother, hd.elsewhere ho]
  · rw [entry?_set_of_ne ht.symm]
    exact hd.notDirectory
  · rw [entry?_set_of_ne ht.symm]
    exact hd.otherNotDirectory

/-- Walks that end alike still do when a file is made at another place: where it is in the way, they
now fail over it on both disks. -/
theorem walk_set_eq (hd : DifferAt place first second) (ht : target ≠ place)
    (hn : first.entry? target ≠ some .directory)
    (hw : second.walk here names = first.walk here names) :
    (second.set target (.file content)).walk here names =
      (first.set target (.file content)).walk here names := by
  have hset := hd.set ht (.file content)
  induction names generalizing here with
  | nil => rfl
  | cons name names ih =>
    rw [walk, walk] at hw ⊢
    by_cases hh : here = place
    · -- Nothing changes at the place, so both still fail there, and over the same.
      have hne : here ≠ target := fun h => ht (h.symm.trans hh)
      have hstep : ∀ disk : Disk,
          (disk.set target (.file content)).step here name = disk.step here name := by
        intro disk
        rw [step, step, entry?_set_of_ne hne]
      rw [hstep, hstep]
      rw [hh, step_of_not_directory hd.notDirectory, step_of_not_directory hd.otherNotDirectory]
        at hw ⊢
      exact hw
    · rw [hset.step_eq hh]
      rw [hd.step_eq hh] at hw
      cases hs : first.step here name with
      | ok next =>
        rw [hs] at hw
        rw [step_set hn hs]
        exact ih hw
      | error fault =>
        cases hs' : (first.set target (.file content)).step here name with
        | error other => rfl
        | ok next =>
          have hbefore := step_of_step_set (ne_nil_of_not_directory hn) hs'
          cases hs.symm.trans hbefore

/-- A path that leads to the same place keeps doing so after a write elsewhere. -/
theorem locate_set_eq (hd : DifferAt place first second) (ht : target ≠ place)
    (hn : first.entry? target ≠ some .directory)
    (hl : second.locate path = first.locate path) :
    (second.set target (.file content)).locate path =
      (first.set target (.file content)).locate path := by
  unfold locate at hl ⊢
  rw [start_set, start_set, hd.start_eq]
  rw [hd.start_eq] at hl
  cases hb : PathFault.of? path.text with
  | some fault => rfl
  | none =>
    rw [hb] at hl
    dsimp only at hl ⊢
    split
    · rfl
    · next hlength =>
      rw [if_neg hlength, if_neg hlength] at hl
      have hw : second.walk (.ofNames (first.start path.root)) path.names =
          first.walk (.ofNames (first.start path.root)) path.names := by
        cases hf : first.walk (.ofNames (first.start path.root)) path.names <;>
          cases hs : second.walk (.ofNames (first.start path.root)) path.names <;>
            rw [hf, hs] at hl <;> cases hl <;> rfl
      rw [hd.walk_set_eq ht hn hw]

end DifferAt

/-- What a path does not see, it does not see after a write elsewhere. -/
theorem Unseen.set (hd : DifferAt place first second) (hu : Unseen place first second path)
    (ht : target ≠ place) (hn : first.entry? target ≠ some .directory) :
    Unseen place (first.set target (.file content)) (second.set target (.file content)) path :=
  { alike := hd.locate_set_eq ht hn hu.alike
    elsewhere := fun hl => hu.elsewhere ((locate_set_file_iff hn).mp hl) }

/-! ## Reading and writing -/

namespace Twins

/-- Disks that are twins at a place hold the same where an unseen path leads. -/
theorem entry?_eq_of_locate (ht : Twins place held other paths first second) (hp : path ∈ paths)
    (hl : first.locate path = .ok target) :
    target ≠ place ∧ second.locate path = .ok target ∧
      second.entry? target = first.entry? target := by
  have hu := ht.unseen path hp
  have hne : target ≠ place := by
    rintro rfl
    exact hu.elsewhere hl
  exact ⟨hne, hu.alike.trans hl, ht.differ.elsewhere hne⟩

/-- What is read on a path of the twins is the same. -/
theorem read_eq (ht : Twins place held other paths first second) (hp : path ∈ paths) :
    second.read path = first.read path := by
  cases hl : first.locate path with
  | error fault =>
    have hs := (ht.unseen path hp).alike.trans hl
    rw [read_of_locate_error hl, read_of_locate_error hs]
  | ok target =>
    obtain ⟨-, hs, he⟩ := ht.entry?_eq_of_locate hp hl
    rw [read, read, hl, hs]
    dsimp only
    rw [he]

/-- A write elsewhere leaves twins. -/
theorem set (ht : Twins place held other paths first second) (hne : target ≠ place)
    (hn : first.entry? target ≠ some .directory) :
    Twins place held other paths (first.set target (.file content))
      (second.set target (.file content)) :=
  { differ := ht.differ.set hne _
    holds := (entry?_set_of_ne hne.symm _).trans ht.holds
    otherHolds := (entry?_set_of_ne hne.symm _).trans ht.otherHolds
    unseen := fun path hp => (ht.unseen path hp).set ht.differ hne hn }

/-- A write along an unseen path fails over the same, or it succeeds on both disks and they are
twins thereafter. -/
theorem write_cases (ht : Twins place held other paths first second) (hp : path ∈ paths)
    (content : Bytes) :
    (∃ fault, first.write path content = .error fault ∧
      second.write path content = .error fault) ∨
    ∃ after otherAfter, first.write path content = .ok after ∧
      second.write path content = .ok otherAfter ∧
      Twins place held other paths after otherAfter := by
  cases hl : first.locate path with
  | error fault =>
    have hs := (ht.unseen path hp).alike.trans hl
    exact Or.inl ⟨fault, write_of_locate_error hl content, write_of_locate_error hs content⟩
  | ok target =>
    obtain ⟨hne, hs, he⟩ := ht.entry?_eq_of_locate hp hl
    rw [write_of_locate hl, write_of_locate hs, he]
    by_cases hn : first.entry? target = some .directory
    · rw [if_pos hn, if_pos hn]
      exact Or.inl ⟨_, rfl, rfl⟩
    · rw [if_neg hn, if_neg hn]
      exact Or.inr ⟨_, _, rfl, rfl, ht.set hne hn⟩

end Twins

/-! ## Paths as they are shown, and the place of a configuration -/

theorem DifferAt.resolve_eq (hd : DifferAt place first second) (path : Path) :
    second.resolve path = first.resolve path := by
  rw [resolve, resolve, hd.start_eq]

/-- A directory is one on both disks, because the place is none. -/
theorem DifferAt.isDirectory_eq (hd : DifferAt place first second) (path : Path) :
    second.isDirectory path = first.isDirectory path := by
  unfold isDirectory
  rcases hd.locate_cases path with hl | ⟨-, fault, other, hf, ho, -, -⟩
  · rw [hl]
    cases first.locate path with
    | error fault => rfl
    | ok target =>
      dsimp only
      by_cases ht : target = place
      · rw [ht, beq_false_of_ne hd.notDirectory, beq_false_of_ne hd.otherNotDirectory]
      · rw [hd.elsewhere ht]
  · rw [hf, ho]

end Disk

/-- The place of a configuration does not depend on what a file says. -/
theorem Config.locate_eq_of_differAt {place : Place} {first second : Disk}
    (hd : Disk.DifferAt place first second) (environment : Environment) (path : Path) :
    locate environment second path = locate environment first path := by
  unfold locate
  cases expand environment path with
  | error cause => rfl
  | ok path =>
    dsimp only
    rw [hd.resolve_eq, hd.isDirectory_eq]
    rcases hd.locate_cases path with hl | ⟨-, fault, other, hf, ho, hshort, hotherShort⟩
    · rw [hl]
    · rw [hf, ho]
      dsimp only
      rw [if_neg hshort, if_neg hotherShort]

end StyleTypings
