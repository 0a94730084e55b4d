import Mathlib.Data.List.Basic
import StyleTypings.Proofs.CommandLine.Places

/-!
# Each resource as if it were alone

Every resource of a run reads its own compiled module and looks after its own declaration. Where no
two resources have their declarations at one place, each of them comes to what it would come to as
the only one, and leaves at its place what it would leave. So what a run comes to is told by the
resources one by one, and not by their order.
-/

namespace StyleTypings.CommandLine

/-- The attempt at a resource as the only one. -/
def alone (disk : Disk) (options : Options) (resource : Text) : Attempt :=
  ⟨resource, disk, reconcileResource disk options none resource⟩

/-- The declarations of two resources do not lie at one place. -/
def Apart (disk : Disk) (first second : Text) : Prop :=
  ∀ place, DeclaresAt disk first place → ¬DeclaresAt disk second place

/-- Some of the resources has its declaration at the place. -/
def SomeDeclaresAt (disk : Disk) (resources : List Text) (place : Place) : Prop :=
  ∃ resource ∈ resources, DeclaresAt disk resource place

/-- The attempt comes to what it comes to as the only one. -/
structure LikeAlone (disk : Disk) (options : Options) (attempt : Attempt) : Prop where
  /-- The results are alike. -/
  result : Alike (alone disk options attempt.resource).run.result attempt.run.result
  /-- The working directory is the same. -/
  working : attempt.run.disk.working = disk.working

variable {disk now : Disk} {options : Options} {compiled : Option Path} {attempt : Attempt}
  {resource first second : Text} {resources earlier permuted : List Text} {place : Place}

theorem Apart.symm (ha : Apart disk first second) : Apart disk second first :=
  fun place hs hf => ha place hf hs

/-! ## What a run changes -/

/-- A run changes at most the files of the declarations of its resources. -/
theorem keeps_diskBehind (disk : Disk) (options : Options) (compiled : Option Path)
    (resources : List Text) : Disk.Keeps (SomeDeclaresAt disk resources) disk
      (diskBehind disk (attempts options compiled disk resources)) := by
  induction resources generalizing disk with
  | nil => exact .refl _ _
  | cons resource resources ih =>
    have hone := keeps_reconcileResource disk options compiled resource
    refine Disk.Keeps.trans ?_ ((ih _).mono ?_)
    · exact hone.mono fun place hd => ⟨resource, List.mem_cons_self, hd⟩
    · rintro place ⟨other, ho, hd⟩
      exact ⟨other, List.mem_cons_of_mem _ ho, hone.declaresAt_iff.mp hd⟩

/-- What one attempt changes is added to what had changed. -/
theorem keeps_snoc (hk : Disk.Keeps (SomeDeclaresAt disk earlier) disk now) (resource : Text) :
    Disk.Keeps (SomeDeclaresAt disk (earlier ++ [resource])) disk
      (reconcileResource now options compiled resource).disk := by
  refine Disk.Keeps.trans (hk.mono ?_)
    ((keeps_reconcileResource now options compiled resource).mono ?_)
  · rintro place ⟨other, ho, hd⟩
    exact ⟨other, List.mem_append_left _ ho, hd⟩
  · intro place hd
    exact ⟨resource, List.mem_append_right _ List.mem_cons_self, hk.declaresAt_iff.mp hd⟩

/-- The compiled module of a resource lies at no place of a declaration. -/
theorem not_someDeclaresAt_of_compiled (hl : disk.locate (compiledPath none resource) = .ok place) :
    ¬SomeDeclaresAt disk earlier place := by
  rintro ⟨other, -, hother⟩
  exact not_declaresAt_of_compiled hl hother

/-- A place of a resource that is apart from others is no place of theirs. -/
theorem not_someDeclaresAt (ha : ∀ other ∈ earlier, Apart disk other resource)
    (hd : DeclaresAt disk resource place) : ¬SomeDeclaresAt disk earlier place := by
  rintro ⟨other, ho, hother⟩
  exact ha other ho place hother hd

/-- Behind others that it is apart from, a resource comes to what it comes to as the only one, and
the same is left at its place. -/
theorem likeAlone_of_keeps (options : Options)
    (hk : Disk.Keeps (SomeDeclaresAt disk earlier) disk now)
    (ha : ∀ other ∈ earlier, Apart disk other resource) :
    LikeAlone disk options ⟨resource, now, reconcileResource now options none resource⟩ ∧
      ∀ place, DeclaresAt disk resource place →
        Disk.entry? (reconcileResource now options none resource).disk place =
          Disk.entry? (alone disk options resource).run.disk place := by
  obtain ⟨halike, hplace⟩ := reconcileResource_elsewhere options hk
    (fun _ hl => not_someDeclaresAt_of_compiled hl) fun _ hd => not_someDeclaresAt ha hd
  refine ⟨⟨halike, ?_⟩, hplace⟩
  exact (keeps_reconcileResource now options none resource).working.trans hk.working

/-- The same of all resources of a run, behind others that they are apart from. -/
theorem attempts_likeAlone_of_keeps (hk : Disk.Keeps (SomeDeclaresAt disk earlier) disk now)
    (ha : ∀ resource ∈ resources, ∀ other ∈ earlier, Apart disk other resource)
    (hp : resources.Pairwise (Apart disk)) :
    (∀ attempt ∈ attempts options none now resources, LikeAlone disk options attempt) ∧
      ∀ resource ∈ resources, ∀ place, DeclaresAt disk resource place →
        Disk.entry? (diskBehind now (attempts options none now resources)) place =
          Disk.entry? (alone disk options resource).run.disk place := by
  induction resources generalizing now earlier with
  | nil => exact ⟨fun _ h => absurd h List.not_mem_nil, fun _ h => absurd h List.not_mem_nil⟩
  | cons resource resources ih =>
    obtain ⟨hapart, hothers⟩ := List.forall_mem_cons.mp ha
    obtain ⟨hfirst, hrest⟩ := List.pairwise_cons.mp hp
    obtain ⟨hlike, hplace⟩ := likeAlone_of_keeps options hk hapart
    have hnext : Disk.Keeps (SomeDeclaresAt disk (earlier ++ [resource])) disk
        (reconcileResource now options none resource).disk := keeps_snoc hk resource
    have hlater : ∀ later ∈ resources, ∀ other ∈ earlier ++ [resource], Apart disk other later := by
      intro later hl other ho
      rcases List.mem_append.mp ho with ho | ho
      · exact hothers later hl other ho
      · rw [List.mem_singleton.mp ho]
        exact hfirst later hl
    obtain ⟨hlikes, hplaces⟩ := ih hnext hlater hrest
    refine ⟨List.forall_mem_cons.mpr ⟨hlike, hlikes⟩, List.forall_mem_cons.mpr ⟨?_, hplaces⟩⟩
    intro place hd
    -- The resources behind this one are apart from it, so they leave its place alone.
    have hbehind := keeps_diskBehind (reconcileResource now options none resource).disk options none
      resources
    have hunchanged : ¬SomeDeclaresAt (reconcileResource now options none resource).disk resources
        place := by
      rintro ⟨later, hl, hlaterAt⟩
      exact hfirst later hl place hd (hnext.declaresAt_iff.mp hlaterAt)
    exact (hbehind.holds hunchanged).trans (hplace place hd)

/-- Every resource of a run comes to what it comes to as the only one, and the same is left at its
place. -/
theorem attempts_likeAlone (options : Options) (hp : resources.Pairwise (Apart disk)) :
    (∀ attempt ∈ attempts options none disk resources, LikeAlone disk options attempt) ∧
      ∀ resource ∈ resources, ∀ place, DeclaresAt disk resource place →
        Disk.entry? (diskBehind disk (attempts options none disk resources)) place =
          Disk.entry? (alone disk options resource).run.disk place :=
  attempts_likeAlone_of_keeps (Disk.Keeps.refl (SomeDeclaresAt disk []) disk)
    (fun _ _ _ h => absurd h List.not_mem_nil) hp

/-! ## What is told of a run -/

namespace LikeAlone

theorem contained_iff (hl : LikeAlone disk options attempt) :
    attempt.Contained ↔ (alone disk options attempt.resource).Contained :=
  hl.result.contained_iff.symm

theorem isSome_failure?_eq (hl : LikeAlone disk options attempt) :
    attempt.failure?.isSome = (alone disk options attempt.resource).failure?.isSome := by
  unfold Attempt.failure?
  rcases hl.result with heq | ⟨cause, other, ha, ho, -, -⟩
  · rw [heq]
  · rw [ha, ho]
    rfl

/-- The line about success depends on the outcome and on the working directory. -/
theorem line?_eq (hl : LikeAlone disk options attempt) :
    attempt.line? = (alone disk options attempt.resource).line? := by
  have hworking : (alone disk options attempt.resource).run.disk.working =
      attempt.run.disk.working :=
    (keeps_reconcileResource disk options none attempt.resource).working.trans hl.working.symm
  have hline (outcome : Outcome) : successLine attempt.run.disk outcome =
      successLine (alone disk options attempt.resource).run.disk outcome := by
    unfold successLine shownPath Disk.resolve Disk.start
    rw [hworking]
  unfold Attempt.line?
  rcases hl.result with heq | ⟨cause, other, ha, ho, -, -⟩
  · rw [heq]
    cases attempt.run.result with
    | ok outcome => exact congrArg some (hline outcome)
    | error cause => rfl
  · rw [ha, ho]

end LikeAlone

/-- All failures of a run are contained exactly if each resource's is as the only one. -/
theorem contained_iff_alone (hp : resources.Pairwise (Apart disk)) :
    (∀ attempt ∈ attempts options none disk resources, attempt.Contained) ↔
      ∀ resource ∈ resources, (alone disk options resource).Contained := by
  have hlikes := (attempts_likeAlone options hp).1
  calc (∀ attempt ∈ attempts options none disk resources, attempt.Contained)
      ↔ ∀ attempt ∈ attempts options none disk resources,
          (alone disk options attempt.resource).Contained :=
        forall₂_congr fun attempt ha => (hlikes attempt ha).contained_iff
    _ ↔ ∀ resource ∈ (attempts options none disk resources).map Attempt.resource,
          (alone disk options resource).Contained := by
        rw [List.forall_mem_map]
    _ ↔ ∀ resource ∈ resources, (alone disk options resource).Contained := by
        rw [map_resource_attempts]

/-- The resources that a run fails over are those that fail as the only ones. -/
theorem failing_attempts (hp : resources.Pairwise (Apart disk)) :
    failing (attempts options none disk resources) =
      resources.filter fun resource => (alone disk options resource).failure?.isSome := by
  have hlikes := (attempts_likeAlone options hp).1
  calc failing (attempts options none disk resources)
      = ((attempts options none disk resources).filter fun attempt =>
          (alone disk options attempt.resource).failure?.isSome).map Attempt.resource :=
        congrArg _ (List.filter_congr fun attempt ha => (hlikes attempt ha).isSome_failure?_eq)
    _ = ((attempts options none disk resources).map Attempt.resource).filter fun resource =>
          (alone disk options resource).failure?.isSome := by
        rw [List.filter_map]
        rfl
    _ = resources.filter fun resource => (alone disk options resource).failure?.isSome := by
        rw [map_resource_attempts]

/-- The lines about success are those of the resources as the only ones. -/
theorem lines_attempts (hp : resources.Pairwise (Apart disk)) :
    (attempts options none disk resources).filterMap Attempt.line? =
      resources.filterMap fun resource => (alone disk options resource).line? := by
  have hlikes := (attempts_likeAlone options hp).1
  calc (attempts options none disk resources).filterMap Attempt.line?
      = (attempts options none disk resources).filterMap fun attempt =>
          (alone disk options attempt.resource).line? :=
        List.filterMap_congr fun attempt ha => (hlikes attempt ha).line?_eq
    _ = ((attempts options none disk resources).map Attempt.resource).filterMap fun resource =>
          (alone disk options resource).line? := by
        rw [List.filterMap_map]
        rfl
    _ = resources.filterMap fun resource => (alone disk options resource).line? := by
        rw [map_resource_attempts]

end StyleTypings.CommandLine
