import StyleTypings.Proofs.Disk.Writing

/-!
# Where a walk ends

A step along a name that is no double dot leads to a place of this name, so a walk that ends with
such a name leads to a place of it, however its other names lead there. A walk along names without
double dots leads to the place of these names.
-/

namespace StyleTypings.Disk

variable {disk : Disk} {path : Path} {place here target : Place} {name : Text} {names : List Text}

theorem eq_of_step (hd : name ≠ ['.', '.']) (hs : disk.step here name = .ok target) :
    target = here ++ [Utf8.nameBytes name] := by
  unfold step at hs
  rw [if_neg hd] at hs
  split at hs
  · cases hs
  · cases hs
  · split at hs
    · cases hs
    · cases hs
      rfl

/-- A walk that ends with such a name leads to a place of this name. -/
theorem exists_eq_of_walk (hd : name ≠ ['.', '.'])
    (hw : disk.walk here (names ++ [name]) = .ok target) :
    ∃ above, target = above ++ [Utf8.nameBytes name] := by
  induction names generalizing here with
  | nil =>
    rw [List.nil_append, walk] at hw
    cases hs : disk.step here name with
    | error fault =>
      rw [hs] at hw
      cases hw
    | ok next =>
      rw [hs] at hw
      cases hw
      exact ⟨here, eq_of_step hd hs⟩
  | cons first names ih =>
    rw [List.cons_append, walk] at hw
    cases hs : disk.step here first with
    | error fault =>
      rw [hs] at hw
      cases hw
    | ok next =>
      rw [hs] at hw
      exact ih hw

theorem exists_eq_of_locate (hn : path.names = names ++ [name]) (hd : name ≠ ['.', '.'])
    (hl : disk.locate path = .ok place) : ∃ above, place = above ++ [Utf8.nameBytes name] := by
  obtain ⟨-, -, hw⟩ := locate_eq_ok_iff.mp hl
  rw [hn] at hw
  exact exists_eq_of_walk hd hw

end StyleTypings.Disk
