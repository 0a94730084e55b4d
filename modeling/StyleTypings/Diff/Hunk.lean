import StyleTypings.Diff.Script

/-!
# Hunks

A hunk is a part of an edit script that is worth showing: changed lines and the kept lines next
to them. A kept line is shown when fewer than `context` kept lines separate it from a change,
and lines that follow each other without a gap share a hunk. A hunk knows where it starts in the
old and in the new list, so it can be applied without the rest of the script.
-/

namespace StyleTypings.Diff

variable {α : Type}

/-- A run of shown lines of an edit script. -/
structure Hunk (α : Type) where
  /-- How many lines of the old list stand before it. -/
  oldStart : Nat
  /-- How many lines of the new list stand before it. -/
  newStart : Nat
  /-- Its lines. -/
  steps : List (Step α)
  deriving DecidableEq, Repr

namespace Hunk

/-- How many lines of the old list it has. -/
def oldLength (hunk : Hunk α) : Nat := (oldLines hunk.steps).length

/-- How many lines of the new list it has. -/
def newLength (hunk : Hunk α) : Nat := (newLines hunk.steps).length

/-- A line put in front of hunks: into the first of them if that starts right behind the line,
and else as a hunk of its own. -/
def attach (oldStart newStart : Nat) (step : Step α) : List (Hunk α) → List (Hunk α)
  | [] => [⟨oldStart, newStart, [step]⟩]
  | hunk :: hunks =>
    if hunk.oldStart = oldStart + step.old?.toList.length ∧
        hunk.newStart = newStart + step.new?.toList.length then
      ⟨oldStart, newStart, step :: hunk.steps⟩ :: hunks
    else ⟨oldStart, newStart, [step]⟩ :: hunk :: hunks

end Hunk

/-- The hunks of a script of which `old` and `new` lines stand before, the last `since` of them
kept. -/
def hunksFrom (context : Nat) : Nat → Nat → Nat → List (Step α) → List (Hunk α)
  | _, _, _, [] => []
  | since, old, new, step :: steps =>
    let since' := if step.isChange then 0 else since + 1
    let rest := hunksFrom context since' (old + step.old?.toList.length)
      (new + step.new?.toList.length) steps
    if step.isChange || since < context || (steps.take context).any Step.isChange then
      Hunk.attach old new step rest
    else rest

/-- The hunks of a whole script, with `context` kept lines around each change. -/
def hunks (context : Nat) (steps : List (Step α)) : List (Hunk α) :=
  hunksFrom context context 0 0 steps

/-- What becomes of the old list from line `start` on when the hunks are applied to it. -/
def applyFrom : Nat → List (Hunk α) → List α → List α
  | _, [], old => old
  | start, hunk :: hunks, old =>
    let gap := hunk.oldStart - start
    old.take gap ++ newLines hunk.steps ++
      applyFrom (hunk.oldStart + hunk.oldLength) hunks (old.drop (gap + hunk.oldLength))

/-- What becomes of a list when hunks are applied to it. -/
def applyHunks (hunks : List (Hunk α)) (old : List α) : List α := applyFrom 0 hunks old

/-- A step in the opposite direction. -/
def Step.invert : Step α → Step α
  | .keep line => .keep line
  | .remove line => .add line
  | .add line => .remove line

/-- A hunk in the opposite direction. -/
def Hunk.invert (hunk : Hunk α) : Hunk α :=
  ⟨hunk.newStart, hunk.oldStart, hunk.steps.map Step.invert⟩

end StyleTypings.Diff
