/-!
# Edit scripts

An edit script turns one list of lines into another: it keeps, removes and adds single lines.
`script` finds one by looking for the longest run of lines that the two lists have in common,
and then treats what lies before the run and what lies behind it in the same way. Of several
longest runs the one that starts first in the old list counts, and of those the one that starts
first in the new list. Lines that stand very often in a long new list do not make a run, but
every run is then widened as far as equal lines reach. Reading back the old and the new list of
a script gives the two lists it was made from.
-/

namespace StyleTypings.Diff

/-- One line of an edit script. -/
inductive Step (α : Type) where
  /-- The line stands in both lists. -/
  | keep (line : α)
  /-- The line stands in the old list only. -/
  | remove (line : α)
  /-- The line stands in the new list only. -/
  | add (line : α)
  deriving DecidableEq, Repr

namespace Step

variable {α : Type}

/-- The line in the old list, if there is one. -/
def old? : Step α → Option α
  | keep line | remove line => some line
  | add _ => none

/-- The line in the new list, if there is one. -/
def new? : Step α → Option α
  | keep line | add line => some line
  | remove _ => none

/-- Whether the lists differ here. -/
def isChange : Step α → Bool
  | keep _ => false
  | _ => true

end Step

/-- The old list of a script. -/
def oldLines {α : Type} (steps : List (Step α)) : List α := steps.filterMap Step.old?

/-- The new list of a script. -/
def newLines {α : Type} (steps : List (Step α)) : List α := steps.filterMap Step.new?

/-- A run of lines that two lists have in common. -/
structure CommonRun where
  /-- Where it starts in the old list. -/
  old : Nat
  /-- Where it starts in the new list. -/
  new : Nat
  /-- How many lines it has. -/
  size : Nat
  deriving DecidableEq, Repr

variable {α : Type} [DecidableEq α]

/-- How many lines satisfying `usable` two lists have in common at their beginnings. -/
def commonLength (usable : α → Bool) : List α → List α → Nat
  | x :: xs, y :: ys => if x = y && usable x then commonLength usable xs ys + 1 else 0
  | _, _ => 0

/-- The better of `best` and the longest run that starts at the beginning of `old`, which is
line `i`, and somewhere in `new`, of which the first line is `j`. -/
def longestFrom (usable : α → Bool) (old : List α) (i : Nat) :
    List α → Nat → CommonRun → CommonRun
  | [], _, best => best
  | y :: new, j, best =>
    let size := commonLength usable old (y :: new)
    longestFrom usable old i new (j + 1) (if best.size < size then ⟨i, j, size⟩ else best)

/-- The better of `best` and the longest run that starts somewhere in `old`, of which the first
line is `i`. -/
def longestIn (usable : α → Bool) (new : List α) : List α → Nat → CommonRun → CommonRun
  | [], _, best => best
  | x :: old, i, best =>
    longestIn usable new old (i + 1) (longestFrom usable (x :: old) i new 0 best)

/-- The longest run of usable lines, widened on both sides by all lines that are equal. -/
def longestRun (usable : α → Bool) (old new : List α) : CommonRun :=
  let run := longestIn usable new old 0 ⟨0, 0, 0⟩
  let lead := commonLength (fun _ => true) (old.take run.old).reverse (new.take run.new).reverse
  let tail :=
    commonLength (fun _ => true) (old.drop (run.old + run.size)) (new.drop (run.new + run.size))
  ⟨run.old - lead, run.new - lead, lead + run.size + tail⟩

theorem commonLength_le_old (usable : α → Bool) (old new : List α) :
    commonLength usable old new ≤ old.length := by
  induction old generalizing new with
  | nil => simp [commonLength]
  | cons x old ih =>
    cases new with
    | nil => simp [commonLength]
    | cons y new =>
      unfold commonLength
      have := ih new
      split
      · simp only [List.length_cons]; omega
      · exact Nat.zero_le _

theorem longestFrom_within (usable : α → Bool) (old new : List α) (i j : Nat) (best : CommonRun)
    {bound : Nat} (hi : i + old.length ≤ bound) (hb : best.old + best.size ≤ bound) :
    (longestFrom usable old i new j best).old + (longestFrom usable old i new j best).size ≤
      bound := by
  induction new generalizing j best with
  | nil => exact hb
  | cons y new ih =>
    unfold longestFrom
    refine ih _ _ ?_
    have := commonLength_le_old usable old (y :: new)
    split
    · show i + commonLength usable old (y :: new) ≤ bound
      omega
    · exact hb

theorem longestIn_within (usable : α → Bool) (new old : List α) (i : Nat) (best : CommonRun)
    {bound : Nat} (hi : i + old.length ≤ bound) (hb : best.old + best.size ≤ bound) :
    (longestIn usable new old i best).old + (longestIn usable new old i best).size ≤ bound := by
  induction old generalizing i best with
  | nil => exact hb
  | cons x old ih =>
    unfold longestIn
    refine ih _ _ (by simp at hi; omega) ?_
    exact longestFrom_within usable (x :: old) new i 0 best hi hb

/-- The longest run lies within the old list. -/
theorem longestRun_within_old (usable : α → Bool) (old new : List α) :
    (longestRun usable old new).old + (longestRun usable old new).size ≤ old.length := by
  have hrun : (longestIn usable new old 0 ⟨0, 0, 0⟩).old +
      (longestIn usable new old 0 ⟨0, 0, 0⟩).size ≤ old.length :=
    longestIn_within usable new old 0 ⟨0, 0, 0⟩ (by simp) (by simp)
  simp only [longestRun]
  have hlead := commonLength_le_old (fun _ => true)
    (old.take (longestIn usable new old 0 ⟨0, 0, 0⟩).old).reverse
    (new.take (longestIn usable new old 0 ⟨0, 0, 0⟩).new).reverse
  have htail := commonLength_le_old (fun _ => true)
    (old.drop ((longestIn usable new old 0 ⟨0, 0, 0⟩).old +
      (longestIn usable new old 0 ⟨0, 0, 0⟩).size))
    (new.drop ((longestIn usable new old 0 ⟨0, 0, 0⟩).new +
      (longestIn usable new old 0 ⟨0, 0, 0⟩).size))
  simp only [List.length_reverse, List.length_take, List.length_drop] at hlead htail
  omega

/-- The script for two lists, with the lines that may start a run given by `usable`. -/
def scriptWith (usable : α → Bool) (old new : List α) : List (Step α) :=
  let run := longestRun usable old new
  if empty : run.size = 0 then old.map .remove ++ new.map .add
  else
    scriptWith usable (old.take run.old) (new.take run.new) ++
      ((old.drop run.old).take run.size).map .keep ++
      scriptWith usable (old.drop (run.old + run.size)) (new.drop (run.new + run.size))
termination_by old.length
decreasing_by
  all_goals
    have within := longestRun_within_old usable old new
    have nonempty : (longestRun usable old new).size ≠ 0 := empty
    simp only [List.length_take, List.length_drop]
    omega

/-- The least length of a new list in which frequent lines are left out of the search. -/
def longList : Nat := 200

/-- The lines that stand too often in a long list: more often than once in a hundred lines and
one time more. -/
def frequentLines (new : List α) : List α :=
  if new.length < longList then []
  else (new.filter fun line => new.length / 100 + 1 < new.count line).eraseDups

/-- The script that turns one list into another. -/
def script (old new : List α) : List (Step α) :=
  let frequent := frequentLines new
  scriptWith (fun line => !frequent.contains line) old new

end StyleTypings.Diff
