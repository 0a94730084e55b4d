import StyleTypings.Diff.Hunk
import StyleTypings.Text.Lines

/-!
# Unified diffs

The unified form of the difference between an existing text and an expected one: two headers,
then the hunks, each under a line that gives its place in both texts. Carriage returns before
line feeds are looked through. Equal texts have an empty diff. A line that lacks its break gets
none, so what follows it stands on the same line.
-/

namespace StyleTypings.Diff

/-- The kept lines shown on either side of a change. -/
def context : Nat := 3

/-- The place of a run of lines: the number of its first line, and its length unless that is
one. An empty run has the number of the line before it. -/
def rangeText (start length : Nat) : Text :=
  if length = 1 then Text.ofNat (start + 1)
  else if length = 0 then Text.ofNat start ++ [',', '0']
  else Text.ofNat (start + 1) ++ .char ',' :: Text.ofNat length

/-- The header of a hunk. -/
def hunkHeader (hunk : Hunk Text) : Text :=
  "@@ -".toText ++ rangeText hunk.oldStart hunk.oldLength ++ " +".toText ++
    rangeText hunk.newStart hunk.newLength ++ " @@\n".toText

/-- A line of a hunk behind the mark of its kind. -/
def stepText : Step Text → Text
  | .keep line => ' ' :: line
  | .remove line => '-' :: line
  | .add line => '+' :: line

/-- The diff lines of a hunk, the header first. -/
def hunkLines (hunk : Hunk Text) : List Text := hunkHeader hunk :: hunk.steps.map stepText

/-- The header that names the existing text. -/
def oldHeader (label : Text) : Text := "--- ".toText ++ label ++ " (existing)\n".toText

/-- The header that names the expected text. -/
def newHeader (label : Text) : Text := "+++ ".toText ++ label ++ " (expected)\n".toText

/-- The lines that a text is compared by. -/
def comparedLines (text : Text) : List Text := Text.lines (Text.crlfToLf text)

/-- The hunks between two texts. -/
def textHunks (existing expected : Text) : List (Hunk Text) :=
  hunks context (script (comparedLines existing) (comparedLines expected))

/-- The lines of the unified diff of two texts. -/
def unifiedLines (label existing expected : Text) : List Text :=
  match textHunks existing expected with
  | [] => []
  | hunk :: rest => oldHeader label :: newHeader label :: (hunk :: rest).flatMap hunkLines

/-- The label of a diff that is given no other. -/
def defaultLabel : Text := "declaration".toText

/-- The unified diff of two texts; an absent text counts as empty. -/
def unified (label : Text) (existing : Option Text) (expected : Text) : Text :=
  (unifiedLines label (existing.getD []) expected).flatten

end StyleTypings.Diff
