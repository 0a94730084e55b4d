/-!
# Text

Text is a list of code points, so every definition on it is a recursion that a proof can
follow. A code point is a character or a surrogate: one half of a pair, which can stand alone in
a text but in no file. This module holds the operations that more than one part of the library
needs: taking a leading piece off, cutting at the first occurrence of a mark, and writing
numbers. The lemmas say that a removed lead and a cut lose nothing.
-/

namespace StyleTypings

/-- An element of a text. -/
inductive CodePoint where
  /-- A character. -/
  | char (c : Char)
  /-- A surrogate, counted from the first one. -/
  | surrogate (offset : Fin 0x800)
  deriving DecidableEq, Repr

namespace CodePoint

/-- A character that is written out stands for its code point. -/
instance (n : Nat) : CoeDep Char (.ofNat n) CodePoint := ⟨char (.ofNat n)⟩

/-- The number of a code point. -/
def toNat : CodePoint → Nat
  | char c => c.toNat
  | surrogate offset => 0xD800 + offset

/-- The code point with a number; there is one for each number below `0x110000`. -/
def ofNat (n : Nat) : CodePoint :=
  if h : 0xD800 ≤ n ∧ n < 0xE000 then surrogate ⟨n - 0xD800, by omega⟩ else char (Char.ofNat n)

/-- Code points are in the order of their numbers. -/
instance : LT CodePoint := ⟨fun c d => c.toNat < d.toNat⟩

instance (c d : CodePoint) : Decidable (c < d) := inferInstanceAs (Decidable (c.toNat < d.toNat))

instance : LE CodePoint := ⟨fun c d => c.toNat ≤ d.toNat⟩

instance (c d : CodePoint) : Decidable (c ≤ d) := inferInstanceAs (Decidable (c.toNat ≤ d.toNat))

/-- Whether it is a surrogate. -/
def isSurrogate : CodePoint → Bool
  | char _ => false
  | surrogate _ => true

/-- Whether it is a decimal digit. -/
def isDigit : CodePoint → Bool
  | char c => c.isDigit
  | surrogate _ => false

/-- Whether it is a small letter of the Latin alphabet. -/
def isLower : CodePoint → Bool
  | char c => c.isLower
  | surrogate _ => false

/-- Whether it is a capital letter of the Latin alphabet. -/
def isUpper : CodePoint → Bool
  | char c => c.isUpper
  | surrogate _ => false

/-- Whether it is a letter of the Latin alphabet or a decimal digit. -/
def isAlphanum : CodePoint → Bool
  | char c => c.isAlphanum
  | surrogate _ => false

/-- A capital letter of the Latin alphabet made small; anything else stays. -/
def toLower : CodePoint → CodePoint
  | char c => char c.toLower
  | surrogate offset => surrogate offset

/-- A small letter of the Latin alphabet made a capital one; anything else stays. -/
def toUpper : CodePoint → CodePoint
  | char c => char c.toUpper
  | surrogate offset => surrogate offset

end CodePoint

/-- Text as the code points in order. -/
abbrev Text := List CodePoint

/-- Characters as a text. -/
def Text.ofChars (chars : List Char) : Text := chars.map .char

/-- Characters stand for a text, and those that are written out stand for their own code points. -/
instance : Coe (List Char) Text := ⟨.ofChars⟩

instance : CoeDep (List Char) [] Text := ⟨[]⟩

instance (c : Char) (chars : List Char) [CoeDep (List Char) chars Text] :
    CoeDep (List Char) (c :: chars) Text := ⟨.char c :: CoeDep.coe chars⟩

end StyleTypings

/-- The characters of a string as a text. -/
def String.toText (string : String) : StyleTypings.Text := .ofChars string.toList

/-- A string that is written out is a list of characters. -/
theorem String.toText_ofList {chars : List Char} : (String.ofList chars).toText = .ofChars chars :=
  congrArg StyleTypings.Text.ofChars String.toList_ofList

namespace StyleTypings

namespace Text

/-- What follows `lead`, when the text starts with it. -/
def after? : Text → Text → Option Text
  | [], text => some text
  | _ :: _, [] => none
  | l :: lead, c :: text => if l = c then after? lead text else none

/-- The text before and after the leftmost occurrence of `mark`. -/
def cutAt? (mark : Text) : Text → Option (Text × Text)
  | [] => (after? mark []).map ([], ·)
  | c :: text =>
    match after? mark (c :: text) with
    | some tail => some ([], tail)
    | none => (cutAt? mark text).map fun cut => (c :: cut.1, cut.2)

/-- Whether `part` stands somewhere in the text. -/
def holds (text part : Text) : Bool := (cutAt? part text).isSome

/-- The pieces between occurrences of one character; there is one piece more than there are
occurrences. -/
def splitAtChar (mark : CodePoint) : Text → List Text
  | [] => [[]]
  | c :: text =>
    if c = mark then [] :: splitAtChar mark text
    else match splitAtChar mark text with
      | [] => [[c]]
      | piece :: pieces => (c :: piece) :: pieces

/-- The pieces with `separator` between each two of them. -/
def join (separator : Text) (pieces : List Text) : Text := List.intercalate separator pieces

/-- A natural number in decimal digits. -/
def ofNat (n : Nat) : Text := .ofChars (Nat.toDigits 10 n)

/-- A whole number in decimal digits, with a leading minus sign below zero. -/
def ofInt : Int → Text
  | .ofNat n => ofNat n
  | .negSucc n => '-' :: ofNat (n + 1)

/-- Zeros put in front of the text until it has `width` characters. -/
def zeroPadded (width : Nat) (text : Text) : Text :=
  List.replicate (width - text.length) (.char '0') ++ text

/-- Capital letters of the Latin alphabet made small; every other character stays. -/
def lowerLatin (text : Text) : Text := text.map CodePoint.toLower

theorem after?_eq_some_iff {lead text tail : Text} :
    after? lead text = some tail ↔ text = lead ++ tail := by
  induction lead generalizing text with
  | nil => simp [after?, eq_comm]
  | cons l lead ih =>
    cases text with
    | nil => simp [after?]
    | cons c text =>
      by_cases h : l = c
      · subst h; simp [after?, ih]
      · simp [after?, h, Ne.symm h]

theorem after?_append (lead tail : Text) : after? lead (lead ++ tail) = some tail :=
  after?_eq_some_iff.2 rfl

/-- A cut loses nothing: the parts around the mark give the text back. -/
theorem eq_of_cutAt? {mark text before tail : Text}
    (h : cutAt? mark text = some (before, tail)) : text = before ++ mark ++ tail := by
  induction text generalizing before with
  | nil =>
    simp only [cutAt?, Option.map_eq_some_iff, Prod.mk.injEq] at h
    obtain ⟨_, ha, rfl, rfl⟩ := h
    simpa using after?_eq_some_iff.1 ha
  | cons c text ih =>
    simp only [cutAt?] at h
    split at h
    · next hlead =>
      simp only [Option.some.injEq, Prod.mk.injEq] at h
      obtain ⟨rfl, rfl⟩ := h
      simpa using after?_eq_some_iff.1 hlead
    · simp only [Option.map_eq_some_iff, Prod.mk.injEq] at h
      obtain ⟨⟨b, t⟩, hcut, rfl, rfl⟩ := h
      simp [ih hcut]

end Text

end StyleTypings
