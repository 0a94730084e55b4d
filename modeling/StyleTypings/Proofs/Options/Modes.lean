import StyleTypings.Options

/-!
# Modes that a host asks for

Any value can be given as a mode, and it is written out before it is compared with the two
words. This lets nothing through but the words themselves: apart from texts, every value is
written with some character that is not a small letter, or it is a floating-point number
without a finite value and written in three letters. So a host asks for a mode by its word, or
for emitting by not saying anything.
-/

namespace StyleTypings

/-- A word stands for a mode exactly if it is its text. -/
theorem Mode.ofText?_eq_some_iff {word : Text} {mode : Mode} :
    Mode.ofText? word = some mode ↔ word = mode.text := by
  have hne : Mode.verify.text ≠ Mode.emit.text := by decide
  unfold Mode.ofText?
  split
  · next he =>
    subst he
    cases mode with
    | emit => simp
    | verify => simp [hne.symm]
  · next he =>
    split
    · next hv =>
      subst hv
      cases mode <;> simp [hne]
    · next hv => cases mode <;> simp [he, hv]

theorem Mode.text_injective {first second : Mode} (he : first.text = second.text) :
    first = second := by
  have hf := Mode.ofText?_eq_some_iff.mpr he
  rw [Mode.ofText?_eq_some_iff.mpr rfl] at hf
  exact Option.some.inj hf

namespace Text

variable {c : CodePoint} {front text : Text}

end Text

open Text

end StyleTypings
