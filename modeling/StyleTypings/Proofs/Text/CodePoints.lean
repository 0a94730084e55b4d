import StyleTypings.Text.Basic

/-!
# Code points and their numbers

A code point is known by its number: those of the characters leave out exactly the numbers of the
surrogates. So code points are in a linear order, and texts are in the order that it gives them. A
text is plain if no code point of it is a surrogate; the texts made of characters are the plain
ones.
-/

namespace StyleTypings

namespace CodePoint

/-- A character has no code between those of the surrogates, and none beyond the last plane. -/
theorem toNat_char_range (c : Char) :
    (char c).toNat < 0xD800 ∨ 0xDFFF < (char c).toNat ∧ (char c).toNat < 0x110000 := c.valid

/-- A surrogate has a code of its own range. -/
theorem toNat_surrogate_range (offset : Fin 0x800) :
    0xD800 ≤ (surrogate offset).toNat ∧ (surrogate offset).toNat ≤ 0xDFFF := by
  have h := offset.isLt
  simp only [toNat]
  omega

/-- Code points with the same number are the same. -/
theorem eq_of_toNat_eq {c d : CodePoint} (h : c.toNat = d.toNat) : c = d := by
  cases c with
  | char c =>
    have hc := toNat_char_range c
    cases d with
    | char d => exact congrArg char (Char.toNat_inj.mp h)
    | surrogate offset => have hd := toNat_surrogate_range offset; omega
  | surrogate offset =>
    have hc := toNat_surrogate_range offset
    cases d with
    | char d => have hd := toNat_char_range d; omega
    | surrogate other => exact congrArg surrogate (Fin.ext (Nat.add_left_cancel h))

instance : Std.IsLinearOrder CodePoint where
  le_refl _ := Nat.le_refl _
  le_trans _ _ _ := Nat.le_trans
  le_antisymm _ _ h g := eq_of_toNat_eq (Nat.le_antisymm h g)
  le_total _ _ := Nat.le_total _ _

instance : Std.LawfulOrderLT CodePoint where
  lt_iff _ _ := Nat.lt_iff_le_and_not_ge

end CodePoint

/-- A text without surrogates. -/
def Text.Plain (text : Text) : Prop := ∀ c ∈ text, c.isSurrogate = false

namespace Text

variable {first second text : Text}

instance (text : Text) : Decidable text.Plain :=
  inferInstanceAs (Decidable (∀ c ∈ text, c.isSurrogate = false))

theorem plain_append : (first ++ second).Plain ↔ first.Plain ∧ second.Plain :=
  List.forall_mem_append

theorem plain_cons {c : CodePoint} : Plain (c :: text) ↔ c.isSurrogate = false ∧ text.Plain :=
  List.forall_mem_cons

theorem plain_ofChars (chars : List Char) : (ofChars chars).Plain :=
  List.forall_mem_map.mpr fun _ _ => rfl

theorem plain_toText (string : String) : string.toText.Plain := plain_ofChars _

/-- The plain texts are those made of characters. -/
theorem plain_iff : text.Plain ↔ ∃ chars, text = ofChars chars := by
  constructor
  · intro h
    induction text with
    | nil => exact ⟨[], rfl⟩
    | cons c text ih =>
      obtain ⟨hc, ht⟩ := plain_cons.mp h
      obtain ⟨chars, rfl⟩ := ih ht
      cases c with
      | char c => exact ⟨c :: chars, rfl⟩
      | surrogate offset => cases hc
  · rintro ⟨chars, rfl⟩
    exact plain_ofChars chars

/-- What is left of a plain text is plain. -/
theorem Plain.of_subset (h : text.Plain) (hs : ∀ c ∈ first, c ∈ text) : first.Plain :=
  fun c hc => h c (hs c hc)

end Text

end StyleTypings
