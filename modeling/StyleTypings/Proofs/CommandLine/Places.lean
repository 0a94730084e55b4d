import StyleTypings.Proofs.CommandLine.Elsewhere
import StyleTypings.Proofs.Disk.Walking
import StyleTypings.Proofs.Text.LineEnds

/-!
# Compiled modules and declarations lie apart

The path of a compiled module ends with a name of one suffix, and the path of a declaration with a
name of another suffix. A path leads to a place of its last name, however it is written. So no
declaration lies where the compiled module of a resource does, and the program cannot write over
what it has still to read.
-/

namespace StyleTypings

variable {disk : Disk} {path : Path} {place : Place}
  {mark : CodePoint} {suffix text resource other : Text}

/-! ## The last name -/

/-- A suffix without the mark is put to the last piece. -/
theorem Text.splitAtChar_append_suffix (hs : mark ∉ suffix) (text : Text) :
    ∃ front last, splitAtChar mark text = front ++ [last] ∧
      splitAtChar mark (text ++ suffix) = front ++ [last ++ suffix] := by
  induction text with
  | nil => exact ⟨[], [], rfl, splitAtChar_of_not_mem hs⟩
  | cons c text ih =>
    obtain ⟨front, last, hfront, hback⟩ := ih
    rw [List.cons_append, splitAtChar, splitAtChar, hfront, hback]
    by_cases hc : c = mark
    · rw [if_pos hc, if_pos hc]
      exact ⟨[] :: front, last, rfl, rfl⟩
    · rw [if_neg hc, if_neg hc]
      cases front with
      | nil => exact ⟨[], c :: last, rfl, rfl⟩
      | cons piece front => exact ⟨(c :: piece) :: front, last, rfl, rfl⟩

namespace Path

theorem declarationSuffix_eq : declarationSuffix = ['.', 'd', '.', 't', 's'] :=
  String.toText_ofList

/-- The bytes of no name end with both suffixes. -/
theorem nameBytes_compiledSuffix_ne (name other : Text) :
    Utf8.nameBytes (name ++ compiledSuffix) ≠ Utf8.nameBytes (other ++ declarationSuffix) := by
  intro he
  have hcompiled : Utf8.nameBytes compiledSuffix = [46, 106, 115] := by decide
  have hdeclaration : Utf8.nameBytes declarationSuffix = [46, 100, 46, 116, 115] := by decide
  rw [Utf8.nameBytes_append, Utf8.nameBytes_append, hcompiled, hdeclaration] at he
  have hreverse := congrArg List.reverse he
  rw [List.reverse_append, List.reverse_append] at hreverse
  -- The letters before the last ones differ.
  exact absurd (List.cons.inj (List.cons.inj hreverse).2).1 (by decide)

/-- A name with a suffix of some length is a name to be followed, and no double dot. -/
theorem isName_append (hs : 3 ≤ suffix.length) (name : Text) :
    isName (name ++ suffix) = true ∧ name ++ suffix ≠ ['.', '.'] := by
  have hlength : 3 ≤ (name ++ suffix).length := by
    rw [List.length_append]
    omega
  have hne : ∀ short : Text, short.length < 3 → name ++ suffix ≠ short := by
    rintro short hshort rfl
    omega
  refine ⟨?_, hne _ (by decide)⟩
  rw [isName, Bool.and_eq_true, bne_iff_ne, bne_iff_ne]
  exact ⟨hne _ (by decide), hne _ (by decide)⟩

/-- The path of a compiled module ends with a name that has the suffix. -/
theorem names_ofText_compiledSuffix (resource : Text) :
    ∃ front last, (ofText (resource ++ compiledSuffix)).names =
      front ++ [last ++ compiledSuffix] := by
  have hslash : .char '/' ∉ compiledSuffix := by decide
  obtain ⟨front, last, -, hsplit⟩ := Text.splitAtChar_append_suffix hslash resource
  obtain ⟨hname, -⟩ := isName_append (by decide : 3 ≤ compiledSuffix.length) last
  refine ⟨front.filter isName, last, ?_⟩
  rw [ofText, hsplit, List.filter_append, List.filter_cons_of_pos hname, List.filter_nil]

/-- The path of a declaration ends with a name that has the suffix. -/
theorem names_of_declaration? {declaration : Path} (hd : path.declaration? = some declaration) :
    ∃ front last, declaration.names = front ++ [last ++ declarationSuffix] := by
  obtain ⟨name, -, rfl⟩ := Option.map_eq_some_iff.mp hd
  exact ⟨_, name, rfl⟩

end Path

namespace CommandLine

/-- No declaration lies where a compiled module does. -/
theorem not_declaresAt_of_compiled (hl : disk.locate (compiledPath none resource) = .ok place) :
    ¬DeclaresAt disk other place := by
  rintro ⟨declaration, hd, hdeclared⟩
  obtain ⟨front, last, hnames⟩ := Path.names_ofText_compiledSuffix resource
  obtain ⟨otherFront, otherLast, hother⟩ := Path.names_of_declaration? hd
  obtain ⟨-, hdots⟩ := Path.isName_append (by decide : 3 ≤ Path.compiledSuffix.length) last
  obtain ⟨-, hotherDots⟩ :=
    Path.isName_append (by decide : 3 ≤ Path.declarationSuffix.length) otherLast
  obtain ⟨above, hplace⟩ := Disk.exists_eq_of_locate hnames hdots hl
  obtain ⟨otherAbove, hsame⟩ := Disk.exists_eq_of_locate hother hotherDots hdeclared
  have hlast := (List.append_inj' (hplace.symm.trans hsame) rfl).2
  exact Path.nameBytes_compiledSuffix_ne last otherLast (List.cons.inj hlast).1

end CommandLine

end StyleTypings
