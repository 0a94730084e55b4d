import StyleTypings.Text.Basic

/-!
# Looking for a mark

A cut finds a mark exactly where the mark stands in the text, and it finds the leftmost place.
Two ways of putting a text together do not make a mark stand where its parts have none: a
character between the parts that the mark does not have, and a mark behind the first part that
does not end as it begins.
-/

namespace StyleTypings.Text

variable {mark lead first second text tail : Text} {c : CodePoint}

theorem after?_eq_none_iff : after? lead text = none ↔ ¬lead <+: text := by
  rw [Option.eq_none_iff_forall_ne_some]
  constructor
  · rintro hn ⟨tail, rfl⟩
    exact hn tail (after?_append lead tail)
  · intro hn tail ht
    exact hn ⟨tail, (after?_eq_some_iff.mp ht).symm⟩

/-- No cut is found exactly if the mark stands nowhere in the text. -/
theorem cutAt?_eq_none_iff : cutAt? mark text = none ↔ ¬mark <:+: text := by
  induction text with
  | nil =>
    rw [cutAt?, Option.map_eq_none_iff, after?_eq_none_iff, List.prefix_nil, List.infix_nil]
  | cons c text ih =>
    rw [cutAt?, List.infix_cons_iff, not_or, ← ih, ← after?_eq_none_iff]
    cases after? mark (c :: text) with
    | some tail => simp only [reduceCtorEq, false_and]
    | none => simp only [Option.map_eq_none_iff, true_and]

/-- A text holds what stands somewhere in it. -/
theorem holds_eq_true_iff : holds text mark = true ↔ mark <:+: text := by
  rw [holds, ← Option.not_isNone, Bool.not_eq_true', ← Bool.not_eq_true, Option.isNone_iff_eq_none,
    cutAt?_eq_none_iff, Decidable.not_not]

/-- A text does not hold a mark exactly if it stands nowhere in it. -/
theorem holds_eq_false_iff : holds text mark = false ↔ ¬mark <:+: text := by
  rw [← holds_eq_true_iff, Bool.not_eq_true]

/-- A mark is found behind a lead that does not have the first character of the mark. -/
theorem cutAt?_append (hl : c ∉ lead) (mark tail : Text) :
    cutAt? (c :: mark) (lead ++ (c :: mark ++ tail)) = some (lead, tail) := by
  induction lead with
  | nil => rw [List.nil_append, List.cons_append, cutAt?, ← List.cons_append, after?_append]
  | cons d lead ih =>
    rw [List.mem_cons, not_or] at hl
    obtain ⟨hd, hl⟩ := hl
    have hnone : after? (c :: mark) (d :: (lead ++ (c :: mark ++ tail))) = none := by
      rw [after?, if_neg hd]
    rw [List.cons_append, cutAt?, hnone, ih hl]
    rfl

/-! ## Marks in a text that is put together -/

/-- A mark does not reach over a character that it does not have. -/
theorem prefix_append_cons_iff (hc : c ∉ mark) :
    mark <+: first ++ c :: second ↔ mark <+: first := by
  constructor
  · intro hp
    have hfirst : first <+: first ++ c :: second := List.prefix_append _ _
    rcases List.prefix_or_prefix_of_prefix hp hfirst with hm | ⟨rest, rfl⟩
    · exact hm
    · rw [List.prefix_append_right_inj] at hp
      cases rest with
      | nil =>
        exact ⟨[], by rw [List.append_nil, List.append_nil]⟩
      | cons d rest =>
        have hd : d = c := (List.cons_prefix_cons.mp hp).1
        rw [hd] at hc
        exact absurd (List.mem_append_right first List.mem_cons_self) hc
  · intro hm
    exact hm.trans (List.prefix_append _ _)

/-- A mark without the character between two texts stands in one of them. -/
theorem infix_append_cons_iff (hc : c ∉ mark) (hn : mark ≠ []) :
    mark <:+: first ++ c :: second ↔ mark <:+: first ∨ mark <:+: second := by
  induction first with
  | nil =>
    have hstart : ¬mark <+: c :: second := by
      rw [← List.nil_append (c :: second), prefix_append_cons_iff hc, List.prefix_nil]
      exact hn
    rw [List.nil_append, List.infix_cons_iff, List.infix_nil]
    simp only [hstart, hn, false_or]
  | cons d first ih =>
    rw [List.cons_append, List.infix_cons_iff, ih, List.infix_cons_iff, ← List.cons_append,
      prefix_append_cons_iff hc, or_assoc]

theorem infix_cons_iff_of_not_mem (hc : c ∉ mark) (hn : mark ≠ []) :
    mark <:+: c :: second ↔ mark <:+: second := by
  rw [← List.nil_append (c :: second), infix_append_cons_iff hc hn, List.infix_nil]
  simp only [hn, false_or]

/-- No end of the mark, short of the whole, is a beginning of it. -/
def Borderless (mark : Text) : Prop := ∀ n, 0 < n → n < mark.length → ¬mark.drop n <+: mark

/-- In front of a mark that does not end as it begins, no further one starts. -/
theorem Borderless.not_prefix (hb : Borderless mark) (hn : ¬mark <:+: first) (hf : first ≠ [])
    (tail : Text) : ¬mark <+: first ++ (mark ++ tail) := by
  intro hp
  have hfirst : first <+: first ++ (mark ++ tail) := List.prefix_append _ _
  rcases List.prefix_or_prefix_of_prefix hp hfirst with hm | ⟨rest, hrest⟩
  · exact hn hm.isInfix
  · have hlength : first.length + rest.length = mark.length := by
      rw [← hrest, List.length_append]
    have hpos : 0 < first.length := List.length_pos_iff.mpr hf
    have hdrop : mark.drop first.length = rest := by rw [← hrest, List.drop_left]
    have hover : rest <+: mark := by
      rw [← hrest, List.prefix_append_right_inj, hrest] at hp
      exact List.prefix_of_prefix_length_le hp (List.prefix_append mark tail) (by omega)
    by_cases hwhole : first.length < mark.length
    · exact hb first.length hpos hwhole (hdrop ▸ hover)
    · have hnil : rest = [] := List.eq_nil_of_length_eq_zero (by omega)
      rw [hnil, List.append_nil] at hrest
      exact hn (hrest ▸ List.infix_refl first)

end StyleTypings.Text
