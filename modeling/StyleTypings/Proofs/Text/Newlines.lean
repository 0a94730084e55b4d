import StyleTypings.Proofs.Text.Search
import StyleTypings.Text.Lines

/-!
# Line ends made line feeds

A text whose line ends were made line feeds is made of the same parts as before, each with its
line ends made line feeds, as long as no part begins with a line feed. So a mark that ends no
line stands in it exactly where the mark stood, and what surrounds the mark is what surrounded
it. Two texts may become the same, so the text that was there before cannot be told.
-/

namespace StyleTypings.Text

variable {text front back mark tail : Text} {c : CodePoint}

/-- No character of the text ends a line. -/
structure Unbroken (text : Text) : Prop where
  /-- No carriage return stands in the text. -/
  carriageReturn : .char '\r' ∉ text
  /-- No line feed stands in the text. -/
  lineFeed : .char '\n' ∉ text

instance (text : Text) : Decidable (Unbroken text) :=
  decidable_of_iff (.char '\r' ∉ text ∧ .char '\n' ∉ text)
    ⟨fun ⟨hr, hf⟩ => ⟨hr, hf⟩, fun ⟨hr, hf⟩ => ⟨hr, hf⟩⟩

/-- A text is unbroken exactly if its first character is no line end and the rest is unbroken. -/
theorem unbroken_cons_iff : Unbroken (c :: text) ↔ (c ≠ '\r' ∧ c ≠ '\n') ∧ Unbroken text := by
  constructor
  · rintro ⟨hr, hf⟩
    rw [List.mem_cons, not_or] at hr hf
    exact ⟨⟨Ne.symm hr.1, Ne.symm hf.1⟩, hr.2, hf.2⟩
  · rintro ⟨⟨hr, hf⟩, ht⟩
    refine ⟨?_, ?_⟩
    · rw [List.mem_cons, not_or]
      exact ⟨Ne.symm hr, ht.carriageReturn⟩
    · rw [List.mem_cons, not_or]
      exact ⟨Ne.symm hf, ht.lineFeed⟩

theorem universalNewlines_cons_of_ne (hc : c ≠ '\r') (text : Text) :
    universalNewlines (c :: text) = c :: universalNewlines text := by
  rw [universalNewlines]
  · exact fun _ h => absurd h hc
  · exact fun h => absurd h hc

/-- A text without a carriage return stays as it is. -/
theorem universalNewlines_of_not_mem (ht : .char '\r' ∉ text) : universalNewlines text = text := by
  induction text with
  | nil => rfl
  | cons c text ih =>
    rw [List.mem_cons, not_or] at ht
    rw [universalNewlines_cons_of_ne (Ne.symm ht.1), ih ht.2]

theorem universalNewlines_eq_nil_iff : universalNewlines text = [] ↔ text = [] := by
  cases text using universalNewlines.induct with
  | case1 => exact iff_of_true rfl rfl
  | case2 text => exact iff_of_false (List.cons_ne_nil _ _) (List.cons_ne_nil _ _)
  | case3 text hf =>
    rw [universalNewlines.eq_3 text hf]
    exact iff_of_false (List.cons_ne_nil _ _) (List.cons_ne_nil _ _)
  | case4 c text _ hc =>
    rw [universalNewlines_cons_of_ne hc]
    exact iff_of_false (List.cons_ne_nil _ _) (List.cons_ne_nil _ _)

/-- Texts keep apart when the second one does not complete a line end of the first one. -/
theorem universalNewlines_append (hb : back.head? ≠ some (.char '\n')) (front : Text) :
    universalNewlines (front ++ back) = universalNewlines front ++ universalNewlines back := by
  induction front using universalNewlines.induct with
  | case1 => rfl
  | case2 front ih =>
    rw [List.cons_append, List.cons_append, universalNewlines, universalNewlines, ih,
      List.cons_append]
  | case3 front hf ih =>
    have hfb : ∀ rest, front ++ back = .char '\n' :: rest → False := by
      intro rest he
      cases front with
      | nil =>
        rw [List.nil_append] at he
        rw [he] at hb
        exact hb rfl
      | cons d front => exact hf front (by rw [(List.cons.inj he).1])
    rw [List.cons_append, universalNewlines.eq_3 _ hfb, universalNewlines.eq_3 _ hf, ih,
      List.cons_append]
  | case4 c front _ hc ih =>
    rw [List.cons_append, universalNewlines_cons_of_ne hc, universalNewlines_cons_of_ne hc, ih,
      List.cons_append]

/-- What follows a lead that ends no line follows it also afterwards, and nothing else does. -/
theorem after?_universalNewlines (hm : Unbroken mark) (text : Text) :
    after? mark (universalNewlines text) = (after? mark text).map universalNewlines := by
  induction mark generalizing text with
  | nil => rfl
  | cons m mark ih =>
    obtain ⟨⟨hr, hf⟩, hmark⟩ := unbroken_cons_iff.mp hm
    cases text using universalNewlines.induct with
    | case1 => rfl
    | case2 text => rw [universalNewlines, after?, after?, if_neg hf, if_neg hr, Option.map_none]
    | case3 text hl =>
      rw [universalNewlines.eq_3 text hl, after?, after?, if_neg hf, if_neg hr, Option.map_none]
    | case4 c text _ hc =>
      rw [universalNewlines_cons_of_ne hc, after?, after?]
      split
      · exact ih hmark text
      · rfl

/-- A mark that ends no line does not begin with a character that does. -/
theorem after?_of_breaks (hm : Unbroken mark) (hn : mark ≠ []) (hc : c = '\r' ∨ c = '\n')
    (text : Text) : after? mark (c :: text) = none := by
  obtain ⟨m, rest, rfl⟩ := List.exists_cons_of_ne_nil hn
  obtain ⟨⟨hr, hf⟩, -⟩ := unbroken_cons_iff.mp hm
  rcases hc with rfl | rfl
  · rw [after?, if_neg hr]
  · rw [after?, if_neg hf]

theorem cutAt?_nil (text : Text) : cutAt? [] text = some ([], text) := by
  cases text <;> rfl

/-- Where a mark does not stand in front, it is looked for behind the first character. -/
theorem cutAt?_cons_of_none (h : after? mark (c :: text) = none) :
    cutAt? mark (c :: text) = (cutAt? mark text).map fun cut => (c :: cut.1, cut.2) := by
  rw [cutAt?, h]

/-- A mark that ends no line is found at the same place, between the same texts with their line
ends made line feeds. -/
theorem cutAt?_universalNewlines (hm : Unbroken mark) (text : Text) :
    cutAt? mark (universalNewlines text) =
      (cutAt? mark text).map (Prod.map universalNewlines universalNewlines) := by
  by_cases hn : mark = []
  · subst hn
    rw [cutAt?_nil, cutAt?_nil]
    rfl
  have hfeed (text : Text) : after? mark ('\n' :: text) = none :=
    after?_of_breaks hm hn (Or.inr rfl) text
  have hreturn (text : Text) : after? mark ('\r' :: text) = none :=
    after?_of_breaks hm hn (Or.inl rfl) text
  induction text using universalNewlines.induct with
  | case1 =>
    rw [universalNewlines, cutAt?]
    obtain ⟨m, rest, rfl⟩ := List.exists_cons_of_ne_nil hn
    rfl
  | case2 text ih =>
    rw [universalNewlines, cutAt?_cons_of_none (hfeed _), cutAt?_cons_of_none (hreturn _),
      cutAt?_cons_of_none (hfeed _), ih]
    cases cutAt? mark text with
    | none => rfl
    | some cut => simp only [Option.map_some, Prod.map, universalNewlines]
  | case3 text hl ih =>
    rw [universalNewlines.eq_3 text hl, cutAt?_cons_of_none (hfeed _),
      cutAt?_cons_of_none (hreturn _), ih]
    cases hcut : cutAt? mark text with
    | none => rfl
    | some cut =>
      have hbefore : ∀ rest, cut.1 = .char '\n' :: rest → False := by
        intro rest he
        have htext := eq_of_cutAt? hcut
        rw [he] at htext
        exact hl _ htext
      simp only [Option.map_some, Prod.map, universalNewlines.eq_3 cut.1 hbefore]
  | case4 c text _ hc ih =>
    have hafter := after?_universalNewlines hm (c :: text)
    rw [universalNewlines_cons_of_ne hc] at hafter ⊢
    rw [cutAt?, cutAt?, hafter]
    cases after? mark (c :: text) with
    | some tail => simp [Prod.map, universalNewlines]
    | none =>
      dsimp only [Option.map_none]
      rw [ih]
      cases cutAt? mark text with
      | none => rfl
      | some cut => simp only [Option.map_some, Prod.map, universalNewlines_cons_of_ne hc]

/-! ## What a text was before -/

/-- A text begins with a lead that ends no line exactly if it began with it before. -/
theorem universalNewlines_eq_append_iff (hm : Unbroken mark) :
    universalNewlines text = mark ++ tail ↔
      ∃ rest, text = mark ++ rest ∧ universalNewlines rest = tail := by
  rw [← after?_eq_some_iff, after?_universalNewlines hm, Option.map_eq_some_iff]
  simp only [after?_eq_some_iff]

/-- A character that ends no line stands between the texts between which it stood before. -/
theorem universalNewlines_eq_append_cons_iff (hr : c ≠ '\r') (hf : c ≠ '\n') :
    universalNewlines text = front ++ c :: back ↔
      ∃ first second, text = first ++ c :: second ∧ universalNewlines first = front ∧
        universalNewlines second = back := by
  constructor
  · intro he
    induction text using universalNewlines.induct generalizing front with
    | case1 => exact absurd he.symm (List.append_ne_nil_of_right_ne_nil _ (List.cons_ne_nil _ _))
    | case2 text ih =>
      rw [universalNewlines] at he
      cases front with
      | nil => exact absurd (List.cons.inj he).1.symm hf
      | cons d front =>
        obtain ⟨rfl, htail⟩ := List.cons.inj he
        obtain ⟨first, second, rfl, rfl, hsecond⟩ := ih htail
        exact ⟨.char '\r' :: .char '\n' :: first, second, rfl, universalNewlines.eq_2 first,
          hsecond⟩
    | case3 text hl ih =>
      rw [universalNewlines.eq_3 text hl] at he
      cases front with
      | nil => exact absurd (List.cons.inj he).1.symm hf
      | cons d front =>
        obtain ⟨rfl, htail⟩ := List.cons.inj he
        obtain ⟨first, second, rfl, rfl, hsecond⟩ := ih htail
        have hfirst : ∀ rest, first = .char '\n' :: rest → False := by
          rintro rest rfl
          exact hl _ rfl
        exact ⟨.char '\r' :: first, second, rfl, universalNewlines.eq_3 first hfirst, hsecond⟩
    | case4 d text _ hd ih =>
      rw [universalNewlines_cons_of_ne hd] at he
      cases front with
      | nil =>
        obtain ⟨rfl, htail⟩ := List.cons.inj he
        exact ⟨[], text, rfl, rfl, htail⟩
      | cons e front =>
        obtain ⟨rfl, htail⟩ := List.cons.inj he
        obtain ⟨first, second, rfl, rfl, hsecond⟩ := ih htail
        exact ⟨d :: first, second, rfl, universalNewlines_cons_of_ne hd first, hsecond⟩
  · rintro ⟨first, second, rfl, rfl, rfl⟩
    have hhead : (c :: second).head? ≠ some (.char '\n') := fun h => hf (Option.some.inj h)
    rw [universalNewlines_append hhead, universalNewlines_cons_of_ne hr]

/-- The characters that end no line are those that stood in the text before. -/
theorem mem_universalNewlines_iff (hr : c ≠ '\r') (hf : c ≠ '\n') :
    c ∈ universalNewlines text ↔ c ∈ text := by
  simp only [List.mem_iff_append, universalNewlines_eq_append_cons_iff hr hf]
  constructor
  · rintro ⟨_, _, first, second, he, -, -⟩
    exact ⟨first, second, he⟩
  · rintro ⟨first, second, he⟩
    exact ⟨_, _, first, second, he, rfl, rfl⟩

end StyleTypings.Text
