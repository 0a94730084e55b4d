import StyleTypings.Proofs.Text.LineEnds

/-!
# Texts made of whole lines

A text is cut into lines at every character that breaks one, not at line feeds only. Lines that
hold no such character and have a line feed behind them are given back when the text that they
make is cut.
-/

namespace StyleTypings.Text

variable {body text : Text} {c : CodePoint} {lines pieces : List Text}

/-- No character of the text breaks a line. -/
def SingleLine (text : Text) : Prop := ∀ c ∈ text, breaksLine c = false

instance (text : Text) : Decidable (SingleLine text) :=
  decidable_of_iff ((text.all fun c => !breaksLine c) = true) (by
    simp only [SingleLine, List.all_eq_true, Bool.not_eq_true'])

theorem singleLine_append_iff {first second : Text} :
    SingleLine (first ++ second) ↔ SingleLine first ∧ SingleLine second :=
  List.forall_mem_append

theorem singleLine_cons_iff : SingleLine (c :: text) ↔ breaksLine c = false ∧ SingleLine text :=
  List.forall_mem_cons

theorem SingleLine.lineFeed_not_mem (hs : SingleLine text) : .char '\n' ∉ text := by
  intro hm
  have hbreak : breaksLine '\n' = false := hs '\n' hm
  exact absurd hbreak (by decide)

/-- The text is a line with its line feed. -/
def WholeLine (text : Text) : Prop := ∃ body, SingleLine body ∧ text = body ++ ['\n']

/-- Characters in front of a whole line make it longer, unless they break a line. -/
theorem WholeLine.append (ht : WholeLine text) (hb : SingleLine body) :
    WholeLine (body ++ text) := by
  obtain ⟨rest, hr, rfl⟩ := ht
  exact ⟨body ++ rest, singleLine_append_iff.mpr ⟨hb, hr⟩, (List.append_assoc _ _ _).symm⟩

/-- A line in front of a line end of two characters keeps its characters. -/
theorem crlfToLf_append_crlf (hb : .char '\n' ∉ body) (text : Text) :
    crlfToLf (body ++ .char '\r' :: .char '\n' :: text) = body ++ .char '\n' :: crlfToLf text := by
  induction body with
  | nil => rfl
  | cons c body ih =>
    rw [List.mem_cons, not_or] at hb
    obtain ⟨-, hbody⟩ := hb
    rw [List.cons_append, crlfToLf]
    · rw [ih hbody]
      rfl
    · rintro rest rfl he
      cases body with
      | nil => cases he
      | cons d body => exact hbody ((List.cons.inj he).1 ▸ List.mem_cons_self)

/-- A line and its line feed are the first line of a text that begins with them. -/
theorem lines_append (hb : SingleLine body) (text : Text) :
    Text.lines (body ++ .char '\n' :: text) = (body ++ ['\n']) :: Text.lines text := by
  induction body with
  | nil =>
    rw [List.nil_append, List.nil_append, Text.lines]
    exact if_pos rfl
  | cons c body ih =>
    obtain ⟨hc, hbody⟩ := singleLine_cons_iff.mp hb
    have hinside : ∀ rest : Text,
        ¬(breaksLine c && !(c == '\r' && rest.head? == some (.char '\n'))) = true := by
      intro rest
      rw [hc, Bool.false_and]
      exact Bool.false_ne_true
    rw [List.cons_append, List.cons_append, Text.lines, if_neg (hinside _), ih hbody]

/-- Whole lines are given back when their text is cut. -/
theorem lines_flatten (hl : ∀ line ∈ lines, WholeLine line) : Text.lines lines.flatten = lines := by
  induction lines with
  | nil => rfl
  | cons line lines ih =>
    obtain ⟨hline, hlines⟩ := List.forall_mem_cons.mp hl
    obtain ⟨body, hb, rfl⟩ := hline
    rw [List.flatten_cons, List.append_assoc, List.singleton_append, lines_append hb, ih hlines]

/-- Lines that are put together with a line feed behind each are given back with it. -/
theorem lines_unlines (hp : ∀ piece ∈ pieces, SingleLine piece) :
    Text.lines (unlines pieces) = pieces.map (· ++ [.char '\n']) := by
  have hwhole : ∀ line ∈ pieces.map (· ++ [.char '\n']), WholeLine line := by
    intro line hl
    obtain ⟨piece, hm, rfl⟩ := List.mem_map.mp hl
    exact ⟨piece, hp piece hm, rfl⟩
  rw [← lines_flatten hwhole, unlines, List.flatMap_def]

end StyleTypings.Text
