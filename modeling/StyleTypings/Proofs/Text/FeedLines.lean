import StyleTypings.Proofs.Text.Comparison

/-!
# Lines that end at line feeds only

A reader of a message cuts it behind its line feeds. Texts that were put together are given back
by that exactly if each of them has a character, none has a line feed in front of its end, and all
but the last end in a line feed. The lines of a text are such lines if no other character breaks
one, except that the last may lack its line feed: it ends as the text does.
-/

namespace StyleTypings.Text

variable {text body line : Text} {lines : List Text}

/-- The lines of the text, cut behind each line feed and nowhere else, each with its line feed.
There is no empty last line. -/
def feedLines : Text → List Text
  | [] => []
  | c :: text =>
    if c = '\n' then [c] :: feedLines text
    else (c :: (feedLines text).headD []) :: (feedLines text).tail

/-- Whether the line has no line feed at its end. -/
def lacksFeed (line : Text) : Bool := line.getLast? != some (.char '\n')

theorem lacksFeed_eq_false_iff : lacksFeed line = false ↔ line.getLast? = some (.char '\n') := by
  rw [lacksFeed, bne_eq_false_iff_eq]

/-- A line with its line feed is the first line of a text that begins with it. -/
theorem feedLines_append (hb : .char '\n' ∉ body) (text : Text) :
    feedLines (body ++ .char '\n' :: text) = (body ++ ['\n']) :: feedLines text := by
  induction body with
  | nil => rw [List.nil_append, feedLines, if_pos rfl, List.nil_append]
  | cons c body ih =>
    rw [List.mem_cons, not_or] at hb
    obtain ⟨hc, hbody⟩ := hb
    rw [List.cons_append, feedLines, if_neg (Ne.symm hc), ih hbody]
    rfl

/-- A text without a line feed is one line. -/
theorem feedLines_of_not_mem (hn : body ≠ []) (hb : .char '\n' ∉ body) :
    feedLines body = [body] := by
  induction body with
  | nil => exact absurd rfl hn
  | cons c body ih =>
    rw [List.mem_cons, not_or] at hb
    obtain ⟨hc, hbody⟩ := hb
    rw [feedLines, if_neg (Ne.symm hc)]
    cases body with
    | nil => rfl
    | cons d body =>
      rw [ih (List.cons_ne_nil d body) hbody]
      rfl

/-- The pieces of which a text can be cut again: each has a character and no line feed in front of
its end, and all but the last end in a line feed. -/
structure Cuttable (lines : List Text) : Prop where
  /-- No piece is empty. -/
  ne_nil : ∀ line ∈ lines, line ≠ []
  /-- No piece has a line feed in front of its end. -/
  inside : ∀ line ∈ lines, .char '\n' ∉ line.dropLast
  /-- All pieces but the last end in a line feed. -/
  ended : ∀ line ∈ lines.dropLast, lacksFeed line = false

theorem Cuttable.nil : Cuttable [] :=
  ⟨fun _ h => absurd h List.not_mem_nil, fun _ h => absurd h List.not_mem_nil,
    fun _ h => absurd h List.not_mem_nil⟩

/-- A line with its line feed may stand in front. -/
theorem Cuttable.cons (hl : Cuttable lines) (hb : .char '\n' ∉ body) :
    Cuttable ((body ++ ['\n']) :: lines) where
  ne_nil := List.forall_mem_cons.mpr ⟨List.append_ne_nil_of_right_ne_nil _ (List.cons_ne_nil _ _),
    hl.ne_nil⟩
  inside := List.forall_mem_cons.mpr ⟨by rwa [List.dropLast_concat], hl.inside⟩
  ended := by
    cases lines with
    | nil => exact fun _ h => absurd h List.not_mem_nil
    | cons next lines =>
      have hended : lacksFeed (body ++ ['\n']) = false :=
        lacksFeed_eq_false_iff.mpr List.getLast?_concat
      exact List.forall_mem_cons.mpr ⟨hended, hl.ended⟩

/-- A text is cut into pieces of which it can be cut again. -/
theorem cuttable_feedLines (text : Text) : Cuttable (feedLines text) := by
  induction text using line_induction with
  | last piece hp =>
    by_cases hn : piece = []
    · rw [hn]
      exact Cuttable.nil
    · rw [feedLines_of_not_mem hn hp]
      have hinside : .char '\n' ∉ piece.dropLast := fun hm => hp (List.dropLast_subset piece hm)
      exact ⟨List.forall_mem_singleton.mpr hn, List.forall_mem_singleton.mpr hinside,
        fun _ h => absurd h List.not_mem_nil⟩
  | line piece rest hp ih =>
    rw [feedLines_append hp]
    exact ih.cons hp

/-- What ends in a line feed and has none in front of its end is a line with its line feed. -/
theorem exists_body (hi : .char '\n' ∉ line.dropLast) (he : lacksFeed line = false) :
    ∃ body, .char '\n' ∉ body ∧ line = body ++ ['\n'] := by
  obtain ⟨body, rfl⟩ := List.getLast?_eq_some_iff.mp (lacksFeed_eq_false_iff.mp he)
  rw [List.dropLast_concat] at hi
  exact ⟨body, hi, rfl⟩

/-- One piece without a line feed in front of its end is cut into itself. -/
theorem feedLines_singleton (hn : line ≠ []) (hi : .char '\n' ∉ line.dropLast) :
    feedLines line = [line] := by
  by_cases he : lacksFeed line = false
  · obtain ⟨body, hb, rfl⟩ := exists_body hi he
    exact feedLines_append hb []
  · refine feedLines_of_not_mem hn fun hm => ?_
    rw [← List.dropLast_concat_getLast hn, List.mem_append, List.mem_singleton] at hm
    have hlast : line.getLast hn = '\n' := (hm.resolve_left hi).symm
    exact he (lacksFeed_eq_false_iff.mpr (by rw [List.getLast?_eq_some_getLast hn, hlast]))

/-- Pieces are given back exactly if they are such as a text is cut into. -/
theorem feedLines_flatten_iff : feedLines lines.flatten = lines ↔ Cuttable lines := by
  constructor
  · intro h
    exact h ▸ cuttable_feedLines lines.flatten
  · intro h
    induction lines with
    | nil => rfl
    | cons line lines ih =>
      obtain ⟨hne, hnes⟩ := List.forall_mem_cons.mp h.ne_nil
      obtain ⟨hinside, hinsides⟩ := List.forall_mem_cons.mp h.inside
      cases lines with
      | nil =>
        rw [List.flatten_cons, List.flatten_nil, List.append_nil]
        exact feedLines_singleton hne hinside
      | cons next lines =>
        obtain ⟨hended, hendeds⟩ := List.forall_mem_cons.mp h.ended
        obtain ⟨body, hb, rfl⟩ := exists_body hinside hended
        rw [List.flatten_cons, List.append_assoc, List.singleton_append, feedLines_append hb,
          ih ⟨hnes, hinsides, hendeds⟩]

/-- No piece but the last lacks its line feed exactly if none does, or only the last one. -/
theorem ended_iff : (∀ line ∈ lines.dropLast, lacksFeed line = false) ↔
    lines.filter lacksFeed = [] ∨
      ∃ last, lines.filter lacksFeed = [last] ∧ lines.getLast? = some last := by
  obtain rfl | ⟨front, last, rfl⟩ := List.eq_nil_or_concat lines
  · exact iff_of_true (fun _ h => absurd h List.not_mem_nil) (Or.inl rfl)
  · have hfront : (∀ line ∈ front, lacksFeed line = false) ↔ front.filter lacksFeed = [] := by
      simp only [List.filter_eq_nil_iff, Bool.not_eq_true]
    rw [List.concat_eq_append, List.dropLast_concat, List.getLast?_concat, List.filter_append,
      hfront]
    cases hlast : lacksFeed last with
    | true =>
      have hone : [last].filter lacksFeed = [last] := List.filter_cons_of_pos hlast
      rw [hone]
      constructor
      · intro h
        rw [h]
        exact Or.inr ⟨last, rfl, rfl⟩
      · intro h
        obtain hnil | ⟨other, hother, -⟩ := h
        · exact absurd hnil (List.append_ne_nil_of_right_ne_nil _ (List.cons_ne_nil _ _))
        · exact (List.append_eq_singleton_iff.mp hother).elim (fun h => h.1)
            fun h => absurd h.2 (List.cons_ne_nil _ _)
    | false =>
      have hnone : [last].filter lacksFeed = [] :=
        List.filter_cons_of_neg (Bool.eq_false_iff.mp hlast)
      rw [hnone, List.append_nil]
      refine ⟨Or.inl, fun h => h.resolve_right fun ⟨other, hother, hsame⟩ => ?_⟩
      have hmem : other ∈ front.filter lacksFeed := hother ▸ List.mem_cons_self
      have hlacks : lacksFeed other = true := (List.mem_filter.mp hmem).2
      rw [← Option.some.inj hsame, hlast] at hlacks
      exact Bool.false_ne_true hlacks

/-! ## Lines of a text -/

/-- No character but a line feed breaks a line of the text. -/
def OnlyFeedsBreak (text : Text) : Prop := ∀ c ∈ text, breaksLine c = true → c = '\n'

/-- In a single line nothing breaks but a line feed. -/
theorem SingleLine.onlyFeedsBreak (ht : SingleLine text) : OnlyFeedsBreak text := by
  intro c hc hb
  rw [ht c hc] at hb
  exact absurd hb Bool.false_ne_true

/-- If only line feeds break lines, there is no line end of two characters to be shortened. -/
theorem crlfToLf_of_onlyFeedsBreak (ht : OnlyFeedsBreak text) : crlfToLf text = text := by
  refine crlfToLf_eq_self_iff.mpr fun hi => ?_
  have hr : .char '\r' ∈ text := hi.subset List.mem_cons_self
  exact absurd (ht '\r' hr rfl) (by decide)

/-- No line has a line feed in front of its end. -/
theorem inside_of_mem_lines (hl : line ∈ Text.lines text) : .char '\n' ∉ line.dropLast := by
  induction text generalizing line with
  | nil => exact absurd hl List.not_mem_nil
  | cons c text ih =>
    rw [Text.lines] at hl
    split at hl
    · obtain rfl | hl := List.mem_cons.mp hl
      · exact List.not_mem_nil
      · exact ih hl
    · next hbreak =>
      have hc : .char '\n' ≠ c := by
        rintro rfl
        exact hbreak rfl
      split at hl
      · rw [List.mem_singleton.mp hl]
        exact List.not_mem_nil
      · next first rest hrest =>
        rw [hrest] at ih
        obtain rfl | hl := List.mem_cons.mp hl
        · have hfirst : first ≠ [] :=
            ne_nil_of_mem_lines (hrest ▸ List.mem_cons_self : first ∈ Text.lines text)
          rw [List.dropLast_cons_of_ne_nil hfirst, List.mem_cons, not_or]
          exact ⟨hc, ih List.mem_cons_self⟩
        · exact ih (List.mem_cons_of_mem first hl)

/-- If only line feeds break lines, the lines are cut behind them. -/
theorem lines_eq_feedLines (ht : OnlyFeedsBreak text) : Text.lines text = feedLines text := by
  induction text with
  | nil => rfl
  | cons c text ih =>
    obtain ⟨hc, htext⟩ := List.forall_mem_cons.mp ht
    rw [Text.lines, feedLines, ih htext]
    by_cases hf : c = '\n'
    · rw [if_pos hf, hf]
      rfl
    · have hbreak : breaksLine c = false := Bool.eq_false_iff.mpr fun hb => hf (hc hb)
      rw [if_neg hf, hbreak, Bool.false_and, if_neg Bool.false_ne_true]
      cases feedLines text with
      | nil => rfl
      | cons first rest => rfl

/-- The last line ends as the text does. -/
theorem getLast?_of_last_line (hl : (Text.lines text).getLast? = some line) :
    line.getLast? = text.getLast? := by
  obtain ⟨front, hfront⟩ := List.getLast?_eq_some_iff.mp hl
  have hmem : line ∈ Text.lines text := hfront ▸ List.mem_append_right front List.mem_cons_self
  have htext : text = front.flatten ++ line := by
    rw [← flatten_lines text, hfront, List.flatten_append, List.flatten_singleton]
  have hlast := List.getLast?_eq_some_getLast (ne_nil_of_mem_lines hmem)
  rw [htext, List.getLast?_append, hlast, Option.some_or]

/-- If only line feeds break lines and the text ends in one, no line lacks its line feed. -/
theorem lacksFeed_of_mem_lines (ht : OnlyFeedsBreak text)
    (he : text = [] ∨ text.getLast? = some (.char '\n')) (hl : line ∈ Text.lines text) :
    lacksFeed line = false := by
  have hne : Text.lines text ≠ [] := List.ne_nil_of_mem hl
  have hend : text.getLast? = some (.char '\n') := by
    refine he.resolve_left fun hnil => ?_
    rw [hnil] at hne
    exact hne rfl
  rw [← List.dropLast_concat_getLast hne, List.mem_append, List.mem_singleton] at hl
  cases hl with
  | inl hfront =>
    rw [lines_eq_feedLines ht] at hfront
    exact (cuttable_feedLines text).ended line hfront
  | inr hlast =>
    have hended := getLast?_of_last_line (List.getLast?_eq_some_getLast hne)
    rw [hlast, lacksFeed_eq_false_iff, hended, hend]

/-- Lines that are put together with a line feed behind each end in one. -/
theorem getLast?_unlines (hn : lines ≠ []) : (unlines lines).getLast? = some (.char '\n') := by
  have hlast : unlines [lines.getLast hn] = lines.getLast hn ++ ['\n'] := unlines_cons _ []
  rw [← List.dropLast_concat_getLast hn, unlines_append, hlast, ← List.append_assoc,
    List.getLast?_concat]

theorem getLast?_crlfToLf (text : Text) : (crlfToLf text).getLast? = text.getLast? := by
  induction text using lineEnd_induction with
  | nil => rfl
  | lineEnd text ih =>
    have hshort : crlfToLf (.char '\r' :: .char '\n' :: text) = .char '\n' :: crlfToLf text := rfl
    rw [hshort, List.getLast?_cons, List.getLast?_cons, List.getLast?_cons, ih]
    rfl
  | other c text hr ih => rw [crlfToLf_cons hr, List.getLast?_cons, List.getLast?_cons, ih]

end StyleTypings.Text
