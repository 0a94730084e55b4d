import StyleTypings.Proofs.Declaration.ChangedKeys
import StyleTypings.Proofs.Reconcile.OutdatedDiff
import StyleTypings.Proofs.Text.FeedLines

/-!
# Diffs as messages

A diff is handed to its reader as one text, its lines one behind another. The lines of a diff that
lack a line feed are the removed lines that lack one in the existing text; every other line has
one, if no key breaks a line in another way. So the message can be cut into the lines of the diff
again exactly if no line of the existing text lacks its line feed, or only one does and it stands
last in the diff. Otherwise a removed line runs together with the line behind it: nothing is put
in the place of the line feed that a file lacks at its end.
-/

namespace StyleTypings

open Text

namespace Diff

variable {label existing expected text line : Text} {steps : List (Step Text)}

/-! ## Lines that lack their line feed -/

/-- A mark in front of a line does not give it a line feed or take it away. -/
theorem lacksFeed_cons {c : CodePoint} (hc : c ≠ '\n') (line : Text) :
    lacksFeed (c :: line) = lacksFeed line := by
  cases line with
  | nil =>
    have hmark : lacksFeed [c] = true := bne_iff_ne.mpr fun h => hc (Option.some.inj h)
    rw [hmark]
    rfl
  | cons d line => rw [lacksFeed, lacksFeed, List.getLast?_cons_cons]

/-- The steps that lack their line feed remove the lines of the old list that lack it. -/
theorem filter_lacksFeed_steps (hn : ∀ line ∈ newLines steps, lacksFeed line = false) :
    (steps.map stepText).filter lacksFeed =
        ((removedLines steps).filter lacksFeed).map (.char '-' :: ·) ∧
      (removedLines steps).filter lacksFeed = (oldLines steps).filter lacksFeed := by
  induction steps with
  | nil => exact ⟨rfl, rfl⟩
  | cons step steps ih =>
    rw [newLines_cons] at hn
    obtain ⟨hstep, hsteps⟩ := List.forall_mem_append.mp hn
    obtain ⟨hmarked, hold⟩ := ih hsteps
    rw [List.map_cons, oldLines_cons]
    cases step with
    | keep line =>
      have hline : lacksFeed line = false := hstep line List.mem_cons_self
      have hkept : lacksFeed (stepText (.keep line)) = false :=
        (lacksFeed_cons (by decide) line).trans hline
      have hshort : removedLines (.keep line :: steps) = removedLines steps := rfl
      rw [hshort, List.filter_cons_of_neg (Bool.eq_false_iff.mp hkept), hold, hmarked, hold]
      exact ⟨rfl, (List.filter_cons_of_neg (Bool.eq_false_iff.mp hline)).symm⟩
    | remove line =>
      have hmark : lacksFeed (stepText (.remove line)) = lacksFeed line :=
        lacksFeed_cons (by decide) line
      have hlong : removedLines (.remove line :: steps) = line :: removedLines steps := rfl
      have hsame : (Step.remove line).old?.toList ++ oldLines steps = line :: oldLines steps := rfl
      rw [hlong, hsame, List.filter_cons, List.filter_cons, List.filter_cons, hmark, hmarked, hold]
      cases lacksFeed line with
      | true => exact ⟨rfl, rfl⟩
      | false => exact ⟨rfl, rfl⟩
    | add line =>
      have hline : lacksFeed line = false := hstep line List.mem_cons_self
      have hadded : lacksFeed (stepText (.add line)) = false :=
        (lacksFeed_cons (by decide) line).trans hline
      rw [List.filter_cons_of_neg (Bool.eq_false_iff.mp hadded), hmarked]
      exact ⟨rfl, hold⟩

theorem Frames.ne_nil (h : Frames label line) : line ≠ [] := by
  obtain ⟨front, back, -, -, rfl⟩ := h
  exact List.append_ne_nil_of_right_ne_nil _ (List.cons_ne_nil _ _)

theorem Frames.lacksFeed_eq (h : Frames label line) : lacksFeed line = false := by
  obtain ⟨front, back, -, -, rfl⟩ := h
  exact lacksFeed_eq_false_iff.mpr List.getLast?_concat

/-- There is a line feed in front of the end of the line exactly if there is one in the label. -/
theorem Frames.inside_iff (h : Frames label line) :
    .char '\n' ∉ line.dropLast ↔ .char '\n' ∉ label := by
  obtain ⟨front, back, hf, hb, rfl⟩ := h
  simp only [List.dropLast_concat, List.mem_append, hf.lineFeed_not_mem, hb.lineFeed_not_mem,
    false_or, or_false]

/-- The header of a hunk ends in a line feed. -/
theorem lacksFeed_hunkHeader (hunk : Hunk Text) : lacksFeed (hunkHeader hunk) = false := by
  obtain ⟨body, -, he⟩ := wholeLine_hunkHeader hunk
  rw [he, lacksFeed_eq_false_iff, List.getLast?_concat]

/-- The lines of hunks that lack their line feed are those of their steps. -/
theorem filter_lacksFeed_hunkLines (parts : List (Hunk Text)) :
    (parts.flatMap hunkLines).filter lacksFeed =
      ((parts.flatMap Hunk.steps).map stepText).filter lacksFeed := by
  induction parts with
  | nil => rfl
  | cons hunk parts ih =>
    have hheader := Bool.eq_false_iff.mp (lacksFeed_hunkHeader hunk)
    rw [List.flatMap_cons, List.flatMap_cons, List.filter_append, ih, hunkLines,
      List.filter_cons_of_neg hheader, List.map_append, List.filter_append]

/-- The lines of a diff that lack their line feed are the removed lines that lack it in the
existing text, if no line of the expected text does. -/
theorem filter_lacksFeed_unifiedLines
    (hn : ∀ line ∈ comparedLines expected, lacksFeed line = false) :
    (unifiedLines label existing expected).filter lacksFeed =
      ((comparedLines existing).filter lacksFeed).map (.char '-' :: ·) := by
  have hheaders : (unifiedLines label existing expected).filter lacksFeed =
      ((textHunks existing expected).flatMap hunkLines).filter lacksFeed := by
    rw [unifiedLines]
    split
    · next hnil =>
      rw [hnil]
      rfl
    · next hcons =>
      obtain ⟨hold, hnew⟩ := frames_headers label
      rw [hcons, List.filter_cons_of_neg (Bool.eq_false_iff.mp hold.lacksFeed_eq),
        List.filter_cons_of_neg (Bool.eq_false_iff.mp hnew.lacksFeed_eq)]
  have hnew : newLines (script (comparedLines existing) (comparedLines expected)) =
      comparedLines expected := newLines_script _ _
  have hshown : ∀ line ∈ newLines ((textHunks existing expected).flatMap Hunk.steps),
      lacksFeed line = false := fun line hl =>
    hn line (hnew ▸ ((shown_sublist _ _ _ _ _).filterMap Step.new?).subset hl)
  rw [hheaders, filter_lacksFeed_hunkLines, (filter_lacksFeed_steps hshown).1, textHunks,
    (changedLines_hunks _ _).1, (filter_lacksFeed_steps (hnew.symm ▸ hn)).2, oldLines_script]

/-! ## Cutting a message -/

/-- No line of a diff is empty, and none has a line feed in front of its end unless the label has
one. -/
theorem EmittedLine.inside (h : EmittedLine label (comparedLines existing)
    (comparedLines expected) line) :
    line ≠ [] ∧ (.char '\n' ∉ label → .char '\n' ∉ line.dropLast) := by
  have hmarked : ∀ (c : CodePoint) (text line : Text), c ≠ '\n' → line ∈ comparedLines text →
      c :: line ≠ [] ∧ (.char '\n' ∉ label → .char '\n' ∉ (c :: line).dropLast) := by
    intro c text line hc hm
    refine ⟨List.cons_ne_nil c line, fun _ => ?_⟩
    rw [List.dropLast_cons_of_ne_nil (ne_nil_of_mem_lines hm), List.mem_cons, not_or]
    exact ⟨hc.symm, inside_of_mem_lines hm⟩
  cases h with
  | oldHeader => exact ⟨(frames_headers label).1.ne_nil, (frames_headers label).1.inside_iff.mpr⟩
  | newHeader => exact ⟨(frames_headers label).2.ne_nil, (frames_headers label).2.inside_iff.mpr⟩
  | hunkHeader hunk =>
    obtain ⟨body, hb, he⟩ := wholeLine_hunkHeader hunk
    rw [he, List.dropLast_concat]
    exact ⟨List.append_ne_nil_of_right_ne_nil _ (List.cons_ne_nil _ _),
      fun _ => hb.lineFeed_not_mem⟩
  | kept ho _ => exact hmarked ' ' existing _ (by decide) ho
  | removed ho => exact hmarked '-' existing _ (by decide) ho
  | added hn => exact hmarked '+' expected _ (by decide) hn

/-- The text of a diff is cut into the lines of the diff exactly if there is no line, or the label
has no line feed and no line but the last lacks one. -/
theorem feedLines_unified_iff : feedLines (unified label (some existing) expected) =
      unifiedLines label existing expected ↔
    unifiedLines label existing expected = [] ∨ .char '\n' ∉ label ∧
      ∀ line ∈ (unifiedLines label existing expected).dropLast, lacksFeed line = false := by
  have hflat : unified label (some existing) expected =
      (unifiedLines label existing expected).flatten := rfl
  rw [hflat, feedLines_flatten_iff]
  constructor
  · intro h
    by_cases hn : unifiedLines label existing expected = []
    · exact Or.inl hn
    · refine Or.inr ⟨?_, h.ended⟩
      have hne := mt (unifiedLines_of_eq label) hn
      have hheader : oldHeader label ∈ unifiedLines label existing expected := by
        rw [unifiedLines_of_ne label hne]
        exact List.mem_cons_self
      exact (frames_headers label).1.inside_iff.mp (h.inside _ hheader)
  · intro h
    obtain hnil | ⟨hl, hended⟩ := h
    · rw [hnil]
      exact Cuttable.nil
    · have hinside := fun line (hm : line ∈ unifiedLines label existing expected) =>
        (emittedLine_of_mem hm).inside
      exact ⟨fun line hm => (hinside line hm).1, fun line hm => (hinside line hm).2 hl, hended⟩

/-- If no line of the expected text lacks its line feed, the text of a diff is cut into its lines
exactly if no line of the existing text lacks its own, or only one does and its removal stands
last. -/
theorem feedLines_unified_iff_of_ended (hl : .char '\n' ∉ label)
    (hn : ∀ line ∈ comparedLines expected, lacksFeed line = false) :
    feedLines (unified label (some existing) expected) = unifiedLines label existing expected ↔
      (comparedLines existing).filter lacksFeed = [] ∨
        ∃ last, (comparedLines existing).filter lacksFeed = [last] ∧
          (unifiedLines label existing expected).getLast? = some (.char '-' :: last) := by
  have hended : feedLines (unified label (some existing) expected) =
        unifiedLines label existing expected ↔
      ∀ line ∈ (unifiedLines label existing expected).dropLast, lacksFeed line = false := by
    refine feedLines_unified_iff.trans ⟨fun h => ?_, fun h => Or.inr ⟨hl, h⟩⟩
    obtain hnil | ⟨-, hended⟩ := h
    · rw [hnil]
      exact Cuttable.nil.ended
    · exact hended
  rw [hended, ended_iff, filter_lacksFeed_unifiedLines hn, List.map_eq_nil_iff]
  refine or_congr_right ⟨fun ⟨marked, hone, hlast⟩ => ?_, fun ⟨last, hone, hlast⟩ => ?_⟩
  · obtain ⟨last, hold, rfl⟩ := List.map_eq_singleton_iff.mp hone
    exact ⟨last, hold, hlast⟩
  · exact ⟨'-' :: last, List.map_eq_singleton_iff.mpr ⟨last, hone, rfl⟩, hlast⟩

/-- No line lacks its line feed in a text that ends in one, if only line feeds, also of line ends
of two characters, break it. -/
theorem lacksFeed_of_mem_comparedLines (ht : OnlyFeedsBreak (crlfToLf text))
    (he : text = [] ∨ text.getLast? = some (.char '\n')) (hl : line ∈ comparedLines text) :
    lacksFeed line = false := by
  refine lacksFeed_of_mem_lines ht ?_ hl
  rw [getLast?_crlfToLf]
  refine he.imp_left fun hnil => ?_
  rw [hnil]
  rfl

end Diff

/-! ## Documents -/

namespace Declaration

open Diff

variable {key : Text} {keys : List Text}

/-- A key that only line feeds break has a field that only line feeds break. -/
theorem onlyFeedsBreak_field (hk : OnlyFeedsBreak key) : OnlyFeedsBreak (field key) := by
  have hframe : OnlyFeedsBreak (field []) :=
    SingleLine.onlyFeedsBreak (singleLine_field fun _ h => absurd h List.not_mem_nil)
  have hmem : ∀ c, c ∈ field key → c ∈ key ∨ c ∈ field [] := by
    intro c hc
    rw [field, List.mem_append, List.mem_append] at hc
    rw [field, List.append_nil, List.mem_append]
    obtain (hl | hm) | hr := hc
    · exact Or.inr (Or.inl hl)
    · exact Or.inl hm
    · exact Or.inr (Or.inr hr)
  intro c hc hb
  cases hmem c hc with
  | inl hm => exact hk c hm hb
  | inr hm => exact hframe c hm hb

/-- Only line feeds break the lines of a document if they are all that breaks its keys. -/
theorem onlyFeedsBreak_render (hk : ∀ key ∈ keys, OnlyFeedsBreak key) (namedExports : Bool) :
    OnlyFeedsBreak (render keys namedExports) := by
  have hlines : ∀ line ∈ documentLines keys namedExports, OnlyFeedsBreak line :=
    forall_mem_documentLines
      (fun line hl => SingleLine.onlyFeedsBreak ((frameLines_distinct namedExports).2 line hl).1)
      (fun _ h => absurd h List.not_mem_nil) fun key hkey => onlyFeedsBreak_field (hk key hkey)
  intro c hc hb
  rw [render_eq_unlines, unlines] at hc
  obtain ⟨line, hl, hc⟩ := List.mem_flatMap.mp hc
  cases List.mem_append.mp hc with
  | inl hline => exact hlines line hl c hline hb
  | inr hfeed => exact List.mem_singleton.mp hfeed

/-- No line of such a document lacks its line feed. -/
theorem lacksFeed_of_mem_document {line : Text} (hk : ∀ key ∈ keys, OnlyFeedsBreak key)
    (namedExports : Bool) (hl : line ∈ comparedLines (render keys namedExports)) :
    lacksFeed line = false := by
  have hfeeds := onlyFeedsBreak_render hk namedExports
  have hend : (render keys namedExports).getLast? = some (.char '\n') := by
    rw [render_eq_unlines]
    exact getLast?_unlines (List.append_ne_nil_of_right_ne_nil _ (List.cons_ne_nil _ _))
  rw [← crlfToLf_of_onlyFeedsBreak hfeeds] at hfeeds
  exact lacksFeed_of_mem_comparedLines hfeeds (Or.inr hend) hl

/-- The diff of an existing text and a rendered document is a message of headers, headers of hunks
and marked lines of the two texts. Cutting the message behind its line feeds gives these lines back
exactly if the label has no line feed and no line but the last lacks one. If only line feeds break
the keys and the label has none, this is so exactly if no line of the existing text lacks its line
feed, or only one does and its removal stands last. It is so if only line feeds, also of line ends
of two characters, break the existing text and it ends in one or is empty. It is not so in general:
a text without a line feed at its end makes a removed and an added line run together. -/
theorem diff_cut_apart_iff (label existing : Text) (keys : List Text) (namedExports : Bool) :
    let expected := render keys namedExports
    let old := comparedLines existing
    let lines := unifiedLines label existing expected
    let diff := unified label (some existing) expected
    (∀ line ∈ lines, EmittedLine label old (comparedLines expected) line) ∧
    (feedLines diff = lines ↔
      lines = [] ∨ .char '\n' ∉ label ∧ ∀ line ∈ lines.dropLast, lacksFeed line = false) ∧
    (.char '\n' ∉ label → (∀ key ∈ keys, OnlyFeedsBreak key) →
      (feedLines diff = lines ↔ old.filter lacksFeed = [] ∨
        ∃ last, old.filter lacksFeed = [last] ∧ lines.getLast? = some (.char '-' :: last))) ∧
    (OnlyFeedsBreak (crlfToLf existing) → existing = [] ∨ existing.getLast? = some (.char '\n') →
      old.filter lacksFeed = []) := by
  intro expected old lines diff
  refine ⟨fun line hm => emittedLine_of_mem hm, feedLines_unified_iff, ?_, ?_⟩
  · intro hl hk
    exact feedLines_unified_iff_of_ended hl fun line hm =>
      lacksFeed_of_mem_document hk namedExports hm
  · intro hfeeds hend
    refine List.filter_eq_nil_iff.mpr fun line hm => ?_
    rw [lacksFeed_of_mem_comparedLines hfeeds hend hm]
    exact Bool.false_ne_true

/-- A text of one line that no document has is shown apart from the added lines if it ends in a
line feed. If it does not, the removed line and the first added line run together. -/
theorem diff_cut_apart_iff_missingFeed :
    let expected := render [['a']] false
    feedLines (unified [] (some ['x', '\n']) expected) = unifiedLines [] ['x', '\n'] expected ∧
      feedLines (unified [] (some ['x']) expected) ≠ unifiedLines [] ['x'] expected := by
  intro expected
  have hsingle : ∀ key ∈ ([['a']] : List Text), SingleLine key := by decide
  have hl : .char '\n' ∉ ([] : Text) := List.not_mem_nil
  have hk : ∀ key ∈ ([['a']] : List Text), OnlyFeedsBreak key :=
    fun key hm => (hsingle key hm).onlyFeedsBreak
  have hfeeds : OnlyFeedsBreak ['x', '\n'] :=
    List.forall_mem_cons.mpr ⟨fun hb => absurd hb (by decide),
      List.forall_mem_singleton.mpr fun _ => rfl⟩
  obtain ⟨-, -, hwhole, hended⟩ := diff_cut_apart_iff [] ['x', '\n'] [['a']] false
  obtain ⟨-, -, hlacking, -⟩ := diff_cut_apart_iff [] ['x'] [['a']] false
  refine ⟨(hwhole hl hk).mpr (Or.inl (hended hfeeds (Or.inr rfl))), fun hcut => ?_⟩
  have hdisjoint : ∀ line ∈ comparedLines ['x'], line ∉ comparedLines expected := by
    intro line hold hnew
    have hx : line = ['x'] := List.mem_singleton.mp hold
    have hended := lacksFeed_of_mem_document hk false hnew
    rw [hx] at hended
    exact Bool.false_ne_true hended.symm
  have hlines : comparedLines expected = (documentLines [['a']] false).map (· ++ [.char '\n']) :=
    comparedLines_of_document hsingle (crlfToLf_render hsingle)
  have hlast : (unifiedLines [] ['x'] expected).getLast? =
      some (.char '+' :: exportLine false ++ ['\n']) := by
    have hsorted : sortKeys [['a']] = [['a']] := List.mergeSort_singleton _
    rw [unifiedLines, textHunks, script_of_disjoint hdisjoint, hlines,
      documentLines_of_ne_nil (List.cons_ne_nil _ _), hsorted]
    rfl
  obtain hnone | ⟨last, -, hremoved⟩ := (hlacking hl hk).mp hcut
  · exact List.cons_ne_nil _ [] hnone
  · rw [hlast] at hremoved
    exact absurd (List.cons.inj (Option.some.inj hremoved)).1 (by decide)

end Declaration

end StyleTypings
