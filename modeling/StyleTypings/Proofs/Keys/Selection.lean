import StyleTypings.Proofs.Keys.Collected
import StyleTypings.Proofs.Text.Search

/-!
# Which strategy is selected

The first marker in the list that stands in the text decides; markers before it that stand
nowhere make no difference. With the strategies that are used unless others are given, export
statements are read exactly if no marker is found.
-/

namespace StyleTypings

variable {markers earlier later : List Text} {marker text lead tail : Text}

namespace Strategy

/-- Markers that stand nowhere in the text are passed over. -/
theorem extractLocals_append
    (he : ∀ marker ∈ earlier, marker ≠ [] ∧ Text.cutAt? marker text = none)
    (later : List Text) : extractLocals (earlier ++ later) text = extractLocals later text := by
  induction earlier with
  | nil => rfl
  | cons marker earlier ih =>
    obtain ⟨⟨hmarker, hnone⟩, hearlier⟩ := List.forall_mem_cons.mp he
    rw [List.cons_append, extractLocals, if_neg (mt List.isEmpty_iff.mp hmarker), hnone]
    exact ih hearlier

/-- What stands behind the leftmost occurrence of the first marker found is read. -/
theorem extractLocals_of_cutAt? (hm : marker ≠ [])
    (hc : Text.cutAt? marker text = some (lead, tail)) (later : List Text) :
    extractLocals (marker :: later) text = .ok ⟨"locals".toText, true, .entries tail⟩ := by
  rw [extractLocals, if_neg (mt List.isEmpty_iff.mp hm), hc]

/-- The marker that is looked for first. -/
def legacyMarker : Text := "exports.locals = \x7b".toText

/-- The marker that is looked for if the first one is not found. -/
def currentMarker : Text := "___CSS_LOADER_EXPORT___.locals = \x7b".toText

theorem defaultMarkers_eq : defaultMarkers = [legacyMarker, currentMarker] := rfl

theorem legacyMarker_eq : legacyMarker =
    ['e', 'x', 'p', 'o', 'r', 't', 's', '.', 'l', 'o', 'c', 'a', 'l', 's', ' ', '=', ' ', '{'] :=
  String.toText_ofList

theorem currentMarker_eq : currentMarker =
    '_' :: ['_', '_', 'C', 'S', 'S', '_', 'L', 'O', 'A', 'D', 'E', 'R', '_', 'E', 'X', 'P', 'O',
      'R', 'T', '_', '_', '_', '.', 'l', 'o', 'c', 'a', 'l', 's', ' ', '=', ' ', '{'] :=
  String.toText_ofList

end Strategy

/-- The strategies that are used unless others are given report what is found behind a marker,
and the export statements of a text without a marker. -/
theorem Extraction.select_defaults {report : Extraction}
    (h : Strategy.extractLocals Strategy.defaultMarkers text = .ok report) :
    Extraction.select Strategy.defaults text =
      .ok (if report.recognised then report
        else ⟨"named-exports".toText, true, .statements text⟩) := by
  have hl : (Strategy.locals Strategy.defaultMarkers).extract text = .ok report := h
  rw [Strategy.defaults, Extraction.select, hl]
  dsimp only
  split
  · rfl
  · rfl

/-- A text in which no marker stands is read by its export statements. -/
theorem Extraction.select_defaults_of_not_infix
    (h : ∀ marker ∈ Strategy.defaultMarkers, ¬marker <:+: text) :
    Extraction.select Strategy.defaults text =
      .ok ⟨"named-exports".toText, true, .statements text⟩ := by
  have hpassed : ∀ marker ∈ Strategy.defaultMarkers,
      marker ≠ [] ∧ Text.cutAt? marker text = none := fun marker hm =>
    ⟨Strategy.defaultMarkers_ne_nil marker hm, Text.cutAt?_eq_none_iff.mpr (h marker hm)⟩
  have hreport := Strategy.extractLocals_append hpassed []
  rw [List.append_nil, Strategy.extractLocals] at hreport
  rw [Extraction.select_defaults hreport]
  rfl

end StyleTypings
