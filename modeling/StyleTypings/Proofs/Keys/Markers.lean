import StyleTypings.Failure
import StyleTypings.Proofs.Keys.Selection

/-!
# Which part of a module is read

The first marker of the list that stands anywhere in the text counts, even if a later one stands
further to the left. What follows its leftmost occurrence is read, also when no key is found
there, and what stands in front of it makes no difference. An empty marker stands everywhere, so
the search fails over it as soon as it is reached. With the strategies that are used unless others
are given, the export statements of the whole text are read exactly if no marker stands in it.
-/

namespace StyleTypings

variable {mark marker text lead tail front back : Text} {markers : List Text}

namespace Text

/-- The tail follows the leftmost occurrence of the mark in the text. -/
def FollowsLeftmost (mark text tail : Text) : Prop :=
  ∃ lead, text = lead ++ mark ++ tail ∧
    ∀ front back, text = front ++ mark ++ back → lead.length ≤ front.length

/-- No occurrence of the mark stands further to the left than the one that is cut at. -/
theorem length_lead_le (hc : cutAt? mark text = some (lead, tail))
    (ht : text = front ++ mark ++ back) : lead.length ≤ front.length := by
  induction text generalizing lead front with
  | nil =>
    obtain ⟨_, _, hlead⟩ := Option.map_eq_some_iff.mp hc
    have hnil : [] = lead := (Prod.mk.inj hlead).1
    rw [← hnil]
    exact Nat.zero_le _
  | cons c text ih =>
    rw [cutAt?] at hc
    split at hc
    · have hnil : [] = lead := (Prod.mk.inj (Option.some.inj hc)).1
      rw [← hnil]
      exact Nat.zero_le _
    · next hnone =>
      obtain ⟨⟨rest, _⟩, hcut, hlead⟩ := Option.map_eq_some_iff.mp hc
      obtain ⟨hcons, htail⟩ := Prod.mk.inj hlead
      cases front with
      | nil =>
        have hstart : mark <+: c :: text := ⟨back, ht.symm⟩
        exact absurd hstart (after?_eq_none_iff.mp hnone)
      | cons d front =>
        have hrest : rest.length ≤ front.length :=
          ih (htail ▸ hcut) (List.cons.inj ht).2
        rw [← hcons]
        exact Nat.succ_le_succ hrest

/-- A cut is made at the leftmost occurrence. -/
theorem followsLeftmost_iff : FollowsLeftmost mark text tail ↔
    ∃ lead, cutAt? mark text = some (lead, tail) := by
  constructor
  · intro hf
    obtain ⟨lead, ht, hleft⟩ := hf
    cases hc : cutAt? mark text with
    | none => exact absurd ⟨lead, tail, ht.symm⟩ (cutAt?_eq_none_iff.mp hc)
    | some cut =>
      have hcut : text = cut.1 ++ mark ++ cut.2 := eq_of_cutAt? hc
      have hlength : cut.1.length = lead.length :=
        Nat.le_antisymm (length_lead_le hc ht) (hleft cut.1 cut.2 hcut)
      have hparts : cut.1 ++ (mark ++ cut.2) = lead ++ (mark ++ tail) := by
        rw [← List.append_assoc, ← List.append_assoc, ← hcut, ht]
      obtain ⟨hlead, hrest⟩ := List.append_inj hparts hlength
      exact ⟨lead, by rw [← hlead, ← List.append_cancel_left hrest]⟩
  · intro hc
    obtain ⟨lead, hcut⟩ := hc
    exact ⟨lead, eq_of_cutAt? hcut, fun _ _ ht => length_lead_le hcut ht⟩

end Text

namespace Strategy

/-- The marker is the first in the order of the list that stands in the text. -/
def FirstStanding (markers : List Text) (text marker : Text) : Prop :=
  ∃ earlier later, markers = earlier ++ marker :: later ∧
    (∀ passed ∈ earlier, ¬passed <:+: text) ∧ marker <:+: text

theorem FirstStanding.isInfix (h : FirstStanding markers text marker) : marker <:+: text := by
  obtain ⟨_, _, _, _, hinfix⟩ := h
  exact hinfix

/-- A marker of the list is picked in the text, and the tail is what is read. -/
structure Picks (markers : List Text) (text marker tail : Text) : Prop where
  /-- No marker in front of it in the list stands in the text. -/
  standing : FirstStanding markers text marker
  /-- The marker has a character. -/
  ne_nil : marker ≠ []
  /-- The tail follows its leftmost occurrence. -/
  behind : Text.FollowsLeftmost marker text tail

/-- Some marker is the first that stands in the text, or none stands there. -/
theorem firstStanding_or_none (markers : List Text) (text : Text) :
    (∃ marker, FirstStanding markers text marker) ∨ ∀ marker ∈ markers, ¬marker <:+: text := by
  induction markers with
  | nil => exact Or.inr fun _ hm => absurd hm List.not_mem_nil
  | cons marker markers ih =>
    by_cases hm : marker <:+: text
    · exact Or.inl ⟨marker, [], markers, rfl, fun _ hp => absurd hp List.not_mem_nil, hm⟩
    · cases ih with
      | inl hfirst =>
        obtain ⟨other, earlier, later, he, hpassed, hother⟩ := hfirst
        refine Or.inl ⟨other, marker :: earlier, later, ?_, ?_, hother⟩
        · rw [he, List.cons_append]
        · exact List.forall_mem_cons.mpr ⟨hm, hpassed⟩
      | inr hnone => exact Or.inr (List.forall_mem_cons.mpr ⟨hm, hnone⟩)

/-- Markers that do not stand in the text are passed over. -/
theorem extractLocals_passed {earlier : List Text} (hp : ∀ passed ∈ earlier, ¬passed <:+: text)
    (later : List Text) : extractLocals (earlier ++ later) text = extractLocals later text := by
  refine extractLocals_append (fun passed hm => ⟨?_, ?_⟩) later
  · intro hnil
    exact hp passed hm (hnil ▸ List.nil_infix)
  · exact Text.cutAt?_eq_none_iff.mpr (hp passed hm)

/-- What follows the picked marker is read. -/
theorem extractLocals_of_picks (h : Picks markers text marker tail) :
    extractLocals markers text = .ok ⟨"locals".toText, true, .entries tail⟩ := by
  obtain ⟨earlier, later, he, hpassed, -⟩ := h.standing
  obtain ⟨lead, hcut⟩ := Text.followsLeftmost_iff.mp h.behind
  rw [he, extractLocals_passed hpassed, extractLocals_of_cutAt? h.ne_nil hcut]

/-- The search fails over an empty marker that is reached. -/
theorem extractLocals_of_empty (h : FirstStanding markers text []) :
    extractLocals markers text = .error .emptyMarker := by
  obtain ⟨earlier, later, he, hpassed, -⟩ := h
  rw [he, extractLocals_passed hpassed]
  rfl

/-- A text without a marker is not recognised. -/
theorem extractLocals_of_none (h : ∀ marker ∈ markers, ¬marker <:+: text) :
    extractLocals markers text = .ok ⟨"locals".toText, false, .listed []⟩ := by
  have hpassed := extractLocals_passed h []
  rw [List.append_nil] at hpassed
  rw [hpassed]
  rfl

/-- A marker is picked, or the search comes to an empty one, or there is none in the text. -/
theorem picks_cases (markers : List Text) (text : Text) :
    (∃ marker tail, Picks markers text marker tail) ∨ FirstStanding markers text [] ∨
      ∀ marker ∈ markers, ¬marker <:+: text := by
  cases firstStanding_or_none markers text with
  | inl hfirst =>
    obtain ⟨marker, hstanding⟩ := hfirst
    by_cases hm : marker = []
    · exact Or.inr (Or.inl (hm ▸ hstanding))
    · have hinfix : marker <:+: text := hstanding.isInfix
      cases hc : Text.cutAt? marker text with
      | none => exact absurd hinfix (Text.cutAt?_eq_none_iff.mp hc)
      | some cut =>
        have hbehind : Text.FollowsLeftmost marker text cut.2 :=
          Text.followsLeftmost_iff.mpr ⟨cut.1, hc⟩
        exact Or.inl ⟨marker, cut.2, hstanding, hm, hbehind⟩
  | inr hnone => exact Or.inr (Or.inr hnone)

/-- The report of the search for markers: what is read if a marker is picked, and that the text is
not recognised if none stands in it. -/
theorem extractLocals_eq_ok_iff {report : Extraction} :
    extractLocals markers text = .ok report ↔
      (∃ marker tail, Picks markers text marker tail ∧
        report = ⟨"locals".toText, true, .entries tail⟩) ∨
      (∀ marker ∈ markers, ¬marker <:+: text) ∧
        report = ⟨"locals".toText, false, .listed []⟩ := by
  constructor
  · intro hr
    obtain ⟨marker, tail, hp⟩ | he | hn := picks_cases markers text
    · rw [extractLocals_of_picks hp] at hr
      exact Or.inl ⟨marker, tail, hp, (Except.ok.inj hr).symm⟩
    · rw [extractLocals_of_empty he] at hr
      cases hr
    · rw [extractLocals_of_none hn] at hr
      exact Or.inr ⟨hn, (Except.ok.inj hr).symm⟩
  · intro hr
    obtain ⟨marker, tail, hp, he⟩ | ⟨hn, he⟩ := hr
    · rw [extractLocals_of_picks hp, he]
    · rw [extractLocals_of_none hn, he]

/-- The search fails exactly if it comes to an empty marker. -/
theorem extractLocals_eq_error_iff :
    extractLocals markers text = .error .emptyMarker ↔ FirstStanding markers text [] := by
  constructor
  · intro hr
    obtain ⟨marker, tail, hp⟩ | he | hn := picks_cases markers text
    · rw [extractLocals_of_picks hp] at hr
      cases hr
    · exact he
    · rw [extractLocals_of_none hn] at hr
      cases hr
  · exact extractLocals_of_empty

/-- An empty marker is the first that stands in a text exactly if none in front of it does. -/
theorem firstStanding_nil_iff : FirstStanding markers text [] ↔
    ∃ earlier later, markers = earlier ++ [] :: later ∧ ∀ passed ∈ earlier, ¬passed <:+: text := by
  simp only [FirstStanding, List.nil_infix, and_true]

end Strategy

/-- The export statements of the whole text are read exactly if no marker stands in it. -/
theorem Extraction.exists_select_defaults (text : Text) :
    ∃ report, Extraction.select Strategy.defaults text = .ok report ∧
      (report.strategy = "named-exports".toText ↔
        ∀ marker ∈ Strategy.defaultMarkers, ¬marker <:+: text) ∧
      (report.strategy = "named-exports".toText →
        report = ⟨"named-exports".toText, true, .statements text⟩) := by
  by_cases hn : ∀ marker ∈ Strategy.defaultMarkers, ¬marker <:+: text
  · exact ⟨_, Extraction.select_defaults_of_not_infix hn, iff_of_true rfl hn, fun _ => rfl⟩
  · obtain ⟨report, hr⟩ := Strategy.extractLocals_returns Strategy.defaultMarkers_ne_nil text
    obtain ⟨marker, tail, -, rfl⟩ | ⟨hnone, -⟩ := Strategy.extractLocals_eq_ok_iff.mp hr
    · have hother : "locals".toText ≠ "named-exports".toText := by
        have hl : "locals".toText = _ := String.toText_ofList
        have he : "named-exports".toText = _ := String.toText_ofList
        rw [hl, he]
        decide
      exact ⟨_, Extraction.select_defaults hr, iff_of_false hother hn, fun h => absurd h hother⟩
    · exact absurd hnone hn

/-- The markers decide which part of a module is read. A search reports the keys of the tail behind
the leftmost occurrence of the first marker of the list that stands in the text, and recognises the
text whatever these are; a text in which no marker stands is not recognised, without keys. It fails
exactly if an empty marker is in the list and none in front of it stands in the text. Texts with
one tail get one report, whatever stands in front of it and by whichever marker it is found. The
strategies that are used unless others are given read the export statements of the whole text
exactly if neither of their markers stands in it. -/
theorem first_marker_decides :
    (∀ (markers : List Text) (text : Text) (report : Extraction),
      (Strategy.locals markers).extract text = .ok report ↔
        (∃ marker tail, Strategy.Picks markers text marker tail ∧
          report = ⟨"locals".toText, true, .entries tail⟩) ∨
        (∀ marker ∈ markers, ¬marker <:+: text) ∧
          report = ⟨"locals".toText, false, .listed []⟩) ∧
    (∀ (markers : List Text) (text : Text),
      (Strategy.locals markers).extract text = .error .emptyMarker ↔
        ∃ earlier later, markers = earlier ++ [] :: later ∧
          ∀ passed ∈ earlier, ¬passed <:+: text) ∧
    (Failure.strategy .emptyMarker).message = "empty separator".toText ∧
    (∀ (markers others : List Text) (first second marker other tail : Text),
      Strategy.Picks markers first marker tail → Strategy.Picks others second other tail →
      (Strategy.locals markers).extract first = (Strategy.locals others).extract second) ∧
    ∀ text : Text, ∃ report, Extraction.select Strategy.defaults text = .ok report ∧
      (report.strategy = "named-exports".toText ↔
        ∀ marker ∈ Strategy.defaultMarkers, ¬marker <:+: text) ∧
      (report.strategy = "named-exports".toText →
        report = ⟨"named-exports".toText, true, .statements text⟩) := by
  refine ⟨fun markers text report => Strategy.extractLocals_eq_ok_iff, ?_, rfl, ?_,
    Extraction.exists_select_defaults⟩
  · intro markers text
    rw [← Strategy.firstStanding_nil_iff]
    exact Strategy.extractLocals_eq_error_iff
  · intro markers others first second marker other tail hf hs
    exact (Strategy.extractLocals_of_picks hf).trans (Strategy.extractLocals_of_picks hs).symm

/-- The first marker of the list is picked though the second one stands further to the left, and
its leftmost occurrence counts though it overlaps with another one. -/
theorem first_marker_decides_overlapping :
    let markers : List Text := [['a', 'a'], ['b']]
    let tail : Text := ['a', '"', 'k', '"', ':']
    let first : Text := ['b', 'c', 'a', 'a'] ++ tail
    let second : Text := ['a', 'a'] ++ tail
    Strategy.Picks markers first ['a', 'a'] tail ∧ Strategy.Picks markers second ['a', 'a'] tail ∧
      (Strategy.locals markers).extract first = (Strategy.locals markers).extract second ∧
      (KeyReader.entries tail).toList = ([['k']] : List Text) := by
  intro markers tail first second
  have hstanding : ∀ lead : Text,
      Strategy.FirstStanding markers (lead ++ ['a', 'a'] ++ tail) ['a', 'a'] := fun lead =>
    ⟨[], [['b']], rfl, fun _ hm => absurd hm List.not_mem_nil, List.infix_append lead _ tail⟩
  have hfirst : Strategy.Picks markers first ['a', 'a'] tail :=
    ⟨hstanding ['b', 'c'], by decide, Text.followsLeftmost_iff.mpr ⟨['b', 'c'], rfl⟩⟩
  have hsecond : Strategy.Picks markers second ['a', 'a'] tail :=
    ⟨hstanding [], by decide, Text.followsLeftmost_iff.mpr ⟨[], rfl⟩⟩
  exact ⟨hfirst, hsecond,
    first_marker_decides.2.2.2.1 markers markers first second _ _ tail hfirst hsecond, rfl⟩

end StyleTypings
