import StyleTypings.Proofs.Declaration.Lines
import StyleTypings.Proofs.Diff.ChangedLines

/-!
# The diff of two documents names the changed keys

The lines of a document are pairwise different, and the lines that two documents have in common
stand in the same order in both, since fields are sorted by their keys and the other lines frame
them. So the diff of two documents with the same kind of export block shows as changed exactly the
fields of the keys that only one of the documents declares. This needs keys that do not break a
line, and at least one key in each document: the empty line of an interface without keys is no
field.
-/

namespace StyleTypings.Declaration

open Diff

variable {key line : Text} {keys old new : List Text} {namedExports : Bool} {existing label : Text}

/-! ## Sorted keys -/

/-- Sorted keys stand in strictly ascending order if each was given once. -/
theorem sortKeys_strictly (hk : keys.Nodup) : (sortKeys keys).Pairwise (· < ·) := by
  have hnodup : (sortKeys keys).Nodup := (sortKeys_perm keys).nodup_iff.mpr hk
  refine (List.pairwise_and_iff.mpr ⟨sortKeys_ascending keys, hnodup⟩).imp ?_
  rintro a b ⟨hle, hne⟩
  exact Decidable.byContradiction fun hlt => hne (List.le_antisymm hle hlt)

/-- Sorting puts the keys of two documents into a common order. -/
theorem sortKeys_inCommonOrder (ho : old.Nodup) (hn : new.Nodup) :
    InCommonOrder (sortKeys old) (sortKeys new) where
  oldNodup := (sortKeys_perm old).nodup_iff.mpr ho
  newNodup := (sortKeys_perm new).nodup_iff.mpr hn
  common := by
    refine eq_of_ascending ((sortKeys_strictly ho).filter _) ((sortKeys_strictly hn).filter _) ?_
    intro key
    rw [mem_filter_mem, mem_filter_mem, and_comm]

/-! ## The lines of two documents -/

/-- The lines in front of the fields. -/
def leadLines : List Text := [noticeLine, warningLine, openingLine]

/-- The lines behind the fields. -/
def trailLines (namedExports : Bool) : List Text :=
  [['\x7d'], constantLine, exportLine namedExports]

/-- The lines that frame the fields are pairwise different, break no line themselves, and are no
fields. -/
theorem frameLines_distinct (namedExports : Bool) :
    (leadLines ++ trailLines namedExports).Nodup ∧
      ∀ line ∈ leadLines ++ trailLines namedExports,
        Text.SingleLine line ∧ line.head? ≠ some (.char ' ') := by
  have hn : noticeLine = _ := String.toText_ofList
  have hw : warningLine = _ := String.toText_ofList
  have ho : openingLine = _ := String.toText_ofList
  have hc : constantLine = _ := String.toText_ofList
  have hd : "export default cssExports;".toText = _ := String.toText_ofList
  have he : "export = cssExports;".toText = _ := String.toText_ofList
  rw [leadLines, trailLines, exportLine, hn, hw, ho, hc, hd, he]
  cases namedExports <;> decide

theorem head?_field (key : Text) : (field key).head? = some (.char ' ') := by
  have hl : "  '".toText = [' ', ' ', '\''] := String.toText_ofList
  rw [field, hl]
  rfl

/-- A key of a single line has a field of a single line. -/
theorem singleLine_field (hk : Text.SingleLine key) : Text.SingleLine (field key) := by
  have hl : "  '".toText = [' ', ' ', '\''] := String.toText_ofList
  have hr : "': string;".toText = _ := String.toText_ofList
  rw [field, hl, hr]
  exact Text.singleLine_append_iff.mpr
    ⟨Text.singleLine_append_iff.mpr ⟨by decide, hk⟩, by decide⟩

/-- A document with keys has its fields between the lines in front and those at the end. -/
theorem documentLines_of_ne_nil (hk : keys ≠ []) (namedExports : Bool) :
    documentLines keys namedExports =
      leadLines ++ ((sortKeys keys).map field ++ trailLines namedExports) := by
  rw [documentLines, fieldLines, if_neg hk, List.append_assoc]
  rfl

/-- The lines that frame the fields are none of them. -/
theorem not_mem_fields (hl : line ∈ leadLines ++ trailLines namedExports) (keys : List Text) :
    line ∉ (sortKeys keys).map field := by
  intro hm
  obtain ⟨key, -, rfl⟩ := List.mem_map.mp hm
  exact ((frameLines_distinct namedExports).2 _ hl).2 (head?_field key)

/-- The parts of two documents are separate. -/
theorem separate_parts (old new : List Text) (namedExports : Bool) :
    Separate leadLines leadLines ((sortKeys old).map field ++ trailLines namedExports)
        ((sortKeys new).map field ++ trailLines namedExports) ∧
      Separate ((sortKeys old).map field) ((sortKeys new).map field) (trailLines namedExports)
        (trailLines namedExports) := by
  obtain ⟨hnodup, -⟩ := frameLines_distinct namedExports
  have hfields : ∀ line ∈ leadLines ++ trailLines namedExports, ∀ keys : List Text,
      line ∉ (sortKeys keys).map field := fun line hl keys => not_mem_fields hl keys
  constructor
  · intro line hl hm
    have hlead : line ∈ leadLines := or_self_iff.mp (List.mem_append.mp hl)
    have hframe : line ∈ leadLines ++ trailLines namedExports := List.mem_append_left _ hlead
    have htrail : line ∉ trailLines namedExports := fun ht =>
      (List.nodup_append.mp hnodup).2.2 line hlead line ht rfl
    simp only [List.mem_append, hfields line hframe, htrail, or_self] at hm
  · intro line hl hm
    have htrail : line ∈ trailLines namedExports := or_self_iff.mp (List.mem_append.mp hm)
    have hframe : line ∈ leadLines ++ trailLines namedExports := List.mem_append_right _ htrail
    simp only [List.mem_append, hfields line hframe, or_self] at hl

/-- The lines of two documents stand in a common order, and what stands in the one only are the
fields of keys that only this one declares. -/
theorem documentLines_inCommonOrder (ho : old ≠ []) (hn : new ≠ []) (hold : old.Nodup)
    (hnew : new.Nodup) (namedExports : Bool) :
    InCommonOrder (documentLines old namedExports) (documentLines new namedExports) ∧
      onlyIn (documentLines old namedExports) (documentLines new namedExports) =
        (onlyIn (sortKeys old) (sortKeys new)).map field := by
  obtain ⟨hlead, htrail⟩ := separate_parts old new namedExports
  obtain ⟨hnodup, -⟩ := frameLines_distinct namedExports
  obtain ⟨hnodupLead, hnodupTrail, -⟩ := List.nodup_append.mp hnodup
  have hinjective : Function.Injective field := fun _ _ => field_injective
  have hfields : InCommonOrder ((sortKeys old).map field) ((sortKeys new).map field) :=
    (sortKeys_inCommonOrder hold hnew).map hinjective
  rw [documentLines_of_ne_nil ho, documentLines_of_ne_nil hn, hlead.onlyIn_append,
    htrail.onlyIn_append, onlyIn_self, onlyIn_self, onlyIn_map hinjective, List.nil_append,
    List.append_nil]
  exact ⟨(InCommonOrder.refl hnodupLead).append
    (hfields.append (InCommonOrder.refl hnodupTrail) htrail) hlead, rfl⟩

/-! ## The texts of two documents -/

/-- The line that a document has for a key, with its line feed. -/
def fieldLine (key : Text) : Text := field key ++ [.char '\n']

/-- No field can be taken for the header of a diff. -/
theorem fieldLine_plainStart (key : Text) : PlainStart (fieldLine key) := by
  have hl : "  '".toText = [' ', ' ', '\''] := String.toText_ofList
  rw [fieldLine, field, hl]
  constructor
  · exact fun h => absurd (List.cons_prefix_cons.mp h).1 (by decide)
  · exact fun h => absurd (List.cons_prefix_cons.mp h).1 (by decide)

/-- No line of a document breaks if no key does. -/
theorem singleLine_documentLines (hs : ∀ key ∈ keys, Text.SingleLine key) :
    ∀ line ∈ documentLines keys namedExports, Text.SingleLine line :=
  forall_mem_documentLines (fun line hl => ((frameLines_distinct namedExports).2 line hl).1)
    (fun _ h => absurd h List.not_mem_nil) fun key hk => singleLine_field (hs key hk)

/-- A text that is a document but for carriage returns before its line feeds is compared by the
lines of the document. -/
theorem comparedLines_of_document (hs : ∀ key ∈ keys, Text.SingleLine key)
    (he : Text.crlfToLf existing = render keys namedExports) :
    comparedLines existing = (documentLines keys namedExports).map (· ++ [.char '\n']) := by
  rw [comparedLines, he, render_eq_unlines]
  exact Text.lines_unlines (singleLine_documentLines hs)

theorem crlfToLf_render (hs : ∀ key ∈ keys, Text.SingleLine key) :
    Text.crlfToLf (render keys namedExports) = render keys namedExports := by
  have hplain := documentLines_unbroken (fun key hk => (hs key hk).lineFeed_not_mem) namedExports
  rw [render_eq_unlines]
  exact Text.crlfToLf_unlines (fun line hl => (hplain line hl).1) fun line hl => (hplain line hl).2

/-- The script between the lines of two documents changes the fields of the keys that only one of
them declares. -/
theorem changes_script_documents (ho : old ≠ []) (hn : new ≠ []) (hold : old.Nodup)
    (hnew : new.Nodup) (namedExports : Bool) :
    let steps := script ((documentLines old namedExports).map (· ++ [.char '\n']))
      ((documentLines new namedExports).map (· ++ [.char '\n']))
    removedLines steps = (onlyIn (sortKeys old) (sortKeys new)).map fieldLine ∧
      addedLines steps = (onlyIn (sortKeys new) (sortKeys old)).map fieldLine := by
  intro steps
  have hinjective : Function.Injective fun line : Text => line ++ ['\n'] :=
    fun _ _ h => List.append_cancel_right h
  obtain ⟨horder, hold'⟩ := documentLines_inCommonOrder ho hn hold hnew namedExports
  obtain ⟨-, hnew'⟩ := documentLines_inCommonOrder hn ho hnew hold namedExports
  obtain ⟨hremoved, hadded⟩ := (horder.map hinjective).changes_script
  rw [onlyIn_map hinjective, hold', List.map_map] at hremoved
  rw [onlyIn_map hinjective, hnew', List.map_map] at hadded
  exact ⟨hremoved, hadded⟩

/-- The diff of an existing document, whichever of its line ends have a carriage return, and an
expected one with the same kind of export block removes exactly the fields of the keys that only
the existing one declares, and adds exactly those of the keys that only the expected one declares,
both in strictly ascending order of the keys. Both have a key, each key is given once, and no key
breaks a line; there is no limit to how many they are. -/
theorem diff_names_changed_keys (ho : old ≠ []) (hn : new ≠ []) (hold : old.Nodup)
    (hnew : new.Nodup) (hs : ∀ key ∈ old ++ new, Text.SingleLine key)
    (he : Text.crlfToLf existing = render old namedExports) (hl : Text.SingleLine label) :
    let diff := unified label (some existing) (render new namedExports)
    ∃ removed added : List Text,
      (removed.Pairwise (· < ·) ∧ ∀ key, key ∈ removed ↔ key ∈ old ∧ key ∉ new) ∧
      (added.Pairwise (· < ·) ∧ ∀ key, key ∈ added ↔ key ∈ new ∧ key ∉ old) ∧
      markedLines '-' diff = removed.map fieldLine ∧
        markedLines '+' diff = added.map fieldLine := by
  intro diff
  obtain ⟨hsOld, hsNew⟩ := List.forall_mem_append.mp hs
  have hexisting := comparedLines_of_document hsOld he
  have hexpected : comparedLines (render new namedExports) = _ :=
    comparedLines_of_document hsNew (crlfToLf_render hsNew)
  have hwhole : ∀ keys : List Text, (∀ key ∈ keys, Text.SingleLine key) →
      ∀ line ∈ (documentLines keys namedExports).map (· ++ [.char '\n']), Text.WholeLine line := by
    intro keys hsingle line hline
    obtain ⟨body, hbody, rfl⟩ := List.mem_map.mp hline
    exact ⟨body, singleLine_documentLines hsingle body hbody, rfl⟩
  have hplain : ∀ keys : List Text, ∀ line ∈ keys.map fieldLine, PlainStart line := by
    intro keys line hline
    obtain ⟨key, -, rfl⟩ := List.mem_map.mp hline
    exact fieldLine_plainStart key
  obtain ⟨hremoved, hadded⟩ := changes_script_documents ho hn hold hnew namedExports
  obtain ⟨hminus, hplus⟩ := markedLines_unified hl
    (hexisting ▸ hwhole old hsOld) (hexpected ▸ hwhole new hsNew)
    (by rw [hexisting, hexpected, hremoved]; exact hplain _)
    (by rw [hexisting, hexpected, hadded]; exact hplain _)
  rw [hexisting, hexpected, hremoved] at hminus
  rw [hexisting, hexpected, hadded] at hplus
  refine ⟨onlyIn (sortKeys old) (sortKeys new), onlyIn (sortKeys new) (sortKeys old),
    ⟨(sortKeys_strictly hold).filter _, fun key => ?_⟩,
    ⟨(sortKeys_strictly hnew).filter _, fun key => ?_⟩, hminus, hplus⟩
  · rw [mem_onlyIn, mem_sortKeys, mem_sortKeys]
  · rw [mem_onlyIn, mem_sortKeys, mem_sortKeys]

/-- A document with one key, of which one line end has a carriage return, against one with another
key besides: no line is removed, and the field of the other key is added. -/
theorem diff_names_changed_keys_mixedEnds :
    let old : List Text := [['b']]
    let new : List Text := [['b'], ['a']]
    let existing := noticeLine ++ .char '\r' :: .char '\n' ::
      Text.unlines (documentLines old false).tail
    let diff := unified defaultLabel (some existing) (render new false)
    markedLines '-' diff = [] ∧ markedLines '+' diff = [fieldLine ['a']] := by
  intro old new existing diff
  have hdefault : defaultLabel = _ := String.toText_ofList
  have hl : Text.SingleLine defaultLabel := by
    rw [hdefault]
    decide
  have hs : ∀ key ∈ old ++ new, Text.SingleLine key := by decide
  have hb : ∀ key ∈ old, .char '\n' ∉ key := by decide
  obtain ⟨⟨hnotice, -⟩, hrest⟩ :=
    List.forall_mem_cons.mp (show ∀ line ∈ noticeLine :: (documentLines old false).tail, _ from
      documentLines_unbroken hb false)
  have he : Text.crlfToLf existing = render old false := by
    rw [Text.crlfToLf_append_crlf hnotice,
      Text.crlfToLf_unlines (fun line h => (hrest line h).1) fun line h => (hrest line h).2,
      ← Text.unlines_cons, render_eq_unlines]
    rfl
  obtain ⟨removed, added, ⟨-, hremoved⟩, ⟨hascending, hadded⟩, hminus, hplus⟩ :=
    diff_names_changed_keys (List.cons_ne_nil _ _) (List.cons_ne_nil _ _) (by decide) (by decide)
      hs he hl
  have hnone : removed = [] := by
    refine List.eq_nil_iff_forall_not_mem.mpr fun key hm => ?_
    obtain ⟨hin, hout⟩ := (hremoved key).mp hm
    exact hout (List.mem_cons.mpr (Or.inl (List.mem_singleton.mp hin)))
  have hone : added = ([['a']] : List Text) := by
    refine eq_of_ascending hascending (List.pairwise_singleton _ _) fun key => ?_
    rw [hadded, List.mem_cons, List.mem_singleton, List.mem_singleton]
    constructor
    · rintro ⟨hin, hout⟩
      exact hin.resolve_left hout
    · rintro rfl
      exact ⟨Or.inr rfl, by decide⟩
  rw [hnone] at hminus
  rw [hone] at hplus
  exact ⟨hminus, hplus⟩

end StyleTypings.Declaration
