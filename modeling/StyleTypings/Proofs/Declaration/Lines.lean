import StyleTypings.Proofs.Keys.Collected
import StyleTypings.Proofs.Text.LineEnds

/-!
# The lines of a declaration document

A document is a fixed number of lines before and after one line for each key. No line ends in
a carriage return, whatever characters the keys have, and only a key with a line feed can make
more lines than there should be. Keys without one can therefore be told from the document: it
determines them up to their order, and the kind of export block with them. Keys with a line
feed are not covered: nothing in a document marks where such a key ends.
-/

namespace StyleTypings.Declaration

variable {first second keys : List Text}

/-- The first line of the banner. -/
def noticeLine : Text := "// This file is automatically generated.".toText

/-- The second line of the banner. -/
def warningLine : Text := "// Please do not change this file!".toText

/-- The line that opens the interface. -/
def openingLine : Text := "interface CssExports \x7b".toText

/-- The lines between the braces: one for each key in ascending order, or one empty line when
there is no key. -/
def fieldLines (keys : List Text) : List Text :=
  if keys = [] then [[]] else (sortKeys keys).map field

/-- The line that declares the exported constant. -/
def constantLine : Text := "export const cssExports: CssExports;".toText

/-- The line in which the two kinds of export block differ. -/
def exportLine (namedExports : Bool) : Text :=
  if namedExports then "export = cssExports;".toText else "export default cssExports;".toText

/-- All lines of the document. -/
def documentLines (keys : List Text) (namedExports : Bool) : List Text :=
  [noticeLine, warningLine, openingLine] ++ fieldLines keys ++
    ([['\x7d'], constantLine, exportLine namedExports] : List Text)

/- The characters of a literal are taken from the literal itself: running the conversion of a
long literal to text would cost the checker much more. -/

/-- The notice at the top is two lines. -/
theorem banner_eq_lines : banner = noticeLine ++ .char '\n' :: warningLine := by
  have hb : banner = _ := String.toText_ofList
  have hn : noticeLine = _ := String.toText_ofList
  have hw : warningLine = _ := String.toText_ofList
  rw [hb, hn, hw]
  rfl

theorem opening_eq_line : "interface CssExports \x7b\n".toText = openingLine ++ ['\n'] := by
  have hi : "interface CssExports \x7b\n".toText = _ := String.toText_ofList
  have ho : openingLine = _ := String.toText_ofList
  rw [hi, ho]
  rfl

/-- The default export is the constant and a line of its own. -/
theorem defaultExport_eq_lines :
    defaultExport =
      constantLine ++ .char '\n' :: "export default cssExports;".toText ++ ['\n'] := by
  have hb : defaultExport = _ := String.toText_ofList
  have hc : constantLine = _ := String.toText_ofList
  have he : "export default cssExports;".toText = _ := String.toText_ofList
  rw [hb, hc, he]
  rfl

/-- The named export is the constant and a line of its own. -/
theorem namedExport_eq_lines :
    namedExport = constantLine ++ .char '\n' :: "export = cssExports;".toText ++ ['\n'] := by
  have hb : namedExport = _ := String.toText_ofList
  have hc : constantLine = _ := String.toText_ofList
  have he : "export = cssExports;".toText = _ := String.toText_ofList
  rw [hb, hc, he]
  rfl

/-- The export at the end is two lines, of which the flag decides the second. -/
theorem exportBlock_eq_lines (namedExports : Bool) :
    exportBlock namedExports = constantLine ++ .char '\n' :: exportLine namedExports ++ ['\n'] := by
  rw [exportBlock, exportLine]
  cases namedExports with
  | false => rw [if_neg Bool.false_ne_true, if_neg Bool.false_ne_true, defaultExport_eq_lines]
  | true => rw [if_pos rfl, if_pos rfl, namedExport_eq_lines]

/-- Sorting neither finds nor loses keys. -/
theorem sortKeys_eq_nil_iff : sortKeys keys = [] ↔ keys = [] := by
  rw [← List.length_eq_zero_iff, ← List.length_eq_zero_iff, (sortKeys_perm keys).length_eq]

/-- The fields, joined and ended, are lines. -/
theorem join_fields (keys : List Text) :
    Text.join ['\n'] ((sortKeys keys).map field) ++ ['\n'] = Text.unlines (fieldLines keys) := by
  rw [Text.join_append_lineFeed, fieldLines]
  simp only [List.map_eq_nil_iff, sortKeys_eq_nil_iff]

/-- The document is its lines with a line feed behind each. -/
theorem render_eq_unlines (keys : List Text) (namedExports : Bool) :
    render keys namedExports = Text.unlines (documentLines keys namedExports) := by
  have hb : "\n\x7d".toText = ['\n', '\x7d'] := String.toText_ofList
  have hc : render keys namedExports = noticeLine ++ .char '\n' :: (warningLine ++ .char '\n' ::
      (openingLine ++ .char '\n' :: (Text.join ['\n'] ((sortKeys keys).map field) ++ [.char '\n'] ++
        .char '\x7d' :: .char '\n' :: (constantLine ++ .char '\n' ::
          (exportLine namedExports ++ [.char '\n']))))) := by
    unfold render renderInterface
    rw [banner_eq_lines, opening_eq_line, hb, exportBlock_eq_lines]
    simp only [List.append_assoc, List.cons_append, List.nil_append]
  rw [hc, join_fields, documentLines]
  simp only [Text.unlines_append, Text.unlines_cons, List.cons_append, List.nil_append]
  rfl

theorem length_field_pos (key : Text) : 0 < (field key).length := by
  have hf : "': string;".toText = _ := String.toText_ofList
  rw [field, hf, List.length_append]
  exact Nat.lt_add_left _ (Nat.zero_lt_succ _)

/-- A field tells its key. -/
theorem field_injective {a b : Text} (he : field a = field b) : a = b :=
  List.append_cancel_left (List.append_cancel_right he)

/-- A field runs over its line exactly if its key does. -/
theorem lineFeed_mem_field {key : Text} :
    .char '\n' ∈ field key ↔ .char '\n' ∈ key := by
  have hl : "  '".toText = _ := String.toText_ofList
  have hr : "': string;".toText = _ := String.toText_ofList
  rw [field, hl, hr]
  simp [Text.ofChars]

/-- A field ends in a semicolon. -/
theorem getLast?_field (key : Text) : (field key).getLast? = some (.char ';') := by
  have hr : "': string;".toText = _ := String.toText_ofList
  rw [field, hr, List.getLast?_append]
  rfl

/-- The lines that hold no key hold no line feed and do not end in a carriage return. -/
theorem frameLines_unbroken (namedExports : Bool) :
    ∀ line ∈
      [noticeLine, warningLine, openingLine, ['\x7d'], constantLine, exportLine namedExports],
      .char '\n' ∉ line ∧ line.getLast? ≠ some (.char '\r') := by
  have hn : noticeLine = _ := String.toText_ofList
  have hw : warningLine = _ := String.toText_ofList
  have ho : openingLine = _ := String.toText_ofList
  have hc : constantLine = _ := String.toText_ofList
  have hd : "export default cssExports;".toText = _ := String.toText_ofList
  have he : "export = cssExports;".toText = _ := String.toText_ofList
  rw [exportLine, hn, hw, ho, hc, hd, he]
  cases namedExports <;> decide

/-- The line of the export tells the flag. -/
theorem exportLine_injective {m n : Bool} (he : exportLine m = exportLine n) : m = n := by
  have hd : "export default cssExports;".toText = _ := String.toText_ofList
  have hn : "export = cssExports;".toText = _ := String.toText_ofList
  rw [exportLine, exportLine, hd, hn] at he
  revert he
  cases m <;> cases n <;> decide

/-- The empty line of an interface without keys is no field, so the lines between the braces
determine the sorted keys. -/
theorem sortKeys_eq_of_fieldLines_eq (he : fieldLines first = fieldLines second) :
    sortKeys first = sortKeys second := by
  have hne : ∀ keys, keys ≠ [] → fieldLines keys ≠ [[]] := by
    intro keys hk hf
    rw [fieldLines, if_neg hk, List.map_eq_singleton_iff] at hf
    obtain ⟨key, -, hkey⟩ := hf
    have hp := length_field_pos key
    rw [hkey] at hp
    exact Nat.lt_irrefl 0 hp
  by_cases hf : first = []
  · by_cases hs : second = []
    · rw [hf, hs]
    · exact absurd (he.symm.trans (if_pos hf)) (hne second hs)
  · by_cases hs : second = []
    · exact absurd (he.trans (if_pos hs)) (hne first hf)
    · rw [fieldLines, fieldLines, if_neg hf, if_neg hs] at he
      exact (List.map_inj_right fun _ _ => field_injective).mp he

/-- Two documents have the same lines exactly if they have the same keys, in any order, and the same
flag. -/
theorem documentLines_eq_iff {m n : Bool} :
    documentLines first m = documentLines second n ↔ first.Perm second ∧ m = n := by
  constructor
  · intro he
    obtain ⟨hopen, hclose⟩ := List.append_inj' he rfl
    have hfields := List.append_cancel_left hopen
    refine ⟨sortKeys_eq_iff_perm.mp (sortKeys_eq_of_fieldLines_eq hfields), ?_⟩
    exact exportLine_injective (by simpa using hclose)
  · rintro ⟨hp, rfl⟩
    have hs := sortKeys_eq_iff_perm.mpr hp
    have hn : first = [] ↔ second = [] := by
      rw [← sortKeys_eq_nil_iff, hs, sortKeys_eq_nil_iff]
    simp only [documentLines, fieldLines, hs, hn]

/-- What holds of the lines that hold no key, of the empty line and of the field of each key holds
of all lines of the document. -/
theorem forall_mem_documentLines {P : Text → Prop} {namedExports : Bool}
    (hframe : ∀ line ∈
      [noticeLine, warningLine, openingLine, ['\x7d'], constantLine, exportLine namedExports],
      P line)
    (hempty : P []) (hfield : ∀ key ∈ keys, P (field key)) :
    ∀ line ∈ documentLines keys namedExports, P line := by
  intro line hl
  rw [documentLines, List.mem_append, List.mem_append] at hl
  rcases hl with (hlead | hmiddle) | htrail
  · exact hframe line (List.mem_append_left _ hlead)
  · rw [fieldLines] at hmiddle
    split at hmiddle
    · rw [List.mem_singleton.mp hmiddle]
      exact hempty
    · obtain ⟨key, hkey, rfl⟩ := List.mem_map.mp hmiddle
      exact hfield key (mem_sortKeys.mp hkey)
  · exact hframe line (List.mem_append_right [noticeLine, warningLine, openingLine] htrail)

/-- Keys without a line feed make lines without one, and no line of a document ends in a
carriage return. -/
theorem documentLines_unbroken (hk : ∀ key ∈ keys, .char '\n' ∉ key) (namedExports : Bool) :
    ∀ line ∈ documentLines keys namedExports,
      .char '\n' ∉ line ∧ line.getLast? ≠ some (.char '\r') := by
  refine forall_mem_documentLines (frameLines_unbroken namedExports) ⟨List.not_mem_nil, nofun⟩ ?_
  intro key hkey
  rw [lineFeed_mem_field, getLast?_field]
  exact ⟨hk key hkey, by decide⟩

/-- Documents of keys without a line feed are the same but for their line ends exactly if they
declare the same keys, in whatever order these were given, with the same export block. -/
theorem same_render_iff {m n : Bool} (hf : ∀ key ∈ first, .char '\n' ∉ key)
    (hs : ∀ key ∈ second, .char '\n' ∉ key) :
    Text.same (some (render first m)) (some (render second n)) = true ↔
      first.Perm second ∧ m = n := by
  have hpf := documentLines_unbroken hf m
  have hps := documentLines_unbroken hs n
  rw [Text.same_iff, render_eq_unlines, render_eq_unlines,
    Text.crlfToLf_unlines (fun l h => (hpf l h).1) (fun l h => (hpf l h).2),
    Text.crlfToLf_unlines (fun l h => (hps l h).1) (fun l h => (hps l h).2),
    ← documentLines_eq_iff]
  constructor
  · exact Text.unlines_injective (fun l h => (hpf l h).1) (fun l h => (hps l h).1)
  · exact congrArg Text.unlines

/-! ## Documents that have bytes -/

/-- A field has a surrogate exactly if its key has one. -/
theorem plain_field_iff {key : Text} : (field key).Plain ↔ key.Plain := by
  rw [field, Text.plain_append, Text.plain_append]
  exact ⟨fun h => h.1.2, fun h => ⟨⟨Text.plain_toText _, h⟩, Text.plain_toText _⟩⟩

/-- The lines that hold no key are plain. -/
theorem frameLines_plain (namedExports : Bool) :
    ∀ line ∈
      [noticeLine, warningLine, openingLine, ['\x7d'], constantLine, exportLine namedExports],
      line.Plain := by
  have he : (exportLine namedExports).Plain := by
    cases namedExports with
    | false => exact Text.plain_toText _
    | true => exact Text.plain_toText _
  simp only [List.forall_mem_cons, List.not_mem_nil, false_imp_iff, forall_const, and_true]
  exact ⟨Text.plain_toText _, Text.plain_toText _, Text.plain_toText _, Text.plain_ofChars ['\x7d'],
    Text.plain_toText _, he⟩

/-- A document is plain exactly if its keys are: every surrogate in it is one of a key. -/
theorem plain_render_iff {namedExports : Bool} :
    (render keys namedExports).Plain ↔ ∀ key ∈ keys, key.Plain := by
  rw [render_eq_unlines, Text.plain_unlines_iff]
  constructor
  · intro h key hkey
    have hline : field key ∈ documentLines keys namedExports := by
      have hne : keys ≠ [] := List.ne_nil_of_mem hkey
      rw [documentLines, fieldLines, if_neg hne]
      exact List.mem_append_left _ (List.mem_append_right _
        (List.mem_map_of_mem (mem_sortKeys.mpr hkey)))
    exact plain_field_iff.mp (h _ hline)
  · intro h
    refine forall_mem_documentLines (frameLines_plain namedExports) (Text.plain_ofChars []) ?_
    exact fun key hkey => plain_field_iff.mpr (h key hkey)

end StyleTypings.Declaration
