import StyleTypings.Config
import StyleTypings.Proofs.Text.Encoding
import StyleTypings.Proofs.Text.Newlines

/-!
# Where the mode and the export choice come from

A mapping with a value stored under one key holds the same under all other keys. So the mode of the
environment, which is stored under the key of the mode, hides the mode of a configuration and leaves
its export choice alone. A configuration that can be read is loaded if its mode can be written out,
and its options are those two.
-/

namespace StyleTypings

variable {α : Type} {key other k value : Value} {entries first second : List (Value × Value)}
  {environment : Environment} {disk : Disk} {path : Path} {names : List Text}

namespace Value

/-! ## Keys -/

/-- A key that is the same as one of two, and different from the other, tells the two apart. -/
theorem sameKey_eq_false (hk : key.sameKey k = true) (ho : other.sameKey key = false) :
    other.sameKey k = false := by
  unfold sameKey at hk ho ⊢
  cases hkey : key.keyImage? with
  | none =>
    rw [hkey] at hk
    cases hk
  | some image =>
    cases hki : k.keyImage? with
    | none =>
      rw [hkey, hki] at hk
      cases hk
    | some same =>
      rw [hkey, hki] at hk
      rw [hkey, beq_iff_eq.mp hk] at ho
      exact ho

/-- What is stored under a key is found under it. -/
theorem lookup?_store_same (hk : key.sameKey key = true) (value : α) (entries : List (Value × α)) :
    key.lookup? (key.store value entries) = some value := by
  induction entries with
  | nil => rw [store, lookup?, if_pos hk]
  | cons entry entries ih =>
    obtain ⟨k, old⟩ := entry
    rw [store]
    split
    · next hs => rw [lookup?, if_pos hs]
    · next hs => rw [lookup?, if_neg hs, ih]

/-- What is stored under a key cannot be seen under another one. -/
theorem lookup?_store_other (ho : other.sameKey key = false) (value : α)
    (entries : List (Value × α)) :
    other.lookup? (key.store value entries) = other.lookup? entries := by
  induction entries with
  | nil => simp only [store, lookup?, ho, Bool.false_eq_true, if_false]
  | cons entry entries ih =>
    obtain ⟨k, old⟩ := entry
    rw [store]
    split
    · next hs =>
      rw [lookup?, lookup?, sameKey_eq_false hs ho, if_neg Bool.false_ne_true,
        if_neg Bool.false_ne_true]
    · rw [lookup?, lookup?, ih]

end Value

/-! ## The export choice -/

namespace Options

/-- The value is a truth value or a word for true, whatever the size of its letters and the blanks
around it. -/
def MeansTrue (value : Value) : Prop :=
  value = .bool true ∨ ∃ word, value = .text word ∧
    Text.lowerLatin (Text.strip word) ∈ ["true".toText, "yes".toText, "1".toText]

/-- The entry for the export choice means true. An entry with the old key counts only where none has
the new one. -/
def ChoosesExports (entries : List (Value × Value)) : Prop :=
  ∃ value, MeansTrue value ∧
    (namedExportsKey.lookup? entries = some value ∨
      namedExportsKey.lookup? entries = none ∧ namedExportsOldKey.lookup? entries = some value)

/-- A value is taken for true exactly if it means so. -/
theorem truth?_eq_some_true_iff : truth? value = some true ↔ MeansTrue value := by
  unfold MeansTrue
  cases value with
  | bool value => simp [truth?]
  | text word =>
    simp only [truth?, reduceCtorEq, Value.text.injEq, false_or, exists_eq_left', List.mem_cons,
      List.not_mem_nil, or_false]
    split
    · next ht => exact iff_of_true rfl ht
    · next ht =>
      refine iff_of_false ?_ ht
      intro hs
      split at hs <;> cases hs
  | _ => simp [truth?]

theorem truth?_getD_eq_true_iff : (truth? value).getD false = true ↔ MeansTrue value := by
  rw [← truth?_eq_some_true_iff]
  cases truth? value with
  | none => simp
  | some truth => simp

/-- The export choice of a mapping is on exactly if the entry that counts means true. -/
theorem namedExportsOf_eq_true_iff : namedExportsOf entries = true ↔ ChoosesExports entries := by
  unfold namedExportsOf ChoosesExports
  cases namedExportsKey.lookup? entries with
  | some value => simp [truth?_getD_eq_true_iff]
  | none =>
    cases namedExportsOldKey.lookup? entries with
    | some value => simp [truth?_getD_eq_true_iff]
    | none => simp

end Options

/-! ## The mode -/

namespace Config

/-- The mode that counts where nothing else decides it: the one of the environment without the
blanks around it, unless there is none or it is empty, else the one that the entries hold written
out, unless there is none or it is null, else emitting. -/
def effectiveMode (environment : Environment) (entries : List (Value × Value)) : Text :=
  match environment.mode with
  | some (c :: mode) => Text.strip (c :: mode)
  | none | some [] =>
    match Options.modeKey.lookup? entries with
    | none | some .null => Mode.emit.text
    | some value => value.display

/-- Two mappings hold the same under every key but that of the mode, and their modes can be written
out, as all texts, truth values and nulls can. -/
structure AgreeButMode (first second : List (Value × Value)) : Prop where
  /-- They hold the same under all other keys. -/
  others : ∀ key : Value, key.sameKey Options.modeKey = false →
    key.lookup? second = key.lookup? first
  /-- The mode of the first can be written out. -/
  writable : Options.modeWritable first = true
  /-- So can that of the second. -/
  otherWritable : Options.modeWritable second = true

/-- Options read from entries that the mode of the environment was put into have the effective
mode. -/
theorem modeOf_override (environment : Environment) (entries : List (Value × Value)) :
    Options.modeOf (override environment entries) = effectiveMode environment entries := by
  unfold override effectiveMode
  cases environment.mode with
  | none => rfl
  | some mode =>
    cases mode with
    | nil => rfl
    | cons c mode =>
      dsimp only
      rw [Options.modeOf, Value.lookup?_store_same rfl]
      rfl

/-- The mode of the environment is put in at its own key only. -/
theorem lookup?_override (environment : Environment) (ho : key.sameKey Options.modeKey = false)
    (entries : List (Value × Value)) :
    key.lookup? (override environment entries) = key.lookup? entries := by
  unfold override
  split
  · rfl
  · rfl
  · exact Value.lookup?_store_other ho _ entries

/-- The keys of the export choice are not that of the mode. -/
theorem sameKey_modeKey :
    Options.namedExportsKey.sameKey Options.modeKey = false ∧
      Options.namedExportsOldKey.sameKey Options.modeKey = false := by
  decide

/-- The environment has no say about the exports. -/
theorem namedExportsOf_override (environment : Environment) (entries : List (Value × Value)) :
    Options.namedExportsOf (override environment entries) = Options.namedExportsOf entries := by
  rw [Options.namedExportsOf, Options.namedExportsOf,
    lookup?_override environment sameKey_modeKey.1, lookup?_override environment sameKey_modeKey.2]

theorem AgreeButMode.namedExportsOf_eq (ha : AgreeButMode first second) :
    Options.namedExportsOf second = Options.namedExportsOf first := by
  rw [Options.namedExportsOf, Options.namedExportsOf, ha.others _ sameKey_modeKey.1,
    ha.others _ sameKey_modeKey.2]

/-- The mode of the environment is a text, so putting it in does no harm. -/
theorem modeWritable_override (environment : Environment)
    (hw : Options.modeWritable entries = true) :
    Options.modeWritable (override environment entries) = true := by
  unfold override
  split
  · exact hw
  · exact hw
  · rw [Options.modeWritable, Value.lookup?_store_same rfl]
    rfl

/-! ## The configuration -/

/-- The entries of a file that is text without carriage returns are those of the text. -/
theorem readEntries_of_text {text : Text} {bytes : Bytes} {place : Place}
    (hl : disk.locate (Disk.pathOf names) = .ok place)
    (he : disk.entry? place = some (.file bytes)) (ht : Utf8.encode text = .ok bytes)
    (hn : .char '\r' ∉ text)
    (hb : Text.allBlank text = false) (hy : Yaml.load text = .ok (.mapping entries)) :
    readEntries disk names = .ok entries := by
  have hread : disk.read (Disk.pathOf names) = .ok bytes := by
    simp only [Disk.read, hl, he]
  have htext : readText disk (Disk.pathOf names) = .ok text := by
    simp only [readText, hread, Utf8.decode_encode ht, Text.universalNewlines_of_not_mem hn]
  simp [readEntries, entriesOf, hl, he, htext, hb, hy]

/-- A configuration that can be read is loaded if the mode that counts can be written out. -/
theorem load_of_readEntries (hl : locate environment disk path = .ok names)
    (hr : readEntries disk names = .ok entries)
    (hw : Options.modeWritable (override environment entries) = true) :
    load environment disk path = .ok ⟨names.dropLast,
      ⟨effectiveMode environment entries, Options.namedExportsOf entries⟩⟩ := by
  simp only [load, hl, hr, HostOptions.options, hw, if_true, Options.ofEntries, modeOf_override,
    namedExportsOf_override]

/-- It is not loaded if this mode cannot be written out. -/
theorem load_of_not_writable (hl : locate environment disk path = .ok names)
    (hr : readEntries disk names = .ok entries)
    (hw : Options.modeWritable (override environment entries) = false) :
    load environment disk path = .error (.scalar .notWritable) := by
  simp only [load, hl, hr, HostOptions.options, hw, Bool.false_eq_true, if_false]

/-- A configuration that cannot be found or read fails over this, whatever mode the environment
has. -/
theorem load_of_unread {cause : Failure}
    (hu : locate environment disk path = .error cause ∨
      ∃ names, locate environment disk path = .ok names ∧ readEntries disk names = .error cause) :
    load environment disk path = .error cause := by
  rcases hu with hl | ⟨names, hl, hr⟩
  · rw [load, hl]
  · simp only [load, hl, hr]

end Config

end StyleTypings
