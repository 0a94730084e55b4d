import StyleTypings.Proofs.Keys.Draining
import StyleTypings.Proofs.Keys.Selection
import StyleTypings.Proofs.Text.Newlines

/-!
# Keys and line ends

No word that makes a key a key has a character that ends a line: neither the markers nor what
stands around a key. So when all line ends of a text are made line feeds, the same strategy is
selected, and the same keys are read, each with its own line ends made line feeds. A key can
become another key by this; a key without a carriage return stays as it is.
-/

namespace StyleTypings

open Text

variable {source key rest : Text} {readOff : Text → Option (Text × Text)}

/-! ## One key -/

/-- A word stays one when its line ends change. -/
theorem isKey_universalNewlines_iff : IsKey (universalNewlines key) ↔ IsKey key := by
  have hquote : .char '"' ∈ universalNewlines key ↔ .char '"' ∈ key :=
    mem_universalNewlines_iff (by decide) (by decide)
  have hbackslash : .char '\\' ∈ universalNewlines key ↔ .char '\\' ∈ key :=
    mem_universalNewlines_iff (by decide) (by decide)
  have hwords (word : Text) :
      (∀ c ∈ word, c ≠ '"' ∧ c ≠ '\\') ↔ .char '"' ∉ word ∧ .char '\\' ∉ word := by
    simp only [imp_and, forall_and, ne_eq, List.forall_mem_ne']
  simp only [IsKey, ne_eq, universalNewlines_eq_nil_iff, hwords, hquote, hbackslash]

/-- A way of reading a key off reads the same off a text whose line ends were made line feeds, with
line feeds in the key and in what is left. -/
def ReadsThroughLineEnds (readOff : Text → Option (Text × Text)) : Prop :=
  ∀ source, readOff (universalNewlines source) =
    (readOff source).map (Prod.map universalNewlines universalNewlines)

theorem readsThroughLineEnds_iff : ReadsThroughLineEnds readOff ↔
    ∀ source found, readOff (universalNewlines source) = some found ↔
      ∃ key rest, readOff source = some (key, rest) ∧
        (universalNewlines key, universalNewlines rest) = found := by
  refine forall_congr' fun source => ?_
  rw [Option.ext_iff]
  simp only [Option.map_eq_some_iff, Prod.exists, Prod.map]

/-- Quoted keys are read through line ends. -/
theorem QuotedKey.readsThroughLineEnds : ReadsThroughLineEnds QuotedKey.at? := by
  have hquote : Unbroken ['"'] := by decide
  have hcolon : Unbroken [':'] := by decide
  rw [readsThroughLineEnds_iff]
  rintro source ⟨key, rest⟩
  have hsplit (key rest : Text) :
      .char '"' :: key ++ .char '"' :: .char ':' :: rest =
        (['"'] : Text) ++ (key ++ .char '"' :: (([':'] : Text) ++ rest)) := rfl
  simp only [QuotedKey.at?_eq_some_iff, hsplit, universalNewlines_eq_append_iff hquote,
    universalNewlines_eq_append_cons_iff (c := '"') (by decide) (by decide),
    universalNewlines_eq_append_iff hcolon, Prod.mk.injEq]
  constructor
  · rintro ⟨hk, _, rfl, key, _, rfl, rfl, rest, rfl, rfl⟩
    exact ⟨key, rest, ⟨isKey_universalNewlines_iff.mp hk, rfl⟩, rfl, rfl⟩
  · rintro ⟨key, rest, ⟨hk, rfl⟩, rfl, rfl⟩
    exact ⟨isKey_universalNewlines_iff.mpr hk, _, rfl, key, _, rfl, rfl, rest, rfl, rfl⟩

/-- Export statements are read through line ends. -/
theorem ExportStatement.readsThroughLineEnds : ReadsThroughLineEnds ExportStatement.at? := by
  have hopening : Unbroken opening := by decide
  have has : Unbroken [' ', 'a', 's', ' ', '"'] := by decide
  have hclosing : Unbroken [' ', '}'] := by decide
  have hname {name : Text} (hn : IsLocalName name) : Unbroken name := by
    refine ⟨fun hr => ?_, fun hf => ?_⟩
    · exact absurd (hn.2 _ hr) (by decide)
    · exact absurd (hn.2 _ hf) (by decide)
  have hsplit (name key rest : Text) : render name key ++ rest =
      opening ++ (name ++ (([' ', 'a', 's', ' ', '"'] : Text) ++
        (key ++ .char '"' :: (([' ', '}'] : Text) ++ rest)))) := by
    rw [render_append]
    rfl
  rw [readsThroughLineEnds_iff]
  rintro source ⟨key, rest⟩
  simp only [ExportStatement.at?_eq_some_iff, hsplit, Prod.mk.injEq]
  constructor
  · rintro ⟨name, hn, hk, he⟩
    obtain ⟨_, hsource, hbehindOpening⟩ := (universalNewlines_eq_append_iff hopening).mp he
    obtain ⟨_, rfl, hbehindName⟩ := (universalNewlines_eq_append_iff (hname hn)).mp hbehindOpening
    obtain ⟨_, rfl, hquoted⟩ := (universalNewlines_eq_append_iff has).mp hbehindName
    obtain ⟨key, _, rfl, rfl, hbehindKey⟩ :=
      (universalNewlines_eq_append_cons_iff (by decide) (by decide)).mp hquoted
    obtain ⟨rest, rfl, rfl⟩ := (universalNewlines_eq_append_iff hclosing).mp hbehindKey
    exact ⟨key, rest, ⟨name, hn, isKey_universalNewlines_iff.mp hk, hsource⟩, rfl, rfl⟩
  · rintro ⟨key, rest, ⟨name, hn, hk, rfl⟩, rfl, rfl⟩
    refine ⟨name, hn, isKey_universalNewlines_iff.mpr hk, ?_⟩
    rw [universalNewlines_eq_append_iff hopening]
    refine ⟨_, rfl, (universalNewlines_eq_append_iff (hname hn)).mpr ⟨_, rfl, ?_⟩⟩
    refine (universalNewlines_eq_append_iff has).mpr ⟨_, rfl, ?_⟩
    refine (universalNewlines_eq_append_cons_iff (by decide) (by decide)).mpr
      ⟨key, _, rfl, rfl, ?_⟩
    exact (universalNewlines_eq_append_iff hclosing).mpr ⟨rest, rfl, rfl⟩

/-- The first key is the same, with line feeds in it and in what is left. A character that ends a
line begins nothing that could be read off. -/
theorem firstRead_universalNewlines (hr : ReadsThroughLineEnds readOff)
    (hb : ∀ c : CodePoint, c = '\r' ∨ c = '\n' → ∀ text, readOff (c :: text) = none) :
    ReadsThroughLineEnds (firstRead readOff) := by
  intro source
  have hreturn := hb '\r' (Or.inl rfl)
  have hfeed := hb '\n' (Or.inr rfl)
  induction source using universalNewlines.induct with
  | case1 => rfl
  | case2 source ih =>
    rw [universalNewlines, firstRead_cons_of_none (hfeed _), firstRead_cons_of_none (hreturn _),
      firstRead_cons_of_none (hfeed _), ih]
  | case3 source hl ih =>
    rw [universalNewlines.eq_3 source hl, firstRead_cons_of_none (hfeed _),
      firstRead_cons_of_none (hreturn _), ih]
  | case4 c source _ hc ih =>
    have hhere := hr (c :: source)
    rw [universalNewlines_cons_of_ne hc] at hhere ⊢
    rw [firstRead, firstRead, hhere]
    cases readOff (c :: source) with
    | some found => rfl
    | none => exact ih

/-! ## All keys -/

namespace KeyReader

/-- The reader of the same keys in a text whose line ends were made line feeds. -/
def withLineFeeds : KeyReader → KeyReader
  | .entries source => .entries (universalNewlines source)
  | .statements source => .statements (universalNewlines source)
  | .listed keys => .listed (keys.map universalNewlines)

/-- A reader of the text with other line ends reads the same keys, with other line ends. -/
theorem next?_withLineFeeds (reader : KeyReader) : reader.withLineFeeds.next? =
    reader.next?.map (Prod.map universalNewlines withLineFeeds) := by
  cases reader with
  | entries source =>
    have hbreak : ∀ c : CodePoint, c = '\r' ∨ c = '\n' →
        ∀ text, QuotedKey.at? (c :: text) = none := by
      rintro c (rfl | rfl) text <;> exact QuotedKey.at?_cons_of_ne (by decide) text
    rw [withLineFeeds, next?, next?, QuotedKey.next?_eq_firstRead, QuotedKey.next?_eq_firstRead,
      firstRead_universalNewlines QuotedKey.readsThroughLineEnds hbreak source]
    cases firstRead QuotedKey.at? source <;> rfl
  | statements source =>
    have hbreak : ∀ c : CodePoint, c = '\r' ∨ c = '\n' →
        ∀ text, ExportStatement.at? (c :: text) = none := by
      rintro c (rfl | rfl) text
      · exact ExportStatement.at?_of_not_prefix fun hp =>
          absurd (List.cons_prefix_cons.mp hp).1 (by decide)
      · exact ExportStatement.at?_of_not_prefix fun hp =>
          absurd (List.cons_prefix_cons.mp hp).1 (by decide)
    rw [withLineFeeds, next?, next?, ExportStatement.next?_eq_firstRead,
      ExportStatement.next?_eq_firstRead,
      firstRead_universalNewlines ExportStatement.readsThroughLineEnds hbreak source]
    cases firstRead ExportStatement.at? source <;> rfl
  | listed keys => cases keys <;> rfl

/-- The keys are the same, with their line ends made line feeds. -/
theorem toList_withLineFeeds (reader : KeyReader) :
    reader.withLineFeeds.toList = reader.toList.map universalNewlines := by
  have hnext := next?_withLineFeeds reader
  -- Each key that is read leaves less to be read, and that carries the induction.
  induction hb : reader.bound using Nat.strongRecOn generalizing reader with
  | ind bound ih =>
    cases hr : reader.next? with
    | none =>
      rw [hr] at hnext
      rw [toList_of_next?_eq_none hr, toList_of_next?_eq_none hnext]
      rfl
    | some found =>
      obtain ⟨key, later⟩ := found
      rw [hr] at hnext
      have hlater :=
        ih later.bound (hb ▸ bound_lt_of_next? hr) later (next?_withLineFeeds later) rfl
      rw [toList_of_next? hr, toList_of_next? hnext, List.map_cons, hlater]

end KeyReader

/-! ## The strategy -/

/-- The report with line feeds in the keys. -/
def Extraction.withLineFeeds (report : Extraction) : Extraction :=
  { report with keys := report.keys.withLineFeeds }

/-- The keys behind a marker are the same, with other line ends. -/
theorem Strategy.extractLocals_universalNewlines {markers : List Text}
    (hm : ∀ marker ∈ markers, Unbroken marker) (text : Text) :
    extractLocals markers (universalNewlines text) =
      (extractLocals markers text).map Extraction.withLineFeeds := by
  induction markers with
  | nil => rfl
  | cons marker markers ih =>
    obtain ⟨hmarker, hmarkers⟩ := List.forall_mem_cons.mp hm
    rw [extractLocals, extractLocals, cutAt?_universalNewlines hmarker]
    split
    · rfl
    · cases cutAt? marker text with
      | some cut => rfl
      | none => exact ih hmarkers

theorem Strategy.defaultMarkers_unbroken : ∀ marker ∈ defaultMarkers, Unbroken marker := by
  rw [defaultMarkers_eq, legacyMarker_eq, currentMarker_eq]
  decide

/-- The default strategies report the same on a text whose line ends were made line feeds, with
line feeds in the keys. -/
theorem Extraction.select_universalNewlines (text : Text) :
    select Strategy.defaults (universalNewlines text) =
      (select Strategy.defaults text).map Extraction.withLineFeeds := by
  obtain ⟨report, hr⟩ := Strategy.extractLocals_returns Strategy.defaultMarkers_ne_nil text
  have hl := Strategy.extractLocals_universalNewlines Strategy.defaultMarkers_unbroken text
  rw [hr] at hl
  rw [select_defaults hr, select_defaults hl]
  cases hrec : report.recognised with
  | true =>
    have hkept : report.withLineFeeds.recognised = true := hrec
    rw [if_pos hkept, if_pos rfl]
    rfl
  | false =>
    have hkept : ¬report.withLineFeeds.recognised = true := by
      rw [Bool.not_eq_true]
      exact hrec
    rw [if_neg hkept, if_neg Bool.false_ne_true]
    rfl

end StyleTypings
