import StyleTypings.Config
import StyleTypings.Proofs.Keys.Selection
import StyleTypings.Proofs.Keys.Spans
import StyleTypings.Proofs.Text.Encoding

/-!
# Keys of texts that have bytes

A key is read off a text as a part of it, and so is what is left to be read. So the keys of a plain
text are plain, and the text of a file is one, whatever its line ends are made. Strategies that are
given by a host may report other keys; nothing is said of these here.
-/

namespace StyleTypings

variable {readOff : Text → Option (Text × Text)} {source key rest text : Text}
  {reader later : KeyReader} {found : Extraction}

theorem Text.plain_universalNewlines (h : text.Plain) : (universalNewlines text).Plain := by
  induction text using universalNewlines.induct with
  | case1 => exact h
  | case2 text ih =>
    rw [universalNewlines]
    exact plain_cons.mpr ⟨rfl, ih (plain_cons.mp (plain_cons.mp h).2).2⟩
  | case3 text hl ih =>
    rw [universalNewlines.eq_3 text hl]
    exact plain_cons.mpr ⟨rfl, ih (plain_cons.mp h).2⟩
  | case4 c text hr hc ih =>
    rw [universalNewlines.eq_4 c text hr hc]
    exact plain_cons.mpr ⟨(plain_cons.mp h).1, ih (plain_cons.mp h).2⟩

/-! ## One key -/

/-- What is read off a plain text, and what is left of it, is plain. -/
def ReadsPlain (readOff : Text → Option (Text × Text)) : Prop :=
  ∀ {source key rest : Text}, readOff source = some (key, rest) → source.Plain →
    key.Plain ∧ rest.Plain

/-- A quoted key of a text without surrogates has none. -/
theorem QuotedKey.readsPlain : ReadsPlain QuotedKey.at? := by
  intro source key rest h hs
  obtain ⟨-, rfl⟩ := at?_eq_some_iff.mp h
  obtain ⟨hkey, hbehind⟩ := Text.plain_append.mp hs
  exact ⟨(Text.plain_cons.mp hkey).2, (Text.plain_cons.mp (Text.plain_cons.mp hbehind).2).2⟩

/-- Nor has one of an export statement. -/
theorem ExportStatement.readsPlain : ReadsPlain ExportStatement.at? := by
  intro source key rest h hs
  obtain ⟨name, -, -, rfl⟩ := at?_eq_some_iff.mp h
  obtain ⟨hstatement, hrest⟩ := Text.plain_append.mp hs
  refine ⟨hstatement.of_subset fun c hc => ?_, hrest⟩
  simp only [render, Literal.quote, List.mem_append, List.mem_cons]
  exact Or.inl (Or.inr (Or.inl (Or.inr hc)))

theorem ReadsPlain.firstRead (hr : ReadsPlain readOff) : ReadsPlain (firstRead readOff) := by
  intro source key rest h hs
  obtain ⟨i, hi, -⟩ := exists_of_firstRead_eq_some h
  exact hr hi (hs.of_subset fun _ hc => List.mem_of_mem_drop hc)

/-! ## All keys -/

namespace KeyReader

/-- What is left to be read is plain. -/
def Plain : KeyReader → Prop
  | .entries source => source.Plain
  | .statements source => source.Plain
  | .listed keys => ∀ key ∈ keys, key.Plain

/-- What a plain reader yields is plain, and it stays so. -/
theorem Plain.next? (hp : reader.Plain) (h : reader.next? = some (key, later)) :
    key.Plain ∧ later.Plain := by
  cases reader with
  | entries source =>
    rw [KeyReader.next?, QuotedKey.next?_eq_firstRead, Option.map_eq_some_iff] at h
    obtain ⟨⟨key, rest⟩, hread, he⟩ := h
    cases he
    exact QuotedKey.readsPlain.firstRead hread hp
  | statements source =>
    rw [KeyReader.next?, ExportStatement.next?_eq_firstRead, Option.map_eq_some_iff] at h
    obtain ⟨⟨key, rest⟩, hread, he⟩ := h
    cases he
    exact ExportStatement.readsPlain.firstRead hread hp
  | listed keys =>
    cases keys with
    | nil => cases h
    | cons first keys =>
      cases h
      exact List.forall_mem_cons.mp hp

/-- All keys that are left are plain if what is left to be read is. -/
theorem Plain.toList (hp : reader.Plain) : ∀ key ∈ reader.toList, key.Plain := by
  -- Each key that is read leaves less to be read, and that carries the induction.
  induction hb : reader.bound using Nat.strongRecOn generalizing reader with
  | ind bound ih =>
    cases hr : reader.next? with
    | none =>
      rw [toList_of_next?_eq_none hr]
      exact fun key hk => absurd hk List.not_mem_nil
    | some found =>
      obtain ⟨first, later⟩ := found
      obtain ⟨hfirst, hlater⟩ := hp.next? hr
      rw [toList_of_next? hr, List.forall_mem_cons]
      exact ⟨hfirst, ih later.bound (hb ▸ bound_lt_of_next? hr) hlater rfl⟩

end KeyReader

/-! ## The strategies that are used unless others are given -/

/-- The keys behind a marker in a text without surrogates have none. -/
theorem Strategy.extractLocals_plain {markers : List Text} (ht : text.Plain)
    (h : extractLocals markers text = .ok found) : found.keys.Plain := by
  induction markers with
  | nil =>
    cases h
    exact fun key hk => absurd hk List.not_mem_nil
  | cons marker markers ih =>
    rw [extractLocals] at h
    split at h
    · cases h
    · split at h
      · next before tail hcut =>
        cases h
        rw [Text.eq_of_cutAt? hcut] at ht
        exact (Text.plain_append.mp ht).2
      · exact ih h

/-- The keys that they find in a plain text are plain. -/
theorem Extraction.plain_of_select (ht : text.Plain)
    (h : select Strategy.defaults text = .ok found) : ∀ key ∈ found.keys.toList, key.Plain := by
  obtain ⟨report, hr⟩ := Strategy.extractLocals_returns Strategy.defaultMarkers_ne_nil text
  rw [select_defaults hr] at h
  cases h
  refine KeyReader.Plain.toList ?_
  split
  · exact Strategy.extractLocals_plain ht hr
  · exact ht

/-- The text of a file is plain. -/
theorem Config.plain_of_readText {disk : Disk} {path : Path}
    (h : readText disk path = .ok text) : text.Plain := by
  unfold readText at h
  split at h
  · cases h
  · split at h
    · cases h
    · next hd =>
      cases h
      exact Text.plain_universalNewlines (Utf8.plain_of_decode hd)

end StyleTypings
