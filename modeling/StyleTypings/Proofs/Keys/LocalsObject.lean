import StyleTypings.Proofs.Keys.Draining
import StyleTypings.Proofs.Keys.Selection

/-!
# Locals objects read back

A module that maps keys to values in a locals object is read back: the keys are found in order
and with their repetitions, whatever the values are. The reader does not know where values
begin, but a quote inside a value is escaped, so no entry can be read off there. The one place
where it goes wrong is the separator behind a value: if the next key begins with a colon, the
separator stands between quotes with a colon behind, and it is taken for a key. What else is
found then is not said here.
-/

namespace StyleTypings

namespace Literal

/-- The text with a backslash in front of each quote and each backslash. -/
def escape : Text → Text
  | [] => []
  | c :: text => if c = '"' ∨ c = '\\' then '\\' :: c :: escape text else c :: escape text

/-- An escaped text between quotes is a literal that stands for the text. -/
theorem decode_quote_escape (text : Text) : decode (quote (escape text)) = some text := by
  change body? (escape text ++ ['"']) = some text
  induction text with
  | nil => rfl
  | cons c text ih =>
    rw [escape]
    split
    · next hc =>
      rcases hc with rfl | rfl
      · rw [List.cons_append, List.cons_append, body?, ih]
        · rfl
        all_goals simp
      · rw [List.cons_append, List.cons_append, body?, ih]
        · rfl
        all_goals simp
    · next hc =>
      rw [not_or] at hc
      rw [List.cons_append, body?, ih]
      · rfl
      all_goals simp_all

end Literal

/-! ## Modules with a locals object -/

/-- An entry of a locals object. -/
structure LocalsEntry where
  /-- The key, which is written as it is. -/
  key : Text
  /-- The value, which is written escaped. -/
  value : Text
  deriving DecidableEq, Repr

namespace LocalsEntry

/-- The value as a double-quoted literal. -/
def literal (entry : LocalsEntry) : Text := Literal.quote (Literal.escape entry.value)

/-- The entry as it stands on its line. -/
def render (entry : LocalsEntry) : Text :=
  .char '\t' :: Literal.quote entry.key ++ .char ':' :: .char ' ' :: entry.literal

/-- The key may stand in front of a colon, and the marker that is looked for first stands neither
in the key nor in the value. -/
structure WellFormed (entry : LocalsEntry) : Prop where
  /-- The key is a word that may stand for one. -/
  key : IsKey entry.key
  /-- The marker does not stand in the key. -/
  keyUnmarked : ¬Strategy.legacyMarker <:+: entry.key
  /-- The marker does not stand in the value. -/
  valueUnmarked : ¬Strategy.legacyMarker <:+: entry.literal

instance (entry : LocalsEntry) : Decidable entry.WellFormed :=
  decidable_of_iff (IsKey entry.key ∧ Text.holds entry.key Strategy.legacyMarker = false ∧
      Text.holds entry.literal Strategy.legacyMarker = false)
    ⟨fun ⟨hk, hu, hv⟩ => ⟨hk, Text.holds_eq_false_iff.mp hu, Text.holds_eq_false_iff.mp hv⟩,
      fun ⟨hk, hu, hv⟩ => ⟨hk, Text.holds_eq_false_iff.mpr hu, Text.holds_eq_false_iff.mpr hv⟩⟩

/-- What stands behind a value when these entries are left. -/
def behindValue : List LocalsEntry → Text
  | [] => ['\n', '}', ';', '\n']
  | entry :: entries => .char ',' :: .char '\n' :: (entry.render ++ behindValue entries)

/-- What stands behind the line with the marker. -/
def body : List LocalsEntry → Text
  | [] => behindValue []
  | entry :: entries => entry.render ++ behindValue entries

end LocalsEntry

/-- The text of a module that assigns the entries to its locals object. -/
def localsModule (entries : List LocalsEntry) : Text :=
  "// Exports\n".toText ++ Strategy.currentMarker ++ "\n".toText ++
    Text.join ",\n".toText (entries.map LocalsEntry.render) ++ "\n\x7d;\n".toText

variable {rest : Text} {entry : LocalsEntry} {entries : List LocalsEntry}

namespace LocalsEntry

/-- An entry in front of a text, in the pieces in which it is read. -/
theorem render_append (entry : LocalsEntry) (rest : Text) : entry.render ++ rest =
    (['\t'] : Text) ++ .char '"' :: (entry.key ++ .char '"' :: (([':', ' '] : Text) ++
      .char '"' :: (Literal.escape entry.value ++ .char '"' :: rest))) := by
  simp only [render, literal, Literal.quote, List.append_assoc, List.cons_append, List.nil_append]

/-- Behind a value stands no colon. -/
theorem head?_behindValue (entries : List LocalsEntry) :
    (behindValue entries).head? ≠ some (.char ':') := by
  cases entries with
  | nil => decide
  | cons entry entries => exact fun h => nomatch h

/-- The entries joined by separators are an entry with what stands behind its value. -/
theorem join_append_closing (entry : LocalsEntry) (entries : List LocalsEntry) :
    Text.join [',', '\n'] ((entry :: entries).map render) ++ behindValue [] =
      entry.render ++ behindValue entries := by
  induction entries generalizing entry with
  | nil => rw [Text.join, List.map_singleton, List.intercalate_singleton, behindValue]
  | cons next entries ih =>
    have hnext := ih next
    rw [Text.join, List.map_cons] at hnext ⊢
    rw [List.map_cons, List.intercalate_cons_cons, List.append_assoc, List.append_assoc, hnext]
    rfl

end LocalsEntry

/-- The module is its comment, the marker and the entries. -/
theorem localsModule_eq (entries : List LocalsEntry) : localsModule entries =
    "// Exports\n".toText ++
      (Strategy.currentMarker ++ .char '\n' :: LocalsEntry.body entries) := by
  have hbreak : "\n".toText = ['\n'] := String.toText_ofList
  have hseparator : ",\n".toText = [',', '\n'] := String.toText_ofList
  have hclosing : "\n\x7d;\n".toText = LocalsEntry.behindValue [] := String.toText_ofList
  have hbody : Text.join [',', '\n'] (entries.map LocalsEntry.render) ++
      LocalsEntry.behindValue [] = LocalsEntry.body entries := by
    cases entries with
    | nil => rfl
    | cons entry entries => exact LocalsEntry.join_append_closing entry entries
  delta localsModule
  simp only [hbreak, hseparator, hclosing, List.append_assoc, List.cons_append, List.nil_append,
    hbody]

/-! ## The marker that is found -/

section

open Strategy (legacyMarker legacyMarker_eq)

theorem legacyMarker_ne_nil : legacyMarker ≠ [] := by
  rw [legacyMarker_eq]
  exact List.cons_ne_nil _ _

/-- No character between the parts of an object belongs to the first marker. -/
theorem not_mem_legacyMarker {c : CodePoint} (hc : c = '"' ∨ c = ',' ∨ c = '\n') :
    c ∉ legacyMarker := by
  rw [legacyMarker_eq]
  rcases hc with rfl | rfl | rfl <;> decide

/-- The marker of old modules stands in an entry or behind exactly if it stands in the key, in the
value or behind. -/
theorem legacyMarker_infix_render_iff : legacyMarker <:+: entry.render ++ rest ↔
    legacyMarker <:+: entry.key ∨ legacyMarker <:+: entry.literal ∨ legacyMarker <:+: rest := by
  have hquote : .char '"' ∉ legacyMarker := not_mem_legacyMarker (Or.inl rfl)
  have htab : ¬legacyMarker <:+: ['\t'] := Text.cutAt?_eq_none_iff.mp (by
    rw [legacyMarker_eq]
    rfl)
  have hcolon : ¬legacyMarker <:+: [':', ' '] := Text.cutAt?_eq_none_iff.mp (by
    rw [legacyMarker_eq]
    rfl)
  have hliteral : entry.literal =
      .char '"' :: (Literal.escape entry.value ++ .char '"' :: []) := rfl
  rw [LocalsEntry.render_append, hliteral]
  simp only [Text.infix_append_cons_iff hquote legacyMarker_ne_nil,
    Text.infix_cons_iff_of_not_mem hquote legacyMarker_ne_nil, List.infix_nil,
    legacyMarker_ne_nil, htab, hcolon, false_or, or_false]

/-- The first marker does not stand behind a value if the entries that are left are well formed. -/
theorem legacyMarker_not_infix_behindValue
    (hw : ∀ entry ∈ entries, entry.WellFormed) :
    ¬legacyMarker <:+: LocalsEntry.behindValue entries := by
  have hcomma : .char ',' ∉ legacyMarker := not_mem_legacyMarker (Or.inr (Or.inl rfl))
  have hbreak : .char '\n' ∉ legacyMarker := not_mem_legacyMarker (Or.inr (Or.inr rfl))
  induction entries with
  | nil =>
    refine Text.cutAt?_eq_none_iff.mp ?_
    rw [legacyMarker_eq]
    rfl
  | cons entry entries ih =>
    obtain ⟨⟨-, hkey, hliteral⟩, hentries⟩ := List.forall_mem_cons.mp hw
    rw [LocalsEntry.behindValue, Text.infix_cons_iff_of_not_mem hcomma legacyMarker_ne_nil,
      Text.infix_cons_iff_of_not_mem hbreak legacyMarker_ne_nil, legacyMarker_infix_render_iff,
      not_or, not_or]
    exact ⟨hkey, hliteral, ih hentries⟩

/-- It stands nowhere in a module of well-formed entries. -/
theorem legacyMarker_not_infix_localsModule
    (hw : ∀ entry ∈ entries, entry.WellFormed) :
    ¬legacyMarker <:+: localsModule entries := by
  have hbreak : .char '\n' ∉ legacyMarker := not_mem_legacyMarker (Or.inr (Or.inr rfl))
  have hcomment : "// Exports\n".toText = _ := String.toText_ofList
  have hlead : ¬legacyMarker <:+: "// Exports\n".toText ++ Strategy.currentMarker := by
    refine Text.cutAt?_eq_none_iff.mp ?_
    rw [legacyMarker_eq, hcomment, Strategy.currentMarker_eq]
    rfl
  have hbody : ¬legacyMarker <:+: LocalsEntry.body entries := by
    cases entries with
    | nil => exact legacyMarker_not_infix_behindValue hw
    | cons entry entries =>
      obtain ⟨⟨-, hkey, hliteral⟩, hentries⟩ := List.forall_mem_cons.mp hw
      rw [LocalsEntry.body, legacyMarker_infix_render_iff, not_or, not_or]
      exact ⟨hkey, hliteral, legacyMarker_not_infix_behindValue hentries⟩
  rw [localsModule_eq, ← List.append_assoc,
    Text.infix_append_cons_iff hbreak legacyMarker_ne_nil, not_or]
  exact ⟨hlead, hbody⟩

/-- The object's entries are what is read. -/
theorem select_localsModule
    (hw : ∀ entry ∈ entries, entry.WellFormed) :
    Extraction.select Strategy.defaults (localsModule entries) =
      .ok ⟨"locals".toText, true, .entries (.char '\n' :: LocalsEntry.body entries)⟩ := by
  have hlegacy : Text.cutAt? legacyMarker (localsModule entries) = none :=
    Text.cutAt?_eq_none_iff.mpr (legacyMarker_not_infix_localsModule hw)
  have hcomment : "// Exports\n".toText = _ := String.toText_ofList
  have hlead : .char '_' ∉ "// Exports\n".toText := by
    rw [hcomment]
    decide
  have hcurrent : Text.cutAt? Strategy.currentMarker (localsModule entries) =
      some ("// Exports\n".toText, .char '\n' :: LocalsEntry.body entries) := by
    rw [localsModule_eq, Strategy.currentMarker_eq]
    exact Text.cutAt?_append hlead _ _
  have hmarker : Strategy.currentMarker ≠ [] := by
    rw [Strategy.currentMarker_eq]
    exact List.cons_ne_nil _ _
  have hreport := Strategy.extractLocals_of_cutAt? hmarker hcurrent []
  have hpassed : ∀ marker ∈ [legacyMarker],
      marker ≠ [] ∧ Text.cutAt? marker (localsModule entries) = none :=
    List.forall_mem_singleton.mpr ⟨legacyMarker_ne_nil, hlegacy⟩
  have hdefault : Strategy.extractLocals Strategy.defaultMarkers (localsModule entries) =
      .ok ⟨"locals".toText, true, .entries (.char '\n' :: LocalsEntry.body entries)⟩ := by
    rw [Strategy.defaultMarkers_eq, ← hreport]
    exact Strategy.extractLocals_append hpassed _
  rw [Extraction.select_defaults hdefault]
  rfl

end

/-! ## Reading behind the marker -/

namespace QuotedKey

/-- An escaped text between quotes does not begin with a key in front of a quote and a colon: the
key would end where the text ends, and no colon stands there. -/
theorem escape_append_ne (value : Text) (hr : rest.head? ≠ some (.char ':')) {key : Text}
    (hk : ∀ c ∈ key, c ≠ '"' ∧ c ≠ '\\') (behind : Text) :
    Literal.escape value ++ .char '"' :: rest ≠ key ++ .char '"' :: .char ':' :: behind := by
  induction value generalizing key with
  | nil =>
    intro he
    cases key with
    | nil =>
      obtain ⟨-, rfl⟩ := List.cons.inj he
      exact hr rfl
    | cons d key => exact (hk d List.mem_cons_self).1 (List.cons.inj he).1.symm
  | cons c value ih =>
    intro he
    rw [Literal.escape] at he
    split at he
    · cases key with
      | nil => exact absurd (List.cons.inj he).1 (by decide)
      | cons d key => exact (hk d List.mem_cons_self).2 (List.cons.inj he).1.symm
    · next hc =>
      cases key with
      | nil => exact hc (.inl (List.cons.inj he).1)
      | cons d key =>
        exact ih (fun d hd => hk d (List.mem_cons_of_mem _ hd)) (List.cons.inj he).2

/-- At the quote before a value no key is read, unless a colon stands behind the value. -/
theorem at?_escape (value : Text) (hr : rest.head? ≠ some (.char ':')) :
    at? (.char '"' :: (Literal.escape value ++ .char '"' :: rest)) = none := by
  rw [Option.eq_none_iff_forall_ne_some]
  rintro ⟨key, behind⟩ h
  obtain ⟨hk, he⟩ := at?_eq_some_iff.mp h
  exact escape_append_ne value hr hk.2 behind (List.cons.inj he).2

/-- Reading goes on at the quote behind an escaped text. -/
theorem firstRead_escape (value : Text) (hr : rest.head? ≠ some (.char ':')) :
    firstRead at? (Literal.escape value ++ .char '"' :: rest) =
      firstRead at? (.char '"' :: rest) := by
  induction value with
  | nil => rfl
  | cons c value ih =>
    rw [Literal.escape]
    split
    · next hc =>
      have hbackslash :
          at? (.char '\\' :: c :: (Literal.escape value ++ .char '"' :: rest)) = none :=
        at?_cons_of_ne (by decide) _
      have hescaped : at? (c :: (Literal.escape value ++ .char '"' :: rest)) = none := by
        rcases hc with rfl | rfl
        · exact at?_escape value hr
        · exact at?_cons_of_ne (by decide) _
      rw [List.cons_append, List.cons_append, firstRead_cons_of_none hbackslash,
        firstRead_cons_of_none hescaped, ih]
    · next hc =>
      rw [not_or] at hc
      rw [List.cons_append, firstRead_cons_of_none (at?_cons_of_ne hc.1 _), ih]

end QuotedKey

/-- Between a value and the next line, the separator and nothing else is read off, and this only
if the next key begins with a colon. -/
theorem at?_separator_iff {key behind : Text} :
    QuotedKey.at? (.char '"' :: .char ',' :: .char '\n' :: (entry.render ++ rest)) =
        some (key, behind) ↔
      key = [',', '\n', '\t'] ∧
        .char ':' :: behind =
          entry.key ++ .char '"' :: .char ':' :: .char ' ' :: (entry.literal ++ rest) := by
  have hquote : isKeyChar '"' = false := rfl
  have hseparator : ∀ c ∈ ([',', '\n', '\t'] : Text), isKeyChar c = true := List.all_eq_true.mp rfl
  have htext : .char '"' :: .char ',' :: .char '\n' :: (entry.render ++ rest) =
      .char '"' :: (([',', '\n', '\t'] : Text) ++
      .char '"' :: (entry.key ++
        .char '"' :: .char ':' :: .char ' ' :: (entry.literal ++ rest))) := by
    simp only [LocalsEntry.render, Literal.quote, List.append_assoc, List.cons_append,
      List.nil_append]
  rw [QuotedKey.at?_eq_some_iff, htext, isKey_iff]
  constructor
  · rintro ⟨⟨-, hword⟩, he⟩
    have hwords := (List.cons.inj he).2
    obtain ⟨hk, hbehind⟩ := (word_append_cons_inj hseparator hword hquote).mp hwords
    exact ⟨hk.symm, hbehind.symm⟩
  · rintro ⟨rfl, hbehind⟩
    rw [hbehind]
    exact ⟨⟨List.cons_ne_nil _ _, hseparator⟩, rfl⟩

/-- At the quote behind a value nothing is read, if the next key does not start with a colon. -/
theorem at?_separator_eq_none (hk : IsKey entry.key) (hc : entry.key.head? ≠ some (.char ':')) :
    QuotedKey.at? (.char '"' :: .char ',' :: .char '\n' :: (entry.render ++ rest)) = none := by
  rw [Option.eq_none_iff_forall_ne_some]
  rintro ⟨key, behind⟩ hread
  obtain ⟨-, htext⟩ := at?_separator_iff.mp hread
  obtain ⟨c, word, hword⟩ := List.exists_cons_of_ne_nil hk.1
  rw [hword] at htext hc
  have hhead : .char ':' = c := (List.cons.inj htext).1
  exact hc (congrArg some hhead.symm)

namespace KeyReader

/-- From the beginning of an entry, its key is read, and then what is read from the end of its
value. -/
theorem toList_render (hk : IsKey entry.key) (hr : rest.head? ≠ some (.char ':')) :
    (KeyReader.entries (entry.render ++ rest)).toList =
      entry.key :: (KeyReader.entries (.char '"' :: rest)).toList := by
  have hkey : QuotedKey.at? (.char '"' :: (entry.key ++
      .char '"' :: (([':', ' '] : Text) ++
        .char '"' :: (Literal.escape entry.value ++ .char '"' :: rest)))) =
      some (entry.key,
        .char ' ' :: .char '"' :: (Literal.escape entry.value ++ .char '"' :: rest)) :=
    QuotedKey.at?_eq_some_iff.mpr ⟨hk, rfl⟩
  rw [LocalsEntry.render_append, List.singleton_append,
    toList_entries_cons_of_none (QuotedKey.at?_cons_of_ne (by decide) _),
    toList_entries_of_some hkey,
    toList_entries_cons_of_none (QuotedKey.at?_cons_of_ne (by decide) _),
    toList_entries_cons_of_none (QuotedKey.at?_escape _ hr),
    toList_entries_congr (QuotedKey.firstRead_escape _ hr)]

/-- Behind a value, the keys of the entries that are left are read exactly if none of them begins
with a colon. -/
theorem toList_behindValue_iff (hw : ∀ entry ∈ entries, entry.WellFormed) :
    (KeyReader.entries (.char '"' :: LocalsEntry.behindValue entries)).toList =
      entries.map LocalsEntry.key ↔ ∀ entry ∈ entries, entry.key.head? ≠ some (.char ':') := by
  induction entries with
  | nil =>
    have hnone : (KeyReader.entries (.char '"' :: LocalsEntry.behindValue [])).next? = none := rfl
    rw [toList_of_next?_eq_none hnone]
    exact iff_of_true rfl fun _ h => nomatch h
  | cons entry entries ih =>
    obtain ⟨⟨hk, -, -⟩, hentries⟩ := List.forall_mem_cons.mp hw
    rw [List.map_cons, List.forall_mem_cons, LocalsEntry.behindValue]
    by_cases hcolon : entry.key.head? = some (.char ':')
    · -- the separator is read where the key is expected, and the key does not begin with a comma
      obtain ⟨word, hword⟩ : ∃ word, entry.key = .char ':' :: word :=
        List.head?_eq_some_iff.mp hcolon
      have hread := at?_separator_iff.mpr ⟨rfl, congrArg
        (· ++ .char '"' :: .char ':' :: .char ' ' ::
          (entry.literal ++ LocalsEntry.behindValue entries)) hword.symm⟩
      rw [toList_entries_of_some hread, hword]
      refine iff_of_false (fun hkeys => ?_) fun h => h.1 rfl
      have hhead : (',' : CodePoint) = ':' := (List.cons.inj (List.cons.inj hkeys).1).1
      exact absurd hhead (by decide)
    · rw [toList_entries_cons_of_none (at?_separator_eq_none hk hcolon),
        toList_entries_cons_of_none (QuotedKey.at?_cons_of_ne (by decide) _),
        toList_entries_cons_of_none (QuotedKey.at?_cons_of_ne (by decide) _),
        toList_render hk (LocalsEntry.head?_behindValue entries), List.cons_inj_right,
        ih hentries]
      exact (and_iff_right hcolon).symm

end KeyReader

/-- A module with a locals object is read by the convention of locals, whatever its values are; each
value is written as a literal that stands for it. The keys found are those that were written, in
order and with their repetitions, exactly if no key behind the first one begins with a colon. -/
theorem localsModule_read_back (hw : ∀ entry ∈ entries, entry.WellFormed) :
    (∀ entry ∈ entries, Literal.decode entry.literal = some entry.value) ∧
    ∃ found, Extraction.select Strategy.defaults (localsModule entries) = .ok found ∧
      found.strategy = "locals".toText ∧ found.recognised = true ∧
      (found.keys.toList = entries.map LocalsEntry.key ↔
        ∀ entry ∈ entries.tail, entry.key.head? ≠ some (.char ':')) := by
  refine ⟨fun entry _ => Literal.decode_quote_escape entry.value, _, select_localsModule hw, rfl,
    rfl,
    ?_⟩
  rw [KeyReader.toList_entries_cons_of_none (QuotedKey.at?_cons_of_ne (by decide) _)]
  cases entries with
  | nil =>
    have hnone : (KeyReader.entries (LocalsEntry.body [])).next? = none := rfl
    rw [KeyReader.toList_of_next?_eq_none hnone]
    exact iff_of_true rfl fun _ h => nomatch h
  | cons entry entries =>
    obtain ⟨⟨hk, -, -⟩, hentries⟩ := List.forall_mem_cons.mp hw
    rw [LocalsEntry.body, KeyReader.toList_render hk (LocalsEntry.head?_behindValue entries),
      List.map_cons, List.cons_inj_right, KeyReader.toList_behindValue_iff hentries,
      List.tail_cons]

/-- A first key may begin with a colon, and values may hold quotes; a later key that begins with
a colon is not found. -/
theorem localsModule_read_back_colon :
    (∃ found, Extraction.select Strategy.defaults
        (localsModule [⟨[':', 'a'], ['"', ':']⟩, ⟨['b'], []⟩, ⟨['b'], ['\\']⟩]) = .ok found ∧
      found.keys.toList = ([[':', 'a'], ['b'], ['b']] : List Text)) ∧
    ∃ found, Extraction.select Strategy.defaults
        (localsModule [⟨['b'], []⟩, ⟨[':', 'a'], []⟩]) = .ok found ∧
      found.keys.toList ≠ ([['b'], [':', 'a']] : List Text) := by
  have hfirst : ∀ entry ∈ ([⟨[':', 'a'], ['"', ':']⟩, ⟨['b'], []⟩, ⟨['b'], ['\\']⟩] :
      List LocalsEntry), entry.WellFormed := by decide
  have hsecond : ∀ entry ∈ ([⟨['b'], []⟩, ⟨[':', 'a'], []⟩] : List LocalsEntry),
      entry.WellFormed := by decide
  constructor
  · obtain ⟨-, found, hselect, -, -, hiff⟩ := localsModule_read_back hfirst
    exact ⟨found, hselect, hiff.mpr (by decide)⟩
  · obtain ⟨-, found, hselect, -, -, hiff⟩ := localsModule_read_back hsecond
    exact ⟨found, hselect, mt hiff.mp (by decide)⟩

end StyleTypings
