import StyleTypings.Keys.Reader

/-!
# The two ways of writing a key

An entry of a locals object begins with a key between quotes and a colon. A statement names a
local name and a key between quotes. What is read off the beginning of a text is described by
the texts that begin so, in both directions: a text that does not begin so has nothing to be
read off. A key is read as it is written.
-/

namespace StyleTypings

variable {source key rest name : Text}

/-- A word that may stand for a key: it is not empty and has neither a quote nor a backslash. -/
def IsKey (key : Text) : Prop := key ≠ [] ∧ ∀ c ∈ key, c ≠ '"' ∧ c ≠ '\\'

theorem isKey_iff : IsKey key ↔ key ≠ [] ∧ ∀ c ∈ key, isKeyChar c = true := by
  simp only [IsKey, isKeyChar, Bool.and_eq_true, bne_iff_ne]

/-- A word that may stand for the local name in a statement: it is not empty and has only small
letters of the Latin alphabet, digits and underscores. -/
def IsLocalName (name : Text) : Prop :=
  name ≠ [] ∧ ∀ c ∈ name, c = '_' ∨ (.char 'a' ≤ c ∧ c ≤ 'z') ∨ (.char '0' ≤ c ∧ c ≤ '9')

theorem isLocalName_iff : IsLocalName name ↔ name ≠ [] ∧ ∀ c ∈ name, isLocalChar c = true := by
  simp only [IsLocalName, isLocalChar, Bool.or_eq_true, Bool.and_eq_true, beq_iff_eq,
    decide_eq_true_eq, or_assoc]

/-- A word is one without characters that cannot belong to it. -/
theorem isWord_iff {p : CodePoint → Bool} {word : Text} :
    (!word.isEmpty && word.all p) = true ↔ word ≠ [] ∧ ∀ c ∈ word, p c = true := by
  rw [Bool.and_eq_true, Bool.not_eq_true', List.isEmpty_eq_false_iff, List.all_eq_true]

instance : Decidable (IsKey key) :=
  decidable_of_iff ((!key.isEmpty && key.all isKeyChar) = true) (isWord_iff.trans isKey_iff.symm)

instance : Decidable (IsLocalName name) :=
  decidable_of_iff ((!name.isEmpty && name.all isLocalChar) = true)
    (isWord_iff.trans isLocalName_iff.symm)

/-- A word in front of a character that cannot belong to it ends there. -/
theorem takeWhile_word {p : CodePoint → Bool} {word : Text} {c : CodePoint}
    (hw : ∀ c ∈ word, p c = true)
    (hc : p c = false) (rest : Text) :
    (word ++ c :: rest).takeWhile p = word ∧ (word ++ c :: rest).dropWhile p = c :: rest := by
  rw [List.takeWhile_append_of_pos hw, List.dropWhile_append_of_pos hw, List.takeWhile_cons,
    List.dropWhile_cons, hc]
  exact ⟨List.append_nil word, rfl⟩

/-- A word is determined by a text in which a character that cannot belong to it stands behind. -/
theorem word_append_cons_inj {p : CodePoint → Bool} {first second : Text} {c : CodePoint}
    (hf : ∀ c ∈ first, p c = true) (hs : ∀ c ∈ second, p c = true) (hc : p c = false)
    {behind later : Text} :
    first ++ c :: behind = second ++ c :: later ↔ first = second ∧ behind = later := by
  constructor
  · intro he
    obtain ⟨htf, hdf⟩ := takeWhile_word hf hc behind
    obtain ⟨hts, hds⟩ := takeWhile_word hs hc later
    rw [he] at htf hdf
    exact ⟨htf.symm.trans hts, (List.cons.inj (hdf.symm.trans hds)).2⟩
  · rintro ⟨rfl, rfl⟩
    rfl

/-- A text is a word and what does not belong to it. -/
theorem takeWhile_spec (p : CodePoint → Bool) (text : Text) :
    (∀ c ∈ text.takeWhile p, p c = true) ∧ text = text.takeWhile p ++ text.dropWhile p :=
  ⟨List.all_eq_true.mp List.all_takeWhile, List.takeWhile_append_dropWhile.symm⟩

namespace QuotedKey

/-- An entry is read off exactly the texts that begin with a key between quotes and a colon. -/
theorem at?_eq_some_iff : at? source = some (key, rest) ↔
    IsKey key ∧ source = .char '"' :: key ++ .char '"' :: .char ':' :: rest := by
  constructor
  · intro h
    unfold at? at h
    split at h
    · next text =>
      split at h
      · next k word rest' ht hd =>
        cases h
        obtain ⟨hall, htext⟩ := takeWhile_spec isKeyChar text
        rw [ht] at hall
        rw [ht, hd] at htext
        refine ⟨isKey_iff.mpr ⟨List.cons_ne_nil _ _, hall⟩, ?_⟩
        rw [htext]
        rfl
      · cases h
    · cases h
  · rintro ⟨hk, rfl⟩
    have hquote : isKeyChar '"' = false := rfl
    obtain ⟨hne, hall⟩ := isKey_iff.mp hk
    obtain ⟨ht, hd⟩ := takeWhile_word hall hquote (':' :: rest)
    obtain ⟨k, word, rfl⟩ := List.exists_cons_of_ne_nil hne
    rw [List.cons_append, at?, ht, hd]
    rfl

/-- An entry begins with a quote. -/
theorem at?_cons_of_ne {c : CodePoint} (hc : c ≠ '"') (text : Text) : at? (c :: text) = none := by
  rw [Option.eq_none_iff_forall_ne_some]
  rintro ⟨key, rest⟩ h
  exact hc (List.cons.inj (at?_eq_some_iff.mp h).2).1

end QuotedKey

namespace ExportStatement

/-- The words in front of the local name. -/
def opening : Text := ['e', 'x', 'p', 'o', 'r', 't', ' ', '{', ' ']

/-- The statement that exports a local name under a key. -/
def render (name key : Text) : Text :=
  opening ++ name ++ " as ".toText ++ Literal.quote key ++ " \x7d".toText

theorem render_append (name key rest : Text) : render name key ++ rest =
    opening ++ (name ++ .char ' ' :: ("as \"".toText ++
      (key ++ .char '"' :: .char ' ' :: .char '}' :: rest))) := by
  have ha : " as ".toText = [' ', 'a', 's', ' '] := String.toText_ofList
  have hc : " \x7d".toText = [' ', '}'] := String.toText_ofList
  have hw : "as \"".toText = ['a', 's', ' ', '"'] := String.toText_ofList
  simp only [render, ha, hc, hw, Literal.quote, List.append_assoc, List.cons_append,
    List.nil_append]

/-- A statement is read off exactly the texts that begin with one. -/
theorem at?_eq_some_iff : at? source = some (key, rest) ↔
    ∃ name, IsLocalName name ∧ IsKey key ∧ source = render name key ++ rest := by
  unfold at?
  simp only [Option.bind_eq_bind, Option.bind_none, Option.ite_none_left_eq_some,
    Option.bind_eq_some_iff, Text.after?_eq_some_iff, List.isEmpty_iff, Option.pure_def,
    Option.some.injEq, Prod.mk.injEq, render_append]
  constructor
  · rintro ⟨behindOpening, rfl, hname, behindName, hn, hkey, behindKey, hk, word, hw, rfl, rfl⟩
    obtain ⟨hlocal, hsplitName⟩ := takeWhile_spec isLocalChar behindOpening
    obtain ⟨hall, hsplitKey⟩ := takeWhile_spec isKeyChar behindName
    have hword : IsKey (behindName.takeWhile isKeyChar) := isKey_iff.mpr ⟨hkey, hall⟩
    rw [Literal.decode_quote hword.2, Option.some.injEq] at hw
    rw [hw] at hword hsplitKey
    rw [hn, hsplitKey, hk] at hsplitName
    exact ⟨_, isLocalName_iff.mpr ⟨hname, hlocal⟩, hword, congrArg (opening ++ ·) hsplitName⟩
  · rintro ⟨name, hn, hk, rfl⟩
    obtain ⟨hname, hlocal⟩ := isLocalName_iff.mp hn
    obtain ⟨hkey, hall⟩ := isKey_iff.mp hk
    have hblank : isLocalChar ' ' = false := rfl
    have hquote : isKeyChar '"' = false := rfl
    obtain ⟨htn, hdn⟩ := takeWhile_word hlocal hblank
      ("as \"".toText ++ (key ++ .char '"' :: .char ' ' :: .char '}' :: rest))
    obtain ⟨htk, hdk⟩ := takeWhile_word hall hquote (.char ' ' :: .char '}' :: rest)
    refine ⟨_, rfl, ?_, key ++ .char '"' :: .char ' ' :: .char '}' :: rest, hdn, ?_, rest, hdk, key,
      ?_, rfl, rfl⟩
    · rw [htn]
      exact hname
    · rw [htk]
      exact hkey
    · rw [htk]
      exact Literal.decode_quote hk.2

/-- A statement begins with its opening. -/
theorem at?_of_not_prefix (hn : ¬opening <+: source) : at? source = none := by
  rw [Option.eq_none_iff_forall_ne_some]
  rintro ⟨key, rest⟩ h
  obtain ⟨name, -, -, rfl⟩ := at?_eq_some_iff.mp h
  rw [render_append] at hn
  exact hn (List.prefix_append _ _)

end ExportStatement

end StyleTypings
