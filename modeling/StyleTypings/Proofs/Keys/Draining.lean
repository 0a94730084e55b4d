import StyleTypings.Proofs.Keys.Patterns

/-!
# Reading all keys

A reader looks for the first place where a key can be read off, and goes on behind it. Each key
brings it nearer to the end of the text, so reading all keys is reading one and then all that
are left. A part of the text in which nothing can be read off may be left out. This is the same
for both ways of writing a key, so it is said of the way in which one is read off.
-/

namespace StyleTypings

variable {source key rest : Text} {found : Text × Text} {c : CodePoint}
  {readOff : Text → Option (Text × Text)}

/-! ## The first place where a key can be read off -/

/-- What is read off at the first place where anything can be read off. -/
def firstRead (readOff : Text → Option (Text × Text)) : Text → Option (Text × Text)
  | [] => none
  | c :: source =>
    match readOff (c :: source) with
    | some found => some found
    | none => firstRead readOff source

/-- The next quoted key is the first that can be read off. -/
theorem QuotedKey.next?_eq_firstRead (source : Text) :
    QuotedKey.next? source = firstRead QuotedKey.at? source := by
  induction source with
  | nil => rfl
  | cons c source ih =>
    cases hr : QuotedKey.at? (c :: source) with
    | some found => simp only [QuotedKey.next?, firstRead, hr]
    | none => simp only [QuotedKey.next?, firstRead, hr, ih]

/-- The next export statement is the first that can be read off. -/
theorem ExportStatement.next?_eq_firstRead (source : Text) :
    ExportStatement.next? source = firstRead ExportStatement.at? source := by
  induction source with
  | nil => rfl
  | cons c source ih =>
    cases hr : ExportStatement.at? (c :: source) with
    | some found => simp only [ExportStatement.next?, firstRead, hr]
    | none => simp only [ExportStatement.next?, firstRead, hr, ih]

/-- What can be read off at once is read first. -/
theorem firstRead_of_some (hs : source ≠ []) (h : readOff source = some found) :
    firstRead readOff source = some found := by
  obtain ⟨c, source, rfl⟩ := List.exists_cons_of_ne_nil hs
  rw [firstRead, h]

/-- Where nothing can be read off, the search goes on behind the first character. -/
theorem firstRead_cons_of_none (h : readOff (c :: source) = none) :
    firstRead readOff (c :: source) = firstRead readOff source := by
  rw [firstRead, h]

/-- A lead in which nothing can be read off may be left out. -/
theorem firstRead_append {lead : Text}
    (h : ∀ part, part <:+ lead → part ≠ [] → readOff (part ++ source) = none) :
    firstRead readOff (lead ++ source) = firstRead readOff source := by
  induction lead with
  | nil => rfl
  | cons c lead ih =>
    have hhead := h (c :: lead) (List.suffix_refl _) (List.cons_ne_nil _ _)
    rw [List.cons_append] at hhead ⊢
    rw [firstRead_cons_of_none hhead]
    exact ih fun part hp hn => h part (hp.trans (List.suffix_cons c lead)) hn

/-- If what is left behind a key is shorter than the text that begins with it, then so is what
is left behind the first one. -/
theorem length_firstRead_lt
    (hshort : ∀ source found, readOff source = some found → found.2.length < source.length)
    (h : firstRead readOff source = some found) : found.2.length < source.length := by
  induction source with
  | nil => cases h
  | cons c source ih =>
    cases hr : readOff (c :: source) with
    | some other =>
      rw [firstRead_of_some (List.cons_ne_nil _ _) hr] at h
      cases h
      exact hshort _ _ hr
    | none =>
      rw [firstRead_cons_of_none hr] at h
      exact Nat.lt_succ_of_lt (ih h)

/-- A quoted key takes characters. -/
theorem QuotedKey.length_at?_lt (source : Text) (found : Text × Text)
    (h : QuotedKey.at? source = some found) : found.2.length < source.length := by
  obtain ⟨-, rfl⟩ := QuotedKey.at?_eq_some_iff.mp h
  simp only [List.length_append, List.length_cons]
  omega

/-- An export statement takes characters. -/
theorem ExportStatement.length_at?_lt (source : Text) (found : Text × Text)
    (h : ExportStatement.at? source = some found) : found.2.length < source.length := by
  obtain ⟨name, -, -, rfl⟩ := ExportStatement.at?_eq_some_iff.mp h
  rw [ExportStatement.render_append]
  simp only [List.length_append, List.length_cons]
  omega

/-! ## Readers -/

namespace KeyReader

variable {reader later first second : KeyReader}

/-- Reading a key leaves less to be read. -/
theorem bound_lt_of_next? (h : reader.next? = some (key, later)) : later.bound < reader.bound := by
  cases reader with
  | entries source =>
    obtain ⟨found, hf, he⟩ := Option.map_eq_some_iff.mp h
    cases he
    rw [QuotedKey.next?_eq_firstRead] at hf
    exact length_firstRead_lt QuotedKey.length_at?_lt hf
  | statements source =>
    obtain ⟨found, hf, he⟩ := Option.map_eq_some_iff.mp h
    cases he
    rw [ExportStatement.next?_eq_firstRead] at hf
    exact length_firstRead_lt ExportStatement.length_at?_lt hf
  | listed keys =>
    cases keys with
    | nil => cases h
    | cons head keys =>
      cases h
      exact Nat.lt_succ_self _

/-- As many keys as there can be are all that there are. -/
theorem take_of_bound_le {n : Nat} (hn : reader.bound ≤ n) :
    (reader.take n).1 = reader.toList := by
  have henough : ∀ m n (reader : KeyReader), reader.bound ≤ m → reader.bound ≤ n →
      (reader.take m).1 = (reader.take n).1 := by
    intro m
    induction m with
    | zero =>
      intro n reader hm _
      cases n with
      | zero => rfl
      | succ n =>
        cases hr : reader.next? with
        | none => rw [take, take, hr]
        | some found =>
          have hlt := bound_lt_of_next? hr
          omega
    | succ m ih =>
      intro n reader hm hn
      cases hr : reader.next? with
      | none =>
        cases n with
        | zero => rw [take, take, hr]
        | succ n => rw [take, take, hr]
      | some found =>
        have hlt := bound_lt_of_next? hr
        cases n with
        | zero => omega
        | succ n =>
          have hrest := ih n found.2 (by omega) (by omega)
          rw [take, take, hr]
          dsimp only
          rw [hrest]
  exact henough n reader.bound reader hn (Nat.le_refl _)

/-- A reader without a next key has none left. -/
theorem toList_of_next?_eq_none (h : reader.next? = none) : reader.toList = [] := by
  unfold toList
  cases reader.bound with
  | zero => rfl
  | succ n => rw [take, h]

/-- All keys are the next one and all that are left behind it. -/
theorem toList_of_next? (h : reader.next? = some (key, later)) :
    reader.toList = key :: later.toList := by
  have hlt := bound_lt_of_next? h
  obtain ⟨n, hn⟩ := Nat.exists_eq_add_of_lt hlt
  have hrest : (later.take (later.bound + n)).1 = later.toList :=
    take_of_bound_le (Nat.le_add_right _ _)
  rw [toList, hn, take, h]
  dsimp only
  rw [hrest]

/-- Readers with the same next key have the same keys. -/
theorem toList_congr (h : first.next? = second.next?) : first.toList = second.toList := by
  cases hs : second.next? with
  | none =>
    rw [toList_of_next?_eq_none hs, toList_of_next?_eq_none (h.trans hs)]
  | some found =>
    rw [toList_of_next? hs, toList_of_next? (h.trans hs)]

/-- All keys of a text that begins with an entry are its key and those behind it. -/
theorem toList_entries_of_some (h : QuotedKey.at? source = some (key, rest)) :
    (KeyReader.entries source).toList = key :: (KeyReader.entries rest).toList := by
  have hs : source ≠ [] := by
    rintro rfl
    cases h
  have hnext : (KeyReader.entries source).next? = some (key, .entries rest) := by
    rw [next?, QuotedKey.next?_eq_firstRead, firstRead_of_some hs h]
    rfl
  exact toList_of_next? hnext

/-- Texts in which the first entry is the same have the same keys. -/
theorem toList_entries_congr {other : Text}
    (h : firstRead QuotedKey.at? source = firstRead QuotedKey.at? other) :
    (KeyReader.entries source).toList = (KeyReader.entries other).toList := by
  refine toList_congr ?_
  rw [next?, next?, QuotedKey.next?_eq_firstRead, QuotedKey.next?_eq_firstRead, h]

theorem toList_entries_cons_of_none (h : QuotedKey.at? (c :: source) = none) :
    (KeyReader.entries (c :: source)).toList = (KeyReader.entries source).toList :=
  toList_entries_congr (firstRead_cons_of_none h)

end KeyReader

end StyleTypings
