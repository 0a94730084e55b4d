import StyleTypings.Proofs.Text.CodePoints
import StyleTypings.Text.Utf8
import Mathlib.Tactic.SplitIfs

/-!
# Writing and reading UTF-8

A text has bytes exactly if it is plain, and then they are those of its characters one after the
other; the name of a file may have some surrogates beside. The reader takes from the bytes of a
character exactly that character, whatever bytes come after them. So every text that has bytes is
read back from them, and whatever the reader gives is plain.
-/

namespace StyleTypings.Utf8

variable {escape : Fin 0x800 → Option UInt8} {text name first second : Text} {bytes : Bytes}

/-- A mapped result returns exactly if the result does. -/
theorem map_eq_ok_iff {α β ε : Type} {f : α → β} {result : Except ε α} {b : β} :
    result.map f = .ok b ↔ ∃ a, result = .ok a ∧ f a = b := by
  cases result <;> simp [Except.map]

/-- A text is put into bytes exactly if each surrogate in it has a byte, and then the bytes are
those of its code points. -/
theorem encodeFrom_eq_ok_iff (position : Nat) : encodeFrom escape position text = .ok bytes ↔
    (∀ offset, .surrogate offset ∈ text → (escape offset).isSome) ∧
      text.flatMap (bytesOf escape) = bytes := by
  induction text generalizing position bytes with
  | nil => simp [encodeFrom]
  | cons c text ih =>
    cases c with
    | char c => simp [encodeFrom, map_eq_ok_iff, ih, bytesOf, and_assoc]
    | surrogate offset =>
      cases hb : escape offset with
      | none => simp [encodeFrom, hb]
      | some byte => simp [encodeFrom, map_eq_ok_iff, ih, bytesOf, hb, and_assoc]

/-- A plain text is put into the same bytes, whatever the bytes of surrogates are. -/
theorem flatMap_bytesOf_of_plain (h : text.Plain) (other : Fin 0x800 → Option UInt8) :
    text.flatMap (bytesOf escape) = text.flatMap (bytesOf other) := by
  obtain ⟨chars, rfl⟩ := Text.plain_iff.mp h
  simp only [Text.ofChars, List.flatMap_map, bytesOf]

/-- The texts that have bytes are the plain ones. -/
theorem encode_eq_ok_iff : encode text = .ok bytes ↔ text.Plain ∧ nameBytes text = bytes := by
  have hp : (∀ offset, .surrogate offset ∈ text → (none : Option UInt8).isSome) ↔ text.Plain := by
    constructor
    · intro h c hc
      cases c with
      | char c => rfl
      | surrogate offset => cases h offset hc
    · intro h offset hc
      cases h _ hc
  rw [encode, encodeFrom_eq_ok_iff, hp]
  exact and_congr_right fun h => by rw [nameBytes, flatMap_bytesOf_of_plain h nameByte?]

/-- A plain text has the bytes of its characters. -/
theorem encode_of_plain (h : text.Plain) : encode text = .ok (nameBytes text) :=
  encode_eq_ok_iff.mpr ⟨h, rfl⟩

/-- A text fails to have bytes exactly if it is not plain. -/
theorem exists_encode_eq_error_iff : (∃ run, encode text = .error run) ↔ ¬text.Plain := by
  cases he : encode text with
  | error run =>
    have hn : ¬text.Plain := fun h => by
      rw [encode_of_plain h] at he
      cases he
    simp [hn]
  | ok bytes => simp [(encode_eq_ok_iff.mp he).1]

/-- Names are turned into bytes part by part. -/
theorem nameBytes_append (first second : Text) :
    nameBytes (first ++ second) = nameBytes first ++ nameBytes second := List.flatMap_append

/-- A code of one byte is read back. -/
theorem step_one {n : Nat} (h : n < 0x80) (rest : List Nat) : step n rest = .char n 1 := by
  simp only [step, if_pos h]

/-- A code of two bytes is read back. -/
theorem step_two {n : Nat} (hl : 0x80 ≤ n) (hh : n < 0x800) (rest : List Nat) :
    step (0xC0 + n / 0x40) ((0x80 + n % 0x40) :: rest) = .char n 2 := by
  have hc : isContinuation (0x80 + n % 0x40) = true := by
    simp only [isContinuation, Bool.and_eq_true, decide_eq_true_eq]
    omega
  unfold step
  rw [if_neg (by omega), if_neg (by omega), if_pos (by omega)]
  simp only [hc, if_true, Step.char.injEq, and_true]
  omega

/-- A code of three bytes is read back, unless it is that of a surrogate. -/
theorem step_three {n : Nat} (hl : 0x800 ≤ n) (hh : n < 0x10000)
    (hs : n < 0xD800 ∨ 0xDFFF < n) (rest : List Nat) :
    step (0xE0 + n / 0x1000) ((0x80 + n / 0x40 % 0x40) :: (0x80 + n % 0x40) :: rest) =
      .char n 3 := by
  have hb : isSecond (0xE0 + n / 0x1000) (0x80 + n / 0x40 % 0x40) = true := by
    simp only [isSecond, isContinuation, beq_iff_eq]
    split_ifs <;> simp only [Bool.and_eq_true, decide_eq_true_eq] <;> omega
  have hc : isContinuation (0x80 + n % 0x40) = true := by
    simp only [isContinuation, Bool.and_eq_true, decide_eq_true_eq]
    omega
  unfold step
  rw [if_neg (by omega), if_neg (by omega), if_neg (by omega), if_pos (by omega)]
  simp only [hb, hc, Bool.not_true, Bool.false_eq_true, if_false, if_true, Step.char.injEq,
    and_true]
  omega

/-- A code of four bytes is read back, up to the greatest one. -/
theorem step_four {n : Nat} (hl : 0x10000 ≤ n) (hh : n < 0x110000) (rest : List Nat) :
    step (0xF0 + n / 0x40000)
      ((0x80 + n / 0x1000 % 0x40) :: (0x80 + n / 0x40 % 0x40) :: (0x80 + n % 0x40) :: rest) =
      .char n 4 := by
  have hb : isSecond (0xF0 + n / 0x40000) (0x80 + n / 0x1000 % 0x40) = true := by
    simp only [isSecond, isContinuation, beq_iff_eq]
    split_ifs <;> simp only [Bool.and_eq_true, decide_eq_true_eq] <;> omega
  have hc : isContinuation (0x80 + n / 0x40 % 0x40) = true := by
    simp only [isContinuation, Bool.and_eq_true, decide_eq_true_eq]
    omega
  have hd : isContinuation (0x80 + n % 0x40) = true := by
    simp only [isContinuation, Bool.and_eq_true, decide_eq_true_eq]
    omega
  unfold step
  rw [if_neg (by omega), if_neg (by omega), if_neg (by omega), if_neg (by omega),
    if_pos (by omega)]
  simp only [hb, hc, hd, Bool.not_true, Bool.false_eq_true, if_false, if_true,
    Step.char.injEq, and_true]
  omega

/-- The bytes of a character begin with a lead from which the reader takes exactly that
character, whatever comes after them. -/
theorem step_encodeNat (c : Char) : ∃ lead tail, encodeNat c.toNat = lead :: tail ∧
    (∀ b ∈ lead :: tail, b < 256) ∧
    ∀ rest, step lead (tail ++ rest) = .char c.toNat (tail.length + 1) := by
  have hv : c.toNat < 0xD800 ∨ 0xDFFF < c.toNat ∧ c.toNat < 0x110000 :=
    CodePoint.toNat_char_range c
  unfold encodeNat
  split_ifs with h1 h2 h3
  · exact ⟨_, _, rfl, by simp; omega, fun rest => step_one h1 rest⟩
  · exact ⟨_, _, rfl, by simp; omega, fun rest => step_two (by omega) h2 rest⟩
  · exact ⟨_, _, rfl, by simp; omega, fun rest => step_three (by omega) h3 (by omega) rest⟩
  · exact ⟨_, _, rfl, by simp; omega, fun rest => step_four (by omega) (by omega) rest⟩

/-- Bytes below 256 pass through the byte type unchanged. -/
theorem map_toNat_encodeChar (c : Char) : (encodeChar c).map UInt8.toNat = encodeNat c.toNat := by
  obtain ⟨lead, tail, he, hb, -⟩ := step_encodeNat c
  rw [encodeChar, List.map_map, he]
  refine (List.map_congr_left fun b hm => ?_).trans (List.map_id _)
  exact UInt8.toNat_ofNat_of_lt (hb b hm)

/-- Reading the bytes of characters gives the characters, from any offset and with any sufficient
fuel. -/
theorem decodeFrom_encodeChar (chars : List Char) (offset fuel : Nat) (hf : chars.length ≤ fuel) :
    decodeFrom offset fuel ((chars.flatMap encodeChar).map UInt8.toNat) =
      .ok (Text.ofChars chars) := by
  induction chars generalizing offset fuel with
  | nil => cases fuel <;> rfl
  | cons c chars ih =>
    obtain ⟨lead, tail, he, -, hs⟩ := step_encodeNat c
    cases fuel with
    | zero => simp at hf
    | succ fuel =>
      have hb : ((c :: chars).flatMap encodeChar).map UInt8.toNat =
          lead :: (tail ++ (chars.flatMap encodeChar).map UInt8.toNat) := by
        rw [List.flatMap_cons, List.map_append, map_toNat_encodeChar, he]
        rfl
      rw [hb, decodeFrom, hs]
      dsimp only
      rw [Nat.add_sub_cancel, List.drop_left, ih _ _ (Nat.le_of_succ_le_succ hf)]
      simp only [Char.ofNat_toNat, Text.ofChars, List.map_cons]

theorem length_le_encodeChar (chars : List Char) :
    chars.length ≤ (chars.flatMap encodeChar).length := by
  induction chars with
  | nil => exact Nat.le_refl _
  | cons c chars ih =>
    obtain ⟨lead, tail, he, -, -⟩ := step_encodeNat c
    have hc : 1 ≤ (encodeChar c).length := by
      rw [encodeChar, he]
      simp
    rw [List.flatMap_cons, List.length_append, List.length_cons]
    omega

/-- Every text that has bytes is read back from them, whatever characters it has. -/
theorem decode_encode (h : encode text = .ok bytes) : decode bytes = .ok text := by
  obtain ⟨hp, rfl⟩ := encode_eq_ok_iff.mp h
  obtain ⟨chars, rfl⟩ := Text.plain_iff.mp hp
  have hb : nameBytes (Text.ofChars chars) = chars.flatMap encodeChar := by
    simp only [nameBytes, Text.ofChars, List.flatMap_map, bytesOf]
  rw [hb]
  exact decodeFrom_encodeChar chars 0 _ (length_le_encodeChar chars)

/-- What is decoded has no surrogate. -/
theorem plain_of_decodeFrom {offset fuel : Nat} {numbers : List Nat}
    (h : decodeFrom offset fuel numbers = .ok text) : text.Plain := by
  induction fuel generalizing offset numbers text with
  | zero =>
    cases h
    exact Text.plain_ofChars []
  | succ fuel ih =>
    cases numbers with
    | nil =>
      cases h
      exact Text.plain_ofChars []
    | cons lead rest =>
      rw [decodeFrom] at h
      split at h
      · split at h
        · next hr =>
          cases h
          exact Text.plain_cons.mpr ⟨rfl, ih hr⟩
        · cases h
      · cases h

/-- What is read from bytes is plain. -/
theorem plain_of_decode (h : decode bytes = .ok text) : text.Plain := plain_of_decodeFrom h

end StyleTypings.Utf8
