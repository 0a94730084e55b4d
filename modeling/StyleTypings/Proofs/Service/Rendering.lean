import StyleTypings.Proofs.Service.Payloads
import StyleTypings.Proofs.Text.Encoding
import StyleTypings.Value.Json

/-!
# Which values can be sent

A value can be put into bytes exactly if everything in it can be: its whole numbers have no more
digits than are written out, its other numbers are finite and its texts have no surrogates. What
stands around the texts of a value adds no surrogate to them.
-/

namespace StyleTypings

variable {α : Type} {text separator : Text} {pieces : List Text} {value : Value}

/-! ## Numbers -/

/-- Digits are no surrogates. -/
theorem Text.plain_ofNat (n : Nat) : (ofNat n).Plain := plain_ofChars _

theorem Text.plain_ofInt (n : Int) : (ofInt n).Plain := by
  cases n with
  | ofNat n => exact plain_ofNat n
  | negSucc n => exact plain_cons.mpr ⟨rfl, plain_ofNat (n + 1)⟩

/-- A text of one character over and over is plain. -/
theorem Text.plain_replicate (n : Nat) (c : Char) : Plain (List.replicate n (.char c)) := by
  intro d hd
  rw [List.eq_of_mem_replicate hd]
  rfl

namespace Shortest

/-- To drop the zeros at the end adds no surrogate. -/
theorem plain_trimZeros (h : text.Plain) : (trimZeros text).Plain := by
  refine h.of_subset fun c hc => ?_
  have hdropped := (List.dropWhile_suffix _).subset (List.mem_reverse.mp hc)
  exact List.mem_reverse.mp hdropped

/-- A number laid out around its point has the characters of its digits besides plain ones. -/
theorem plain_layout (h : text.Plain) (power : Int) : (layout text power).Plain := by
  have hfront (n : Nat) : Text.Plain (text.take n) :=
    h.of_subset fun _ hc => List.mem_of_mem_take hc
  have hback (n : Nat) : Text.Plain (text.drop n) :=
    h.of_subset fun _ hc => List.mem_of_mem_drop hc
  unfold layout
  dsimp only
  split
  · split
    · exact Text.plain_append.mpr ⟨Text.plain_append.mpr
        ⟨Text.plain_toText _, Text.plain_replicate _ _⟩, h⟩
    · refine Text.plain_append.mpr ⟨Text.plain_append.mpr ⟨hfront _, Text.plain_replicate _ _⟩,
        Text.plain_cons.mpr ⟨rfl, ?_⟩⟩
      split
      · exact Text.plain_toText _
      · exact hback _
  · refine Text.plain_append.mpr ⟨Text.plain_append.mpr ⟨hfront 1, ?_⟩,
      Text.plain_cons.mpr ⟨rfl, Text.plain_cons.mpr ⟨?_, ?_⟩⟩⟩
    · split
      · exact List.forall_mem_nil _
      · exact Text.plain_cons.mpr ⟨rfl, hback 1⟩
    · split <;> rfl
    · exact Text.plain_append.mpr ⟨Text.plain_replicate _ _, Text.plain_ofNat _⟩

/-- The text of a number is plain. -/
theorem plain_text (x : Binary64) : (Shortest.text x).Plain := by
  unfold Shortest.text
  split
  · exact Text.plain_toText _
  · have hsize : Text.Plain (if !x.isFinite then "inf".toText
        else if x.mantissa = 0 then "0.0".toText
        else layout (trimZeros (Text.ofNat (digits x.mantissa x.exponent).1))
          ((digits x.mantissa x.exponent).2 +
            (Text.ofNat (digits x.mantissa x.exponent).1).length - 1)) := by
      split
      · exact Text.plain_toText _
      · split
        · exact Text.plain_toText _
        · exact plain_layout (plain_trimZeros (Text.plain_ofNat _)) _
    dsimp only
    split
    · exact Text.plain_cons.mpr ⟨rfl, hsize⟩
    · exact hsize

end Shortest

/-! ## Strings and brackets -/

/-- The digits of an escape are plain. -/
theorem Quoted.plain_hex (width n : Nat) : (hex width n).Plain := by
  induction width generalizing n with
  | zero => exact List.forall_mem_nil _
  | succ width ih =>
    exact Text.plain_append.mpr ⟨ih _, List.forall_mem_singleton.mpr rfl⟩

/-- Pieces between separators are plain if and only if each of them is. -/
theorem Text.plain_join_iff (hs : separator.Plain) :
    (join separator pieces).Plain ↔ ∀ piece ∈ pieces, piece.Plain := by
  induction pieces with
  | nil => exact iff_of_true (List.forall_mem_nil _) (List.forall_mem_nil _)
  | cons piece pieces ih =>
    rw [List.forall_mem_cons, ← ih, join]
    cases pieces with
    | nil =>
      simp only [List.intercalate_singleton, join]
      exact ⟨fun h => ⟨h, List.forall_mem_nil _⟩, And.left⟩
    | cons second pieces =>
      rw [List.intercalate_cons_of_ne_nil (List.cons_ne_nil _ _), plain_append, plain_append,
        ← join, and_iff_left hs]

namespace Json

/-- Only a surrogate is put between quotes as a surrogate. -/
theorem plain_escape_iff (c : CodePoint) : (escape c).Plain ↔ c.isSurrogate = false := by
  cases c with
  | surrogate offset =>
    have hn : ¬(CodePoint.surrogate offset).toNat < 0x20 := by
      have := CodePoint.toNat_surrogate_range offset
      omega
    have he : escape (.surrogate offset) = [.surrogate offset] := by
      simp [escape, hn]
    rw [he]
    exact List.forall_mem_singleton
  | char c =>
    refine iff_of_true ?_ rfl
    unfold escape
    repeat' split
    · decide
    · decide
    · decide
    · decide
    · decide
    · decide
    · decide
    · exact Text.plain_cons.mpr ⟨rfl, Text.plain_cons.mpr ⟨rfl, Quoted.plain_hex 4 _⟩⟩
    · exact List.forall_mem_singleton.mpr rfl

/-- A string is quoted without surrogates exactly if it has none. -/
theorem plain_string_iff : (string text).Plain ↔ text.Plain := by
  have hescaped : Text.Plain (text.flatMap escape) ↔ text.Plain := by
    simp only [Text.Plain, List.forall_mem_flatMap]
    exact forall₂_congr fun c _ => plain_escape_iff c
  rw [string, Text.plain_append, Text.plain_cons, hescaped]
  exact ⟨fun h => h.1.2, fun h => ⟨⟨rfl, h⟩, by decide⟩⟩

/-- Pieces between brackets are plain exactly if each of them is. -/
theorem plain_bracketed_iff {opening closing : Char} :
    (bracketed (.char opening) (.char closing) pieces).Plain ↔ ∀ piece ∈ pieces, piece.Plain := by
  rw [bracketed, Text.plain_append, Text.plain_cons, Text.plain_join_iff (by decide)]
  exact ⟨fun h => h.1.2, fun h => ⟨⟨rfl, h⟩, List.forall_mem_singleton.mpr rfl⟩⟩

/-! ## Values -/

mutual

/-- Everything in a value can be sent. -/
def Sendable : Value → Prop
  | .int n => n.natAbs < tenTo 4300
  | .float x => x.isFinite = true
  | .text text => text.Plain
  | .list items => AllSendable items
  | .map entries => EntriesSendable entries
  | _ => True

/-- Everything in the values of a list can be sent. -/
def AllSendable : List Value → Prop
  | [] => True
  | item :: items => Sendable item ∧ AllSendable items

/-- Everything in the keys and values of a mapping can be sent. -/
def EntriesSendable : List (Value × Value) → Prop
  | [] => True
  | (key, value) :: entries => Sendable key ∧ Sendable value ∧ EntriesSendable entries

end

/-- The outcome is a text without surrogates. -/
def Renders (outcome : Except ScalarFault Text) : Prop := ∃ text, outcome = .ok text ∧ text.Plain

/-- The outcome is texts without surrogates. -/
def RendersAll (outcome : Except ScalarFault (List Text)) : Prop :=
  ∃ pieces, outcome = .ok pieces ∧ ∀ piece ∈ pieces, piece.Plain

/-- A text that is there is sent exactly if it has no surrogate. -/
theorem renders_ok_iff : Renders (.ok text) ↔ text.Plain := by
  simp [Renders]

theorem not_renders_error (fault : ScalarFault) : ¬Renders (.error fault) := by
  simp [Renders]

theorem rendersAll_nil : RendersAll (.ok []) := ⟨[], rfl, List.forall_mem_nil _⟩

/-- One more piece in front. -/
theorem rendersAll_map_cons_iff {rest : Except ScalarFault (List Text)} :
    RendersAll (rest.map (text :: ·)) ↔ text.Plain ∧ RendersAll rest := by
  cases rest with
  | error fault => simp [RendersAll, Except.map]
  | ok pieces => simp [RendersAll, Except.map]

/-- Brackets around what is inside change nothing about whether it is sent. -/
theorem renders_map_bracketed_iff {opening closing : Char}
    {inside : Except ScalarFault (List Text)} :
    Renders (inside.map (bracketed (.char opening) (.char closing))) ↔ RendersAll inside := by
  cases inside with
  | error fault => simp [Renders, RendersAll, Except.map]
  | ok pieces => simp [Renders, RendersAll, Except.map, plain_bracketed_iff]

mutual

/-- A value has a text without surrogates exactly if everything in it can be sent. -/
theorem renders_iff (value : Value) : Renders (Json.text value) ↔ Sendable value := by
  cases value with
  | int n =>
    unfold Json.text Sendable
    split
    · next hw =>
      exact iff_of_true (renders_ok_iff.mpr (Text.plain_ofInt n)) (decide_eq_true_iff.mp hw)
    · next hw => exact iff_of_false (not_renders_error _) fun h => hw (decide_eq_true_iff.mpr h)
  | float x =>
    unfold Json.text Sendable
    split
    · next hf => exact iff_of_true (renders_ok_iff.mpr (Shortest.plain_text x)) hf
    · next hf => exact iff_of_false (not_renders_error _) hf
  | text text =>
    unfold Json.text Sendable
    exact renders_ok_iff.trans plain_string_iff
  | list items =>
    unfold Json.text Sendable
    exact renders_map_bracketed_iff.trans (rendersAll_iff items)
  | map entries =>
    unfold Json.text Sendable
    exact renders_map_bracketed_iff.trans (rendersAll_entries_iff entries)
  | bool value =>
    cases value <;> exact iff_of_true (renders_ok_iff.mpr (Text.plain_toText _)) trivial
  | _ => exact iff_of_true (renders_ok_iff.mpr (Text.plain_toText _)) trivial

/-- Items are rendered without surrogates exactly if each can be sent. -/
theorem rendersAll_iff (items : List Value) : RendersAll (texts items) ↔ AllSendable items := by
  cases items with
  | nil => exact iff_of_true rendersAll_nil trivial
  | cons item items =>
    have hitem := renders_iff item
    have hitems := rendersAll_iff items
    unfold texts AllSendable
    cases ht : Json.text item with
    | error fault =>
      rw [ht] at hitem
      refine iff_of_false ?_ fun h => not_renders_error fault (hitem.mpr h.1)
      simp [RendersAll]
    | ok first =>
      rw [ht, renders_ok_iff] at hitem
      exact rendersAll_map_cons_iff.trans (and_congr hitem hitems)

/-- Entries are rendered without surrogates exactly if each can be sent. -/
theorem rendersAll_entries_iff (entries : List (Value × Value)) :
    RendersAll (entryTexts entries) ↔ EntriesSendable entries := by
  cases entries with
  | nil => exact iff_of_true rendersAll_nil trivial
  | cons entry entries =>
    obtain ⟨key, value⟩ := entry
    have hkey := renders_iff key
    have hvalue := renders_iff value
    have hentries := rendersAll_entries_iff entries
    unfold entryTexts EntriesSendable
    cases hk : Json.text key with
    | error fault =>
      rw [hk] at hkey
      refine iff_of_false ?_ fun h => not_renders_error fault (hkey.mpr h.1)
      simp [RendersAll]
    | ok name =>
      cases hv : Json.text value with
      | error fault =>
        rw [hv] at hvalue
        refine iff_of_false ?_ fun h => not_renders_error fault (hvalue.mpr h.2.1)
        simp [RendersAll]
      | ok first =>
        rw [hk, renders_ok_iff] at hkey
        rw [hv, renders_ok_iff] at hvalue
        have hpiece : Text.Plain (name ++ .char ':' :: first) ↔ name.Plain ∧ first.Plain := by
          rw [Text.plain_append, Text.plain_cons]
          exact and_congr_right fun _ => and_iff_right rfl
        rw [← and_assoc, ← hkey, ← hvalue, ← hpiece, ← hentries]
        exact rendersAll_map_cons_iff

end

/-- A value has bytes exactly if everything in it can be sent. -/
theorem exists_bytes_iff : (∃ sent, bytes value = .ok sent) ↔ Sendable value := by
  rw [← renders_iff, Renders, bytes]
  cases Json.text value with
  | error fault => simp only [reduceCtorEq, exists_false, false_and]
  | ok text =>
    simp only [Except.ok.injEq, exists_eq_left']
    cases he : Utf8.encode text with
    | error run =>
      simp only [reduceCtorEq, exists_false, false_iff]
      exact Utf8.exists_encode_eq_error_iff.mp ⟨run, he⟩
    | ok sent => exact iff_of_true ⟨sent, rfl⟩ (Utf8.encode_eq_ok_iff.mp he).1

/-- A list of texts can be sent exactly if none of them has a surrogate. -/
theorem allSendable_map_text_iff {texts : List Text} :
    AllSendable (texts.map .text) ↔ ∀ text ∈ texts, text.Plain := by
  induction texts with
  | nil => exact iff_of_true trivial (List.forall_mem_nil _)
  | cons text texts ih =>
    rw [List.map_cons, AllSendable, Sendable, ih, List.forall_mem_cons]

/-- What stands under a key can be sent if the whole mapping can. -/
theorem sendable_of_lookup? {key : Value} {entries : List (Value × Value)}
    (hl : key.lookup? entries = some value) (he : EntriesSendable entries) : Sendable value := by
  induction entries with
  | nil => cases hl
  | cons entry entries ih =>
    rw [Value.lookup?] at hl
    split at hl
    · exact Option.some.inj hl ▸ he.2.1
    · exact ih hl he.2.2

end Json

/-! ## Problems of a body -/

namespace Service

variable {body : Option Value} {problem : Problem}

/-- A problem can be sent exactly if the value can that it is about. -/
theorem Payload.Concerns.sendable_value_iff (hc : Concerns body problem) :
    Json.Sendable problem.value ↔ Json.Sendable problem.input := by
  have hkind : problem.fault.kind.Plain := by cases problem.fault <;> exact Text.plain_toText _
  have hmessage : problem.fault.message.Plain := by
    cases problem.fault <;> exact Text.plain_toText _
  have hfield : Json.AllSendable (problem.field.toList.map .text) := by
    have hnames : ∀ name ∈ Payload.fieldNames, name.Plain := by decide
    rw [Json.allSendable_map_text_iff]
    cases hc with
    | absent => exact List.forall_mem_nil _
    | notObject value => exact List.forall_mem_nil _
    | missing entries hn => exact List.forall_mem_singleton.mpr (hnames _ hn)
    | unfit fault hn hv => exact List.forall_mem_singleton.mpr (hnames _ hn)
  simp [Problem.value, Json.Sendable, Json.EntriesSendable, Json.AllSendable, Text.plain_toText,
    hkind, hmessage, hfield]

/-- The problems of a body that can be sent can be sent, too. -/
theorem Payload.Concerns.sendable_input (hc : Concerns body problem)
    (hb : ∀ value, body = some value → Json.Sendable value) : Json.Sendable problem.input := by
  cases hc with
  | absent => exact trivial
  | notObject value => exact hb value rfl
  | missing entries hn => exact hb _ rfl
  | unfit fault hn hv => exact Json.sendable_of_lookup? hv (hb _ rfl)

/-- The problems of a body can be sent exactly if each of their inputs can. -/
theorem allSendable_map_value_iff {problems : List Problem}
    (hp : ∀ problem ∈ problems, Payload.Concerns body problem) :
    Json.AllSendable (problems.map Problem.value) ↔
      ∀ problem ∈ problems, Json.Sendable problem.input := by
  induction problems with
  | nil => exact iff_of_true trivial (List.forall_mem_nil _)
  | cons problem problems ih =>
    obtain ⟨hfirst, hrest⟩ := List.forall_mem_cons.mp hp
    rw [List.map_cons, Json.AllSendable, hfirst.sendable_value_iff, ih hrest,
      List.forall_mem_cons]

end Service

end StyleTypings
