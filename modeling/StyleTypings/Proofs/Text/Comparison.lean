import StyleTypings.Proofs.Text.WholeLines

/-!
# What the comparison of texts looks through

Two texts are the same for the comparison exactly if the pieces between their line feeds agree
one by one: the last pieces as they are, and the others once a carriage return at their end was
dropped. So putting carriage returns in front of line feeds that have none is never noticed.
Shortening the line ends of a text twice may differ from doing it once: where two carriage
returns stand in front of a line feed, one of them is left, and nowhere else.
-/

namespace StyleTypings.Text

variable {text first second piece : Text} {mark c : CodePoint} {pieces left right : List Text}

/-! ## Lines -/

/-- What holds of texts without a line feed, and of a line in front of any text of which it holds,
holds of all texts. -/
@[elab_as_elim]
theorem line_induction {motive : Text → Prop} (last : ∀ piece, .char '\n' ∉ piece → motive piece)
    (line : ∀ piece rest, .char '\n' ∉ piece → motive rest → motive (piece ++ .char '\n' :: rest))
    (text : Text) : motive text := by
  induction hn : text.length using Nat.strongRecOn generalizing text with
  | ind n ih =>
    by_cases hm : .char '\n' ∈ text
    · obtain ⟨piece, rest, rfl, hp⟩ := List.eq_append_cons_of_mem hm
      have hshort : rest.length < n := by
        rw [← hn, List.length_append, List.length_cons]
        omega
      exact line piece rest hp (ih rest.length hshort rest rfl)
    · exact last text hm

theorem splitAtChar_ne_nil (mark : CodePoint) (text : Text) : splitAtChar mark text ≠ [] := by
  cases text with
  | nil => exact List.cons_ne_nil _ _
  | cons c text =>
    rw [splitAtChar]
    split
    · exact List.cons_ne_nil _ _
    · split
      · exact List.cons_ne_nil _ _
      · exact List.cons_ne_nil _ _

/-- The pieces of a text put together give it back. -/
theorem join_splitAtChar (mark : CodePoint) (text : Text) :
    join [mark] (splitAtChar mark text) = text := by
  induction text with
  | nil => rfl
  | cons c text ih =>
    obtain ⟨piece, pieces, hp⟩ := List.exists_cons_of_ne_nil (splitAtChar_ne_nil mark text)
    rw [hp] at ih
    rw [splitAtChar, hp]
    by_cases hc : c = mark
    · rw [if_pos hc, join, List.intercalate_cons_cons, ← join, ih, hc]
      rfl
    · rw [if_neg hc, ← ih]
      cases pieces with
      | nil => simp [join]
      | cons next pieces => simp [join, List.intercalate_cons_cons]

/-- A text can be told from its pieces. -/
theorem splitAtChar_injective (h : splitAtChar mark first = splitAtChar mark second) :
    first = second := by
  rw [← join_splitAtChar mark first, h, join_splitAtChar]

/-! ## Carriage returns at the ends of lines -/

/-- The text without the carriage return at its end, if one stands there. -/
def dropReturn (text : Text) : Text :=
  if text.getLast? = some (.char '\r') then text.dropLast else text

/-- Without the carriage return a piece has no other characters than before. -/
theorem not_mem_dropReturn (hp : c ∉ piece) : c ∉ dropReturn piece := by
  rw [dropReturn]
  split
  · exact fun hm => hp (List.dropLast_subset piece hm)
  · exact hp

/-- A line loses the carriage return at its end, if one stands there. -/
theorem crlfToLf_line (hp : .char '\n' ∉ piece) (text : Text) :
    crlfToLf (piece ++ .char '\n' :: text) = dropReturn piece ++ .char '\n' :: crlfToLf text := by
  rw [dropReturn]
  split
  · next hr =>
    obtain ⟨body, rfl⟩ := List.getLast?_eq_some_iff.mp hr
    have hbody : .char '\n' ∉ body := fun hm => hp (List.mem_append_left _ hm)
    rw [List.dropLast_concat, List.append_assoc, List.singleton_append,
      crlfToLf_append_crlf hbody]
  · next hr => exact crlfToLf_append hp hr text

/-- A character that starts no line end of two characters stays. -/
theorem crlfToLf_cons (h : ¬(['\r', '\n'] : Text) <+: c :: text) :
    crlfToLf (c :: text) = c :: crlfToLf text := by
  rw [crlfToLf]
  rintro rest rfl rfl
  exact h (List.prefix_append (['\r', '\n'] : Text) rest)

/-- What holds of the empty text, and of a line end of two characters or another character in front
of any text of which it holds, holds of all texts. -/
@[elab_as_elim]
theorem lineEnd_induction {motive : Text → Prop} (nil : motive [])
    (lineEnd : ∀ text, motive text → motive (.char '\r' :: .char '\n' :: text))
    (other : ∀ c text, ¬(['\r', '\n'] : Text) <+: c :: text → motive text → motive (c :: text))
    (text : Text) : motive text := by
  induction text using crlfToLf.induct with
  | case1 => exact nil
  | case2 text ih => exact lineEnd text ih
  | case3 c text hc ih =>
    refine other c text (fun ⟨rest, he⟩ => ?_) ih
    obtain ⟨hr, hrest⟩ := List.cons.inj he
    exact hc rest hr.symm hrest.symm

/-- A text without a line feed stays as it is. -/
theorem crlfToLf_of_not_mem (hp : .char '\n' ∉ piece) : crlfToLf piece = piece := by
  induction piece with
  | nil => rfl
  | cons c piece ih =>
    have hstart : ¬(['\r', '\n'] : Text) <+: c :: piece := fun h =>
      hp (h.subset (List.mem_cons_of_mem _ List.mem_cons_self))
    rw [crlfToLf_cons hstart, ih fun hm => hp (List.mem_cons_of_mem c hm)]

/-- The pieces, all but the last without the carriage return at their end. -/
def shortened (pieces : List Text) : List Text :=
  pieces.dropLast.map dropReturn ++ pieces.getLast?.toList

/-- A piece in front of others loses its carriage return. -/
theorem shortened_cons (hp : pieces ≠ []) (piece : Text) :
    shortened (piece :: pieces) = dropReturn piece :: shortened pieces := by
  obtain ⟨next, pieces, rfl⟩ := List.exists_cons_of_ne_nil hp
  rfl

/-- Shortening the line ends of a text shortens its pieces. -/
theorem splitAtChar_crlfToLf (text : Text) :
    splitAtChar '\n' (crlfToLf text) = shortened (splitAtChar '\n' text) := by
  induction text using line_induction with
  | last piece hp =>
    rw [crlfToLf_of_not_mem hp, splitAtChar_of_not_mem hp]
    rfl
  | line piece rest hp ih =>
    rw [crlfToLf_line hp, splitAtChar_append (not_mem_dropReturn hp), ih, splitAtChar_append hp,
      shortened_cons (splitAtChar_ne_nil _ _)]

/-! ## Agreement of the pieces -/

/-- Two lists of pieces agree but for carriage returns in front of line feeds. -/
structure AgreeAtFeeds (left right : List Text) : Prop where
  /-- They have as many pieces. -/
  length_eq : left.length = right.length
  /-- The last pieces, which have no line feed behind them, are the same. -/
  last_eq : left.getLast? = right.getLast?
  /-- Each two pieces in front of the last ones are the same without the carriage return at their
  end, if one stands there. -/
  earlier_eq : ∀ i, i + 1 < left.length → left[i]?.map dropReturn = right[i]?.map dropReturn

/-- Each piece but the last is shortened by its own carriage return. -/
theorem getElem?_shortened (pieces : List Text) (i : Nat) :
    (shortened pieces)[i]? =
      if i + 1 < pieces.length then pieces[i]?.map dropReturn else pieces[i]? := by
  induction pieces generalizing i with
  | nil => rfl
  | cons piece pieces ih =>
    cases pieces with
    | nil =>
      have hlast : ¬i + 1 < [piece].length := by
        rw [List.length_singleton]
        omega
      rw [if_neg hlast]
      rfl
    | cons next pieces =>
      rw [shortened_cons (List.cons_ne_nil _ _)]
      cases i with
      | zero =>
        have hmore : 0 + 1 < (piece :: next :: pieces).length := by
          rw [List.length_cons, List.length_cons]
          omega
        rw [if_pos hmore]
        rfl
      | succ i =>
        rw [List.getElem?_cons_succ, List.getElem?_cons_succ, ih, List.length_cons (a := piece)]
        simp only [Nat.add_lt_add_iff_right]

theorem length_shortened (pieces : List Text) : (shortened pieces).length = pieces.length := by
  induction pieces with
  | nil => rfl
  | cons piece pieces ih =>
    cases pieces with
    | nil => rfl
    | cons next pieces =>
      rw [shortened_cons (List.cons_ne_nil _ _), List.length_cons, ih]
      rfl

/-- Pieces agree exactly if they are the same when they are shortened. -/
theorem agreeAtFeeds_iff : AgreeAtFeeds left right ↔ shortened left = shortened right := by
  constructor
  · intro h
    refine List.ext_getElem? fun i => ?_
    rw [getElem?_shortened, getElem?_shortened, ← h.length_eq]
    by_cases hi : i + 1 < left.length
    · rw [if_pos hi, if_pos hi]
      exact h.earlier_eq i hi
    · rw [if_neg hi, if_neg hi]
      by_cases hlast : i = left.length - 1
      · have hright : i = right.length - 1 := by rw [hlast, h.length_eq]
        have he := h.last_eq
        rw [List.getLast?_eq_getElem?, List.getLast?_eq_getElem?, ← hlast, ← hright] at he
        exact he
      · have hbehind : left.length ≤ i := by omega
        rw [List.getElem?_eq_none hbehind, List.getElem?_eq_none (h.length_eq ▸ hbehind)]
  · intro h
    have hlength : left.length = right.length := by
      rw [← length_shortened left, h, length_shortened]
    have hplace : ∀ i, (if i + 1 < left.length then left[i]?.map dropReturn else left[i]?) =
        if i + 1 < left.length then right[i]?.map dropReturn else right[i]? := by
      intro i
      have hi := congrArg (·[i]?) h
      simp only [getElem?_shortened, ← hlength] at hi
      exact hi
    refine ⟨hlength, ?_, ?_⟩
    · have hlast := hplace (left.length - 1)
      have hend : ¬left.length - 1 + 1 < left.length := by omega
      rw [if_neg hend, if_neg hend] at hlast
      rw [List.getLast?_eq_getElem?, List.getLast?_eq_getElem?, hlast, hlength]
    · intro i hi
      have he := hplace i
      rw [if_pos hi, if_pos hi] at he
      exact he

/-- Texts are the same for the comparison exactly if their pieces agree. -/
theorem same_iff_agreeAtFeeds : same (some first) (some second) = true ↔
    AgreeAtFeeds (splitAtChar '\n' first) (splitAtChar '\n' second) := by
  rw [same_iff, agreeAtFeeds_iff, ← splitAtChar_crlfToLf, ← splitAtChar_crlfToLf]
  exact ⟨congrArg (splitAtChar '\n'), splitAtChar_injective⟩

/-! ## Longer line ends -/

/-- A carriage return put in front of each line feed at a chosen place, unless one stands there
already. `place` characters stand in front of the text, and `returned` tells whether the last of
them is a carriage return. -/
def lengthenFrom (chosen : Nat → Bool) : Nat → Bool → Text → Text
  | _, _, [] => []
  | place, returned, c :: text =>
    let behind := c :: lengthenFrom chosen (place + 1) (c == '\r') text
    if c = '\n' ∧ returned = false ∧ chosen place = true then .char '\r' :: behind else behind

/-- The text with longer line ends at the chosen places. -/
def lengthen (chosen : Nat → Bool) (text : Text) : Text := lengthenFrom chosen 0 false text

/-- Longer line ends are made short again, also behind a carriage return. -/
theorem crlfToLf_lengthenFrom (chosen : Nat → Bool) (place : Nat) (text : Text) :
    crlfToLf (lengthenFrom chosen place false text) = crlfToLf text ∧
      crlfToLf (.char '\r' :: lengthenFrom chosen place true text) =
        crlfToLf (.char '\r' :: text) := by
  induction text generalizing place with
  | nil => exact ⟨rfl, rfl⟩
  | cons c text ih =>
    obtain ⟨hplain, hreturned⟩ := ih (place + 1)
    by_cases hf : c = '\n'
    · -- Short or long, a line end becomes a line feed.
      have hend : ∀ long : Bool, crlfToLf (if long then .char '\r' ::
          .char '\n' :: lengthenFrom chosen (place + 1) false text else
          .char '\n' :: lengthenFrom chosen (place + 1) false text) =
            .char '\n' :: crlfToLf text := by
        intro long
        rw [← hplain]
        cases long <;> rfl
      subst hf
      have hchosen : lengthenFrom chosen place false (.char '\n' :: text) =
          if chosen place then
            .char '\r' :: .char '\n' :: lengthenFrom chosen (place + 1) false text
          else .char '\n' :: lengthenFrom chosen (place + 1) false text := by
        simp only [lengthenFrom, true_and]
        rfl
      exact ⟨hchosen ▸ hend (chosen place), hend true⟩
    · have hbehind : crlfToLf (c :: lengthenFrom chosen (place + 1) (c == '\r') text) =
          crlfToLf (c :: text) := by
        by_cases hr : c = '\r'
        · rw [hr]
          exact hreturned
        · have hne : (c == '\r') = false := beq_eq_false_iff_ne.mpr hr
          have hstart : ∀ rest : Text, ¬(['\r', '\n'] : Text) <+: c :: rest := fun rest h =>
            hr (List.cons_prefix_cons.mp h).1.symm
          rw [hne, crlfToLf_cons (hstart _), crlfToLf_cons (hstart _), hplain]
      have hlengthened : ∀ returned, lengthenFrom chosen place returned (c :: text) =
          c :: lengthenFrom chosen (place + 1) (c == '\r') text := fun returned =>
        if_neg fun h => hf h.1
      have hapart : ∀ rest : Text, ¬(['\r', '\n'] : Text) <+: .char '\r' :: c :: rest :=
        fun rest h =>
        hf (List.cons_prefix_cons.mp (List.cons_prefix_cons.mp h).2).1.symm
      rw [hlengthened, hlengthened, crlfToLf_cons (hapart _), crlfToLf_cons (hapart _), hbehind]
      exact ⟨rfl, rfl⟩

/-- Lengthened line ends are shortened again. -/
theorem crlfToLf_lengthen (chosen : Nat → Bool) (text : Text) :
    crlfToLf (lengthen chosen text) = crlfToLf text := (crlfToLf_lengthenFrom chosen 0 text).1

/-! ## Shortening twice -/

/-- A shortened text begins with a line feed exactly if the text begins with a line end. -/
theorem lineFeed_prefix_crlfToLf_iff : (['\n'] : Text) <+: crlfToLf text ↔
    (['\n'] : Text) <+: text ∨ (['\r', '\n'] : Text) <+: text := by
  by_cases hr : (['\r', '\n'] : Text) <+: text
  · obtain ⟨rest, rfl⟩ := hr
    exact iff_of_true (List.prefix_append (['\n'] : Text) _) (Or.inr (List.prefix_append _ rest))
  · cases text with
    | nil => simp [crlfToLf]
    | cons c text =>
      rw [crlfToLf_cons hr]
      simp only [List.cons_prefix_cons, List.nil_prefix, and_true, hr, or_false]

/-- A line end of two characters is left exactly where two carriage returns stood in front of a
line feed. -/
theorem lineEnd_infix_crlfToLf_iff :
    (['\r', '\n'] : Text) <:+: crlfToLf text ↔ (['\r', '\r', '\n'] : Text) <:+: text := by
  induction text using lineEnd_induction with
  | nil => simp [crlfToLf]
  | lineEnd text ih =>
    have hshort : crlfToLf (.char '\r' :: .char '\n' :: text) = .char '\n' :: crlfToLf text := rfl
    rw [hshort, List.infix_cons_iff, List.infix_cons_iff, List.infix_cons_iff, ih]
    simp [List.cons_prefix_cons]
  | other c text hr ih =>
    have hstart : (['\r', '\n'] : Text) <+: c :: crlfToLf text ↔
        (['\r', '\r', '\n'] : Text) <+: c :: text := by
      rw [List.cons_prefix_cons, List.cons_prefix_cons, lineFeed_prefix_crlfToLf_iff]
      refine and_congr_right fun hc => or_iff_right fun hf => hr ?_
      rw [← hc]
      exact List.cons_prefix_cons.mpr ⟨rfl, hf⟩
    rw [crlfToLf_cons hr, List.infix_cons_iff, List.infix_cons_iff, ih, hstart]

/-- A text stays as it is exactly if it has no line end of two characters. -/
theorem crlfToLf_eq_self_iff : crlfToLf text = text ↔ ¬(['\r', '\n'] : Text) <:+: text := by
  induction text using lineEnd_induction with
  | nil => simp [crlfToLf]
  | lineEnd text ih =>
    have hchanged : crlfToLf (.char '\r' :: .char '\n' :: text) ≠
        .char '\r' :: .char '\n' :: text := fun he =>
      absurd (List.cons.inj he).1 (by decide)
    have hthere : (['\r', '\n'] : Text) <:+: .char '\r' :: .char '\n' :: text :=
      (List.prefix_append (['\r', '\n'] : Text) text).isInfix
    exact iff_of_false hchanged fun hn => hn hthere
  | other c text hr ih =>
    rw [crlfToLf_cons hr, List.cons.injEq, List.infix_cons_iff, not_or, ih]
    exact and_congr (iff_of_true rfl hr) Iff.rfl

/-- The comparison looks through carriage returns in front of line feeds and through nothing else.
Two texts are the same for it exactly if the pieces between their line feeds agree, the last ones
as they are and the others without a carriage return at their end; an absent text is the same as
an absent one only. However carriage returns are put in front of line feeds that have none, no
comparison comes out differently. Shortening the line ends of a text leaves one of two characters
exactly if two carriage returns stood in front of a line feed, and exactly then shortening them
once more changes the text again. -/
theorem same_looks_through_returns :
    (∀ first second : Text, same (some first) (some second) = true ↔
      AgreeAtFeeds (splitAtChar '\n' first) (splitAtChar '\n' second)) ∧
    (∀ text : Option Text,
      (same none text = true ↔ text = none) ∧ (same text none = true ↔ text = none)) ∧
    (∀ (chosen : Nat → Bool) (text : Text) (other : Option Text),
      same (some (lengthen chosen text)) other = same (some text) other ∧
      same other (some (lengthen chosen text)) = same other (some text)) ∧
    (∀ text, (['\r', '\n'] : Text) <:+: crlfToLf text ↔ (['\r', '\r', '\n'] : Text) <:+: text) ∧
    ∀ text, crlfToLf (crlfToLf text) = crlfToLf text ↔ ¬(['\r', '\r', '\n'] : Text) <:+: text := by
  refine ⟨fun first second => same_iff_agreeAtFeeds, ?_, ?_,
    fun text => lineEnd_infix_crlfToLf_iff, ?_⟩
  · intro text
    cases text with
    | none => exact ⟨iff_of_true rfl rfl, iff_of_true rfl rfl⟩
    | some text => simp [same]
  · intro chosen text other
    simp only [same, Option.map_some, crlfToLf_lengthen, and_self]
  · intro text
    rw [crlfToLf_eq_self_iff, lineEnd_infix_crlfToLf_iff]

/-- One line end is made longer, one has its carriage return already, and one is not chosen. -/
example : lengthen (fun place => place < 5) ['a', '\n', 'b', '\r', '\n', '\n'] =
    ['a', '\r', '\n', 'b', '\r', '\n', '\n'] := by decide

end StyleTypings.Text
