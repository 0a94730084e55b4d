import StyleTypings.Proofs.Keys.Draining

/-!
# The keys as spans of the text

What a reader hands out is described without the reader: a span of the text matches if it is a
key written in the one way or the other, and the keys are those of spans that lie one behind
another and leave no place between them, in front of them or behind them where another match
starts. There is exactly one such list of spans. Since a reader is a value, draining it in
portions takes this list apart and nothing else.
-/

namespace StyleTypings

/-- A span of a text that is read as a key. -/
structure Span where
  /-- How many characters stand in front of the span. -/
  start : Nat
  /-- How many characters stand in front of what follows the span. -/
  stop : Nat
  /-- The key. -/
  key : Text
  deriving DecidableEq, Repr

/-- A key is written as an entry of a locals object: between quotes, with a colon behind. -/
def QuotedKey.Written (key piece : Text) : Prop :=
  IsKey key ∧ piece = Literal.quote key ++ [':']

/-- A key is written as a statement that exports a local name under it. -/
def ExportStatement.Written (key piece : Text) : Prop :=
  IsKey key ∧ ∃ name, IsLocalName name ∧ piece = ExportStatement.render name key

variable {written : Text → Text → Prop} {readOff : Text → Option (Text × Text)}
  {source key rest : Text} {span : Span} {spans others : List Span} {position : Nat}

/-- The span lies in the text, and its key is written there. -/
structure Span.MatchIn (written : Text → Text → Prop) (source : Text) (span : Span) : Prop where
  /-- The span does not stop in front of its start. -/
  start_le : span.start ≤ span.stop
  /-- The text reaches to the end of the span. -/
  stop_le : span.stop ≤ source.length
  /-- The characters of the span write the key. -/
  written : written span.key ((source.drop span.start).take (span.stop - span.start))

/-- No match starts at the first position or behind it, and in front of the second. -/
def Unmatched (written : Text → Text → Prop) (source : Text) (first second : Nat) : Prop :=
  ∀ span : Span, span.MatchIn written source → first ≤ span.start → second ≤ span.start

/-- No match starts from the position on and in front of the first span, nor behind a span and in
front of the next one or the end of the text. -/
def GapsUnmatched (written : Text → Text → Prop) (source : Text) : Nat → List Span → Prop
  | position, [] => Unmatched written source position source.length
  | position, span :: spans =>
    Unmatched written source position span.start ∧ GapsUnmatched written source span.stop spans

/-- The spans are the matches that a scan from the position on comes upon. -/
structure Scanned (written : Text → Text → Prop) (source : Text) (position : Nat)
    (spans : List Span) : Prop where
  /-- Each span is a match. -/
  matched : ∀ span ∈ spans, span.MatchIn written source
  /-- No span starts in front of the position. -/
  behind : ∀ span ∈ spans, position ≤ span.start
  /-- The spans stand in the order of the text and do not overlap. -/
  ordered : spans.Pairwise fun first second =>
    first.start < second.start ∧ first.stop ≤ second.start
  /-- No match starts between them. -/
  gaps : GapsUnmatched written source position spans

/-- What is read off the beginning of a text is a key written there, which is never written with
no characters. -/
structure ReadsWritten (written : Text → Text → Prop)
    (readOff : Text → Option (Text × Text)) : Prop where
  /-- A key and a rest are read off exactly a text that is the key as written and the rest. -/
  some_iff : ∀ source key rest, readOff source = some (key, rest) ↔
    ∃ piece, written key piece ∧ source = piece ++ rest
  /-- Writing a key takes a character. -/
  ne_nil : ∀ key piece, written key piece → piece ≠ []

theorem QuotedKey.readsWritten : ReadsWritten QuotedKey.Written QuotedKey.at? where
  some_iff source key rest := by
    rw [QuotedKey.at?_eq_some_iff]
    constructor
    · rintro ⟨hk, rfl⟩
      refine ⟨Literal.quote key ++ [':'], ⟨hk, rfl⟩, ?_⟩
      simp only [Literal.quote, List.append_assoc, List.cons_append, List.nil_append]
    · rintro ⟨piece, ⟨hk, rfl⟩, rfl⟩
      refine ⟨hk, ?_⟩
      simp only [Literal.quote, List.append_assoc, List.cons_append, List.nil_append]
  ne_nil key piece := by
    rintro ⟨-, rfl⟩
    exact List.cons_ne_nil _ _

theorem ExportStatement.readsWritten :
    ReadsWritten ExportStatement.Written ExportStatement.at? where
  some_iff source key rest := by
    rw [ExportStatement.at?_eq_some_iff]
    constructor
    · rintro ⟨name, hn, hk, rfl⟩
      exact ⟨_, ⟨hk, name, hn, rfl⟩, rfl⟩
    · rintro ⟨piece, ⟨hk, name, hn, rfl⟩, rfl⟩
      exact ⟨name, hn, hk, rfl⟩
  ne_nil key piece := by
    rintro ⟨-, name, -, rfl⟩
    exact List.cons_ne_nil _ _

/-! ## Matches and what is read off -/

namespace ReadsWritten

/-- The key of a match is read off where the match starts, and what follows the match is left. -/
theorem readOff_of_matchIn (hr : ReadsWritten written readOff) (hm : span.MatchIn written source) :
    readOff (source.drop span.start) = some (span.key, source.drop span.stop) := by
  refine (hr.some_iff _ _ _).mpr ⟨_, hm.written, ?_⟩
  have hstop : span.start + (span.stop - span.start) = span.stop :=
    Nat.add_sub_of_le hm.start_le
  rw [← hstop, ← List.drop_drop, Nat.add_sub_cancel_left]
  exact (List.take_append_drop _ _).symm

/-- A match has a character. -/
theorem start_lt_stop (hr : ReadsWritten written readOff) (hm : span.MatchIn written source) :
    span.start < span.stop := by
  have hne := hr.ne_nil _ _ hm.written
  rcases Nat.lt_or_eq_of_le hm.start_le with hlt | heq
  · exact hlt
  · rw [heq, Nat.sub_self, List.take_zero] at hne
    exact absurd rfl hne

/-- Where a key is read off, a match with this key starts, and what is left follows it. -/
theorem matchIn_of_readOff (hr : ReadsWritten written readOff) {start : Nat}
    (h : readOff (source.drop start) = some (key, rest)) :
    ∃ stop, (Span.mk start stop key).MatchIn written source ∧ rest = source.drop stop := by
  obtain ⟨piece, hw, hsource⟩ := (hr.some_iff _ _ _).mp h
  have hlength : source.length - start = piece.length + rest.length := by
    rw [← List.length_drop, hsource, List.length_append]
  have hpositive : 0 < piece.length := List.length_pos_iff.mpr (hr.ne_nil _ _ hw)
  have htake : (source.drop start).take (start + piece.length - start) = piece := by
    rw [Nat.add_sub_cancel_left, hsource, List.take_left]
  refine ⟨start + piece.length, ⟨Nat.le_add_right _ _, ?_, ?_⟩, ?_⟩
  · change start + piece.length ≤ source.length
    omega
  · exact htake.symm ▸ hw
  · rw [← List.drop_drop, hsource, List.drop_left]

/-- No match starts where nothing is read off. -/
theorem unmatched (hr : ReadsWritten written readOff) {first second : Nat}
    (h : ∀ i, first ≤ i → i < second → readOff (source.drop i) = none) :
    Unmatched written source first second := by
  intro span hm hfirst
  rcases Nat.lt_or_ge span.start second with hlt | hge
  · have hnone := h span.start hfirst hlt
    rw [hr.readOff_of_matchIn hm] at hnone
    cases hnone
  · exact hge

/-- Nothing is read off where no match starts. -/
theorem readOff_of_unmatched (hr : ReadsWritten written readOff) {first second i : Nat}
    (h : Unmatched written source first second) (hfirst : first ≤ i) (hsecond : i < second) :
    readOff (source.drop i) = none := by
  rw [Option.eq_none_iff_forall_ne_some]
  rintro ⟨key, rest⟩ hsome
  obtain ⟨stop, hm, -⟩ := hr.matchIn_of_readOff hsome
  have hle : second ≤ i := h _ hm hfirst
  omega

end ReadsWritten

/-! ## The first key by its position -/

/-- The first key is read off at some position, and nothing is read off in front of it. -/
theorem exists_of_firstRead_eq_some {found : Text × Text}
    (h : firstRead readOff source = some found) :
    ∃ i, readOff (source.drop i) = some found ∧ ∀ j < i, readOff (source.drop j) = none := by
  induction source with
  | nil => cases h
  | cons c source ih =>
    cases hr : readOff (c :: source) with
    | some other =>
      rw [firstRead_of_some (List.cons_ne_nil _ _) hr] at h
      exact ⟨0, hr.trans h, fun j hj => absurd hj (Nat.not_lt_zero j)⟩
    | none =>
      rw [firstRead_cons_of_none hr] at h
      obtain ⟨i, hi, hj⟩ := ih h
      refine ⟨i + 1, hi, fun j hlt => ?_⟩
      cases j with
      | zero => exact hr
      | succ j => exact hj j (Nat.lt_of_succ_lt_succ hlt)

/-- If there is no first key, nothing is read off anywhere. -/
theorem readOff_of_firstRead_eq_none (h : firstRead readOff source = none) (i : Nat)
    (hi : i < source.length) : readOff (source.drop i) = none := by
  induction source generalizing i with
  | nil => exact absurd hi (Nat.not_lt_zero i)
  | cons c source ih =>
    cases hr : readOff (c :: source) with
    | some other =>
      rw [firstRead_of_some (List.cons_ne_nil _ _) hr] at h
      cases h
    | none =>
      rw [firstRead_cons_of_none hr] at h
      cases i with
      | zero => exact hr
      | succ i => exact ih h i (Nat.lt_of_succ_lt_succ hi)

/-- Characters at which nothing is read off may be left out. -/
theorem firstRead_drop {i : Nat} (h : ∀ j < i, readOff (source.drop j) = none) :
    firstRead readOff (source.drop i) = firstRead readOff source := by
  induction i generalizing source with
  | zero => rfl
  | succ i ih =>
    cases source with
    | nil => rfl
    | cons c source =>
      have hhead : readOff (c :: source) = none := h 0 (Nat.zero_lt_succ i)
      rw [firstRead_cons_of_none hhead, List.drop_succ_cons]
      exact ih fun j hj => h (j + 1) (Nat.succ_lt_succ hj)

/-! ## The spans of a scan -/

/-- A scan that comes upon a match goes on behind it. -/
theorem Scanned.cons (hr : ReadsWritten written readOff) (hm : span.MatchIn written source)
    (hp : position ≤ span.start) (hu : Unmatched written source position span.start)
    (hs : Scanned written source span.stop spans) :
    Scanned written source position (span :: spans) where
  matched := List.forall_mem_cons.mpr ⟨hm, hs.matched⟩
  behind := by
    refine List.forall_mem_cons.mpr ⟨hp, fun other ho => ?_⟩
    exact Nat.le_trans hp (Nat.le_trans hm.start_le (hs.behind other ho))
  ordered := by
    refine List.pairwise_cons.mpr ⟨fun other ho => ?_, hs.ordered⟩
    have hbehind := hs.behind other ho
    exact ⟨Nat.lt_of_lt_of_le (hr.start_lt_stop hm) hbehind, hbehind⟩
  gaps := ⟨hu, hs.gaps⟩

/-- Behind its first span, a scan is again one. -/
theorem Scanned.tail (hs : Scanned written source position (span :: spans)) :
    Scanned written source span.stop spans where
  matched := (List.forall_mem_cons.mp hs.matched).2
  behind other ho := ((List.pairwise_cons.mp hs.ordered).1 other ho).2
  ordered := (List.pairwise_cons.mp hs.ordered).2
  gaps := hs.gaps.2

/-- From every position on there is a scan. -/
theorem exists_scanned (hr : ReadsWritten written readOff) (source : Text) (position : Nat) :
    ∃ spans, Scanned written source position spans := by
  -- each match reaches beyond its start, so a scan comes nearer to the end of the text
  induction hn : source.length - position using Nat.strongRecOn generalizing position with
  | ind n ih =>
    cases hf : firstRead readOff (source.drop position) with
    | none =>
      have hu : Unmatched written source position source.length := by
        refine hr.unmatched fun i hfirst hsecond => ?_
        have hnone := readOff_of_firstRead_eq_none hf (i - position)
          (by rw [List.length_drop]; omega)
        rw [List.drop_drop, Nat.add_sub_of_le hfirst] at hnone
        exact hnone
      exact ⟨[], ⟨fun _ h => (List.not_mem_nil h).elim, fun _ h => (List.not_mem_nil h).elim,
        List.Pairwise.nil, hu⟩⟩
    | some found =>
      obtain ⟨key, rest⟩ := found
      obtain ⟨i, hi, hj⟩ := exists_of_firstRead_eq_some hf
      rw [List.drop_drop] at hi
      obtain ⟨stop, hm, -⟩ := hr.matchIn_of_readOff hi
      have hlt : position + i < stop := hr.start_lt_stop hm
      have hle : stop ≤ source.length := hm.stop_le
      have hu : Unmatched written source position (position + i) := by
        refine hr.unmatched fun j hfirst hsecond => ?_
        have hnone := hj (j - position) (by omega)
        rw [List.drop_drop, Nat.add_sub_of_le hfirst] at hnone
        exact hnone
      obtain ⟨spans, hs⟩ := ih (source.length - stop) (by omega) stop rfl
      exact ⟨_, hs.cons hr hm (Nat.le_add_right position i) hu⟩

/-- Two scans from one position come upon the same matches. -/
theorem Scanned.unique (hr : ReadsWritten written readOff)
    (hs : Scanned written source position spans) (ho : Scanned written source position others) :
    spans = others := by
  induction spans generalizing position others with
  | nil =>
    cases others with
    | nil => rfl
    | cons other others =>
      have hm := ho.matched other List.mem_cons_self
      have hge := hs.gaps other hm (ho.behind other List.mem_cons_self)
      have hlt := hr.start_lt_stop hm
      have hle := hm.stop_le
      omega
  | cons span spans ih =>
    have hm := hs.matched span List.mem_cons_self
    cases others with
    | nil =>
      have hge := ho.gaps span hm (hs.behind span List.mem_cons_self)
      have hlt := hr.start_lt_stop hm
      have hle := hm.stop_le
      omega
    | cons other others =>
      have hm' := ho.matched other List.mem_cons_self
      have hstart : span.start = other.start :=
        Nat.le_antisymm (hs.gaps.1 other hm' (ho.behind other List.mem_cons_self))
          (ho.gaps.1 span hm (hs.behind span List.mem_cons_self))
      have hread := hr.readOff_of_matchIn hm
      rw [hstart, hr.readOff_of_matchIn hm', Option.some.injEq, Prod.mk.injEq] at hread
      obtain ⟨hkey, hrest⟩ := hread
      have hlength := congrArg List.length hrest
      rw [List.length_drop, List.length_drop] at hlength
      have hle := hm.stop_le
      have hle' := hm'.stop_le
      have hstop : span.stop = other.stop := by omega
      have hspan : span = other := by
        cases span
        cases other
        exact Span.mk.injEq .. ▸ ⟨hstart, hstop, hkey.symm⟩
      subst hspan
      rw [ih hs.tail ho.tail]

/-! ## Readers -/

namespace KeyReader

variable {reader : Text → KeyReader}

/-- A reader that looks for the first key and goes on behind it hands out the keys of a scan. -/
theorem toList_of_scanned (hr : ReadsWritten written readOff)
    (hnext : ∀ source, (reader source).next? =
      (firstRead readOff source).map fun found => (found.1, reader found.2))
    (hs : Scanned written source position spans) :
    (reader (source.drop position)).toList = spans.map Span.key := by
  induction spans generalizing position with
  | nil =>
    have hnone : firstRead readOff (source.drop position) = none := by
      have hall : ∀ j < source.length - position,
          readOff ((source.drop position).drop j) = none := by
        intro j hj
        rw [List.drop_drop]
        exact hr.readOff_of_unmatched hs.gaps (Nat.le_add_right _ _) (by omega)
      rw [← firstRead_drop hall, List.drop_drop, List.drop_of_length_le (by omega)]
      rfl
    refine toList_of_next?_eq_none ?_
    rw [hnext, hnone]
    rfl
  | cons span spans ih =>
    have hm := hs.matched span List.mem_cons_self
    have hle := hs.behind span List.mem_cons_self
    have hlt := hr.start_lt_stop hm
    have hstop := hm.stop_le
    have hall : ∀ j < span.start - position, readOff ((source.drop position).drop j) = none := by
      intro j hj
      rw [List.drop_drop]
      exact hr.readOff_of_unmatched hs.gaps.1 (Nat.le_add_right _ _) (by omega)
    have hsome : firstRead readOff (source.drop position) =
        some (span.key, source.drop span.stop) := by
      rw [← firstRead_drop hall, List.drop_drop, Nat.add_sub_of_le hle]
      refine firstRead_of_some ?_ (hr.readOff_of_matchIn hm)
      exact List.ne_nil_of_length_pos (by rw [List.length_drop]; omega)
    have hfirst : (reader (source.drop position)).next? =
        some (span.key, reader (source.drop span.stop)) := by
      rw [hnext, hsome]
      rfl
    rw [toList_of_next? hfirst, ih hs.tail, List.map_cons]

/-! ## Portions -/

variable {drained : KeyReader}

/-- The next portion of keys, and what is left behind it. -/
theorem take_eq (count : Nat) (drained : KeyReader) :
    (drained.take count).1 = drained.toList.take count ∧
      (drained.take count).2.toList = drained.toList.drop count := by
  induction count generalizing drained with
  | zero => exact ⟨rfl, rfl⟩
  | succ count ih =>
    cases hn : drained.next? with
    | none =>
      rw [take, hn, toList_of_next?_eq_none hn]
      exact ⟨rfl, List.drop_nil.symm⟩
    | some found =>
      obtain ⟨hfirst, hlater⟩ := ih found.2
      rw [take, hn, toList_of_next? hn]
      exact ⟨congrArg (found.1 :: ·) hfirst, hlater⟩

/-- A reader without keys stays as it is, and gives none. -/
theorem take_of_toList_eq_nil (h : drained.toList = []) (count : Nat) :
    drained.take count = ([], drained) := by
  cases count with
  | zero => rfl
  | succ count =>
    cases hn : drained.next? with
    | none => rw [take, hn]
    | some found =>
      rw [toList_of_next? hn] at h
      cases h

/-- Portions of the given sizes, one after another, and the reader behind them. A portion is
smaller when fewer keys are left. -/
def portions : List Nat → KeyReader → List (List Text) × KeyReader
  | [], reader => ([], reader)
  | count :: counts, reader =>
    let first := reader.take count
    let later := portions counts first.2
    (first.1 :: later.1, later.2)

/-- How many keys portions of the given sizes ask for. -/
def asked : List Nat → Nat
  | [] => 0
  | count :: counts => count + asked counts

/-- Portions put together are as many keys as they ask for, and the other keys are left. -/
theorem portions_eq (counts : List Nat) (drained : KeyReader) :
    (portions counts drained).1.flatten = drained.toList.take (asked counts) ∧
      (portions counts drained).2.toList = drained.toList.drop (asked counts) := by
  induction counts generalizing drained with
  | nil => exact ⟨rfl, rfl⟩
  | cons count counts ih =>
    obtain ⟨hfirst, hrest⟩ := take_eq count drained
    obtain ⟨hkeys, hleft⟩ := ih (drained.take count).2
    rw [portions, asked]
    constructor
    · rw [List.flatten_cons, hfirst, hkeys, hrest, List.take_add]
    · rw [hleft, hrest, List.drop_drop]

/-- Portions of a reader without keys are empty, and leave it as it is. -/
theorem portions_of_toList_eq_nil (h : drained.toList = []) (counts : List Nat) :
    portions counts drained = (counts.map fun _ => [], drained) := by
  induction counts with
  | nil => rfl
  | cons count counts ih =>
    rw [portions, take_of_toList_eq_nil h count]
    dsimp only
    rw [ih, List.map_cons]

/-- A reader hands out the keys that are written in a text. -/
structure Scans (written : Text → Text → Prop) (source : Text) (drained : KeyReader) : Prop where
  /-- The keys are those of the matches that a scan of the text comes upon; there is no other list
  of matches of this kind. -/
  scanned : ∃ spans, Scanned written source 0 spans ∧ drained.toList = spans.map Span.key ∧
    ∀ others, Scanned written source 0 others → others = spans
  /-- Wherever in the text a key is written, reading it as a literal succeeds and gives the key. -/
  decoded : ∀ span : Span, span.MatchIn written source →
    Literal.decode (Literal.quote span.key) = some span.key
  /-- Portions of any sizes are all the keys in the same order, as many as they ask for. -/
  portions : ∀ counts, (portions counts drained).1.flatten = drained.toList.take (asked counts) ∧
    (KeyReader.portions counts drained).2.toList = drained.toList.drop (asked counts)
  /-- When portions have asked for all the keys, later ones are empty and change nothing. -/
  exhausted : ∀ counts later, drained.toList.length ≤ asked counts →
    KeyReader.portions later (KeyReader.portions counts drained).2 =
      (later.map fun _ => [], (KeyReader.portions counts drained).2)

/-- A reader that looks for the first key and goes on behind it hands out the keys of a text. -/
theorem scans_of_next? (hr : ReadsWritten written readOff)
    (hkey : ∀ key piece, written key piece → IsKey key)
    (hnext : ∀ source, (reader source).next? =
      (firstRead readOff source).map fun found => (found.1, reader found.2)) (source : Text) :
    (reader source).Scans written source where
  scanned := by
    obtain ⟨spans, hs⟩ := exists_scanned hr source 0
    exact ⟨spans, hs, toList_of_scanned hr hnext hs, fun others ho => ho.unique hr hs⟩
  decoded span hm := Literal.decode_quote (hkey _ _ hm.written).2
  portions counts := portions_eq counts _
  exhausted counts later hle := by
    refine portions_of_toList_eq_nil ?_ later
    rw [(portions_eq counts _).2]
    exact List.drop_of_length_le hle

/-- The readers of both kinds hand out the keys written in a text in their way. -/
theorem scans_source (source : Text) :
    (entries source).Scans QuotedKey.Written source ∧
      (statements source).Scans ExportStatement.Written source := by
  constructor
  · refine scans_of_next? QuotedKey.readsWritten (fun _ _ h => h.1) (fun source => ?_) source
    rw [next?, QuotedKey.next?_eq_firstRead]
  · refine scans_of_next? ExportStatement.readsWritten (fun _ _ h => h.1) (fun source => ?_) source
    rw [next?, ExportStatement.next?_eq_firstRead]

/-- The quote that ends a word without a colon may begin a key. -/
example : (entries ['"', 'a', '"', 'b', '"', ':']).toList = ([['b']] : List Text) := by decide

end KeyReader

end StyleTypings
