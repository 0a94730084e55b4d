import StyleTypings.Proofs.Keys.Draining
import StyleTypings.Proofs.Keys.Selection

/-!
# Export statements read back

A module that exports its keys in statements is read back: between the statements may stand
anything that has no opening of a statement, and the keys are found as they are written, in
order and with their repetitions. The opening does not end as it begins, so no statement starts
in front of one and reaches into it; behind its opening a statement is read as a whole, so what
its key looks like makes no difference.
-/

namespace StyleTypings

variable {lead : Text}

namespace ExportStatement

/-- No end of the opening is a beginning of it. -/
theorem opening_borderless : Text.Borderless opening := by
  have hends : ∀ n < opening.length, 0 < n → ¬opening.drop n <+: opening := by decide
  exact fun n hpos hlength => hends n hlength hpos

/-- Nothing is read off in front of the opening of a statement. -/
theorem firstRead_lead (hl : ¬opening <:+: lead) (tail : Text) :
    firstRead at? (lead ++ (opening ++ tail)) = firstRead at? (opening ++ tail) := by
  refine firstRead_append fun part hs hne => at?_of_not_prefix ?_
  have hpart : ¬opening <:+: part := fun hm => hl (hm.trans hs.isInfix)
  exact opening_borderless.not_prefix hpart hne tail

/-- Nothing is read off in a text without an opening. -/
theorem next?_eq_none (hl : ¬opening <:+: lead) : next? lead = none := by
  rw [next?_eq_firstRead, ← List.append_nil lead]
  refine firstRead_append fun part hs _ => at?_of_not_prefix ?_
  rw [List.append_nil]
  exact fun hp => hl (hp.isInfix.trans hs.isInfix)

/-- The first statement is found behind a lead without an opening, and it is read as a whole. -/
theorem next?_render {name key : Text} (hl : ¬opening <:+: lead) (hn : IsLocalName name)
    (hk : IsKey key) (rest : Text) :
    next? (lead ++ (render name key ++ rest)) = some (key, rest) := by
  have hread : at? (render name key ++ rest) = some (key, rest) :=
    at?_eq_some_iff.mpr ⟨name, hn, hk, rfl⟩
  rw [render_append] at hread ⊢
  rw [next?_eq_firstRead, firstRead_lead hl]
  exact firstRead_of_some (List.cons_ne_nil _ _) hread

end ExportStatement

/-! ## Modules with export statements -/

/-- An export statement and what stands behind it, up to the next one. -/
structure ExportPiece where
  /-- The local name. -/
  name : Text
  /-- The key under which it is exported. -/
  key : Text
  /-- What stands behind the statement. -/
  behind : Text
  deriving DecidableEq, Repr

namespace ExportPiece

/-- The text of the piece. -/
def render (piece : ExportPiece) : Text :=
  ExportStatement.render piece.name piece.key ++ piece.behind

/-- The words of the statement may stand there, and no other statement opens behind it. -/
structure WellFormed (piece : ExportPiece) : Prop where
  /-- The local name is a word that may stand for one. -/
  name : IsLocalName piece.name
  /-- The key is a word that may stand for one. -/
  key : IsKey piece.key
  /-- What stands behind the statement has no opening of a statement. -/
  behind : ¬ExportStatement.opening <:+: piece.behind

instance (piece : ExportPiece) : Decidable piece.WellFormed :=
  decidable_of_iff (IsLocalName piece.name ∧ IsKey piece.key ∧
      Text.holds piece.behind ExportStatement.opening = false)
    ⟨fun ⟨hn, hk, hb⟩ => ⟨hn, hk, Text.holds_eq_false_iff.mp hb⟩,
      fun ⟨hn, hk, hb⟩ => ⟨hn, hk, Text.holds_eq_false_iff.mpr hb⟩⟩

end ExportPiece

/-- The text of a module that exports its keys in statements, with a lead in front of them. -/
def exportsModule (lead : Text) (pieces : List ExportPiece) : Text :=
  lead ++ pieces.flatMap ExportPiece.render

variable {pieces : List ExportPiece}

/-- The keys of the statements are read, and nothing else. -/
theorem KeyReader.toList_statements (hl : ¬ExportStatement.opening <:+: lead)
    (hp : ∀ piece ∈ pieces, piece.WellFormed) :
    (KeyReader.statements (exportsModule lead pieces)).toList = pieces.map ExportPiece.key := by
  induction pieces generalizing lead with
  | nil =>
    have hnone : (KeyReader.statements lead).next? = none := by
      rw [next?, ExportStatement.next?_eq_none hl]
      rfl
    rw [exportsModule, List.flatMap_nil, List.append_nil, toList_of_next?_eq_none hnone]
    rfl
  | cons piece pieces ih =>
    obtain ⟨⟨hname, hkey, hbehind⟩, hpieces⟩ := List.forall_mem_cons.mp hp
    have hnext : (KeyReader.statements (exportsModule lead (piece :: pieces))).next? =
        some (piece.key, .statements (exportsModule piece.behind pieces)) := by
      rw [exportsModule, List.flatMap_cons, ExportPiece.render, List.append_assoc, next?,
        ExportStatement.next?_render hl hname hkey]
      rfl
    rw [toList_of_next? hnext, List.map_cons, ih hbehind hpieces]

/-- A module without a marker that exports its keys in statements is read by the convention of
export statements, and the keys found are those that were written, in order and with their
repetitions. -/
theorem exportsModule_read_back (hl : ¬ExportStatement.opening <:+: lead)
    (hp : ∀ piece ∈ pieces, piece.WellFormed)
    (hm : ∀ marker ∈ Strategy.defaultMarkers, ¬marker <:+: exportsModule lead pieces) :
    ∃ found, Extraction.select Strategy.defaults (exportsModule lead pieces) = .ok found ∧
      found.strategy = "named-exports".toText ∧ found.recognised = true ∧
      found.keys.toList = pieces.map ExportPiece.key :=
  ⟨_, Extraction.select_defaults_of_not_infix hm, rfl, rfl, KeyReader.toList_statements hl hp⟩

/-- Keys may hold line ends and may look like statements, and they may be repeated. -/
theorem exportsModule_read_back_nested :
    ∃ found, Extraction.select Strategy.defaults (exportsModule ['\n']
        [⟨['_', '1'], ['a', '\n'], [';', '\n']⟩,
          ⟨['x'], ExportStatement.opening ++ ['_', ' ', 'a', 's', ' '], ['e', 'x', 'p']⟩,
          ⟨['_', '1'], ['a', '\n'], []⟩]) = .ok found ∧
      found.strategy = "named-exports".toText ∧ found.recognised = true ∧
      found.keys.toList =
        ([['a', '\n'], ExportStatement.opening ++ ['_', ' ', 'a', 's', ' '],
          ['a', '\n']] : List Text) := by
  have hlead : ¬ExportStatement.opening <:+: ['\n'] := Text.holds_eq_false_iff.mp rfl
  have hmarkers : ∀ marker ∈ Strategy.defaultMarkers, Text.holds (exportsModule ['\n']
        [⟨['_', '1'], ['a', '\n'], [';', '\n']⟩,
          ⟨['x'], ExportStatement.opening ++ ['_', ' ', 'a', 's', ' '], ['e', 'x', 'p']⟩,
          ⟨['_', '1'], ['a', '\n'], []⟩]) marker = false := by
    rw [Strategy.defaultMarkers_eq, Strategy.legacyMarker_eq, Strategy.currentMarker_eq]
    decide
  exact exportsModule_read_back hlead (by decide) fun marker hm =>
    Text.holds_eq_false_iff.mp (hmarkers marker hm)

end StyleTypings
