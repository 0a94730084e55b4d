import StyleTypings.Proofs.Declaration.Lines
import StyleTypings.Proofs.Reconcile.Settled
import Mathlib.Tactic.Tauto

/-!
# Checking another module against an emitted declaration

A declaration that was emitted for one content passes the check for another one exactly if both
contents have the same keys and the same kind of export block is asked for. The order of the
keys and their repetitions do not count, and no quote or other character inside a key makes two
different sets of keys look alike. Keys with a line feed are left out: such a key can be
written so that it looks like two.
-/

namespace StyleTypings

/-- A check without any refusal of the declaration that an emission looked after. The contents,
the strategies and the export choices of the two may differ. -/
structure Request.ChecksAfter (emission check : Request) : Prop where
  /-- The first request emits. -/
  emits : emission.options.mode = Mode.emit.text
  /-- The second request checks. -/
  checks : check.options.mode = Mode.verify.text
  /-- Both are about one resource. -/
  resource : check.resource = emission.resource
  /-- No refusal is to happen during the check. -/
  faultless : check.faults = {}

variable {emission check : Request} {disk : Disk} {first second : List Text}

/-- A check finds a declaration that is up to date with one plan in order exactly if the text
expected by its own plan is the same but for the line ends; else it reports the difference. -/
theorem Plan.verify_against (right : Plan) {left : Plan} {faults : Faults}
    (hu : left.UpToDate disk faults) (hd : right.declaration = left.declaration) :
    (Text.same (some left.expected) (some right.expected) = true ∧
      (right.verify disk faults).result = .ok false) ∨
    (Text.same (some left.expected) (some right.expected) ≠ true ∧
      ∃ diff, (right.verify disk faults).result =
        .error (.declarationOutdated left.declaration diff)) := by
  obtain ⟨existing, hr, he⟩ := hu
  rw [← hd] at hr
  simp only [ne_eq, Text.same_iff]
  by_cases hs : Text.crlfToLf left.expected = Text.crlfToLf right.expected
  · refine Or.inl ⟨hs, ?_⟩
    rw [Plan.verify_of_upToDate ⟨existing, hr, he.trans hs⟩]
  · refine Or.inr ⟨hs, ?_⟩
    rw [Plan.verify_of_different hr (fun hn => hs (he.symm.trans hn)), hd]
    exact ⟨_, rfl⟩

/-- The plan of a request is for the keys that its strategies find. -/
theorem Request.plan_of_finds {request : Request} {mode : Mode} {declaration : Path}
    {keys : List Text} (hm : request.options.mode = mode.text)
    (hd : (Path.ofText request.resource).declaration? = some declaration)
    (hf : Extraction.Finds request.strategies request.content keys) :
    ∃ strategy, request.plan = .ok ⟨mode, declaration, collectKeys keys,
      Declaration.render (collectKeys keys) request.options.namedExports, strategy⟩ := by
  obtain ⟨found, hs, rfl⟩ := hf
  exact ⟨found.strategy, Request.plan_of_select hm hd hs⟩

theorem lineFeed_not_mem_collectKeys {keys : List Text} (hl : ∀ key ∈ keys, .char '\n' ∉ key) :
    ∀ key ∈ collectKeys keys, .char '\n' ∉ key := fun key hk => hl key (mem_collectKeys.mp hk)

/-- Two lists of keys with a choice of export block each declare the same: the lists have the
same members, and the choices agree. -/
def SameShape (first second : List Text) (m n : Bool) : Prop :=
  (∀ key, key ∈ first ↔ key ∈ second) ∧ m = n

/-- After an emission that returned, a check for another content either passes, and the shapes
are the same, or reports a declaration that is out of date, and they are not. -/
theorem check_after_emission {outcome : Outcome} (hc : emission.ChecksAfter check)
    (hf : Extraction.Finds emission.strategies emission.content first)
    (hs : Extraction.Finds check.strategies check.content second)
    (hlf : ∀ key ∈ first, .char '\n' ∉ key) (hls : ∀ key ∈ second, .char '\n' ∉ key)
    (ho : (reconcile disk emission).result = .ok outcome) :
    (SameShape first second emission.options.namedExports check.options.namedExports ∧
      ∃ checked, (reconcile (reconcile disk emission).disk check).result = .ok checked) ∨
    (¬SameShape first second emission.options.namedExports check.options.namedExports ∧
      ∃ diff, (reconcile (reconcile disk emission).disk check).result =
        .error (.declarationOutdated outcome.declaration diff)) := by
  obtain ⟨left, hleft, hu, hd, -⟩ := upToDate_of_emission hc.emits ho
  have hpath := (Request.plan_eq_ok_iff.mp hleft).2.1
  obtain ⟨strategy, hp⟩ := Request.plan_of_finds hc.emits hpath hf
  rw [hleft, Except.ok.injEq] at hp
  rw [← hc.resource] at hpath
  obtain ⟨strategy, hright⟩ := Request.plan_of_finds hc.checks hpath hs
  have hsame : Text.same (some left.expected)
      (some (Declaration.render (collectKeys second) check.options.namedExports)) = true ↔
        SameShape first second emission.options.namedExports check.options.namedExports := by
    rw [hp, Declaration.same_render_iff (lineFeed_not_mem_collectKeys hlf)
      (lineFeed_not_mem_collectKeys hls), collectKeys_perm_iff, SameShape]
  rw [(reconcile_of_plan _ hright).1, hc.faultless, Plan.carryOut, hd, ← hsame]
  rcases Plan.verify_against ⟨.verify, left.declaration, collectKeys second,
    Declaration.render (collectKeys second) check.options.namedExports, strategy⟩ hu rfl
    with ⟨hyes, hr⟩ | ⟨hno, diff, hr⟩
  · refine Or.inl ⟨hyes, ?_⟩
    rw [hr]
    exact ⟨_, rfl⟩
  · refine Or.inr ⟨hno, diff, ?_⟩
    rw [hr]
    rfl

/-- A check accepts exactly what has the shape that was emitted. The default strategies find keys
in every text. Documents of keys without a line feed, which may be empty or have quotes and
carriage returns, are the same but for their line ends exactly if the keys are permutations of
each other and the export blocks agree. After any emission that returned, a check passes
exactly if the two contents have the same set of keys under the same export choice; else it
reports the declaration as out of date. -/
theorem check_accepts_iff_sameShape :
    (∀ text, ∃ keys, Extraction.Finds Strategy.defaults text keys) ∧
    (∀ (first second : List Text) (m n : Bool),
      (∀ key ∈ first, .char '\n' ∉ key) → (∀ key ∈ second, .char '\n' ∉ key) →
      (Text.same (some (Declaration.render first m)) (some (Declaration.render second n)) = true ↔
        first.Perm second ∧ m = n)) ∧
    ∀ (disk : Disk) (emission check : Request) (first second : List Text) (outcome : Outcome),
      emission.ChecksAfter check →
      Extraction.Finds emission.strategies emission.content first →
      Extraction.Finds check.strategies check.content second →
      (∀ key ∈ first, .char '\n' ∉ key) → (∀ key ∈ second, .char '\n' ∉ key) →
      (reconcile disk emission).result = .ok outcome →
      ((∃ checked, (reconcile (reconcile disk emission).disk check).result = .ok checked) ↔
        SameShape first second emission.options.namedExports check.options.namedExports) ∧
      (¬SameShape first second emission.options.namedExports check.options.namedExports →
        ∃ diff, (reconcile (reconcile disk emission).disk check).result =
          .error (.declarationOutdated outcome.declaration diff)) := by
  refine ⟨Extraction.exists_finds_defaults, ?_, ?_⟩
  · intro first second m n hf hs
    exact Declaration.same_render_iff hf hs
  · intro disk emission check first second outcome hc hf hs hlf hls ho
    rcases check_after_emission hc hf hs hlf hls ho with ⟨hyes, hok⟩ | ⟨hno, diff, herror⟩
    · exact ⟨iff_of_true hok hyes, fun hn => absurd hyes hn⟩
    · refine ⟨iff_of_false ?_ hno, fun _ => ⟨diff, herror⟩⟩
      rintro ⟨checked, hok⟩
      rw [herror] at hok
      cases hok

/-- Keys with a quote and a carriage return, given in another order and repeated, pass the
check; asking for the other export block as well does not. -/
theorem check_accepts_iff_sameShape_reordered :
    let first : List Text := [['b'], ['a', '\x27', '\r']]
    let second : List Text := [['a', '\x27', '\r'], ['b'], ['b']]
    let emission : Request :=
      { content := [], resource := ['a'], strategies := [.fixed [] true first] }
    let check (namedExports : Bool) : Request :=
      { content := [], resource := ['a'], strategies := [.fixed [] true second],
        options := ⟨Mode.verify.text, namedExports⟩ }
    let after := (reconcile ⟨[], []⟩ emission).disk
    ((∀ key ∈ first, .char '\n' ∉ key) ∧ (∀ key ∈ second, .char '\n' ∉ key)) ∧
      (∃ checked, (reconcile after (check false)).result = .ok checked) ∧
      ∃ diff, (reconcile after (check true)).result =
        .error (.declarationOutdated ⟨.working, ["a.d.ts".toText]⟩ diff) := by
  intro first second emission check after
  have hf : ∀ key ∈ first, .char '\n' ∉ key := by decide
  have hs : ∀ key ∈ second, .char '\n' ∉ key := by decide
  have hp : emission.plan = .ok ⟨.emit, ⟨.working, ["a.d.ts".toText]⟩, [['a', '\x27', '\r'], ['b']],
      Declaration.render [['a', '\x27', '\r'], ['b']] false, []⟩ := rfl
  have ho : (reconcile ⟨[], []⟩ emission).result =
      .ok ⟨[], ⟨.working, ["a.d.ts".toText]⟩, [['a', '\x27', '\r'], ['b']], true, []⟩ :=
    reconcile_of_due hp rfl (Or.inl ⟨.notFound, _, rfl⟩) rfl ⟨_, rfl, by decide⟩
      (Declaration.plain_render_iff.mpr (by decide))
  have hk : ∀ key, key ∈ first ↔ key ∈ second := by
    intro key
    simp only [first, second, List.mem_cons, List.not_mem_nil, or_false]
    tauto
  refine ⟨⟨hf, hs⟩, ?_, ?_⟩
  · exact (check_accepts_iff_sameShape.2.2 ⟨[], []⟩ emission (check false) first second _
      ⟨rfl, rfl, rfl, rfl⟩ ⟨_, rfl, rfl⟩ ⟨_, rfl, rfl⟩ hf hs ho).1.mpr ⟨hk, rfl⟩
  · exact (check_accepts_iff_sameShape.2.2 ⟨[], []⟩ emission (check true) first second _
      ⟨rfl, rfl, rfl, rfl⟩ ⟨_, rfl, rfl⟩ ⟨_, rfl, rfl⟩ hf hs ho).2 (fun h => Bool.false_ne_true h.2)

end StyleTypings
