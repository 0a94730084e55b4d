import StyleTypings.Declaration
import StyleTypings.Extraction
import StyleTypings.Proofs.Text.CodePoints

/-!
# Found, collected and sorted keys

The default strategies find keys in every text. Collecting keys gives them in strictly
ascending order of their code points, each once, and loses none. Sorting keeps repetitions; two
lists are sorted alike exactly if one is a permutation of the other. So neither the order of
the keys in a module nor their repetition can be seen in what is made of the collected keys.
-/

namespace StyleTypings

variable {key k : Text} {keys first second : List Text}

/-- A key is inserted beside those that are there. -/
theorem mem_insertKey : k ∈ insertKey key keys ↔ k = key ∨ k ∈ keys := by
  induction keys with
  | nil => simp [insertKey]
  | cons head tail ih =>
    rw [insertKey]
    split
    · exact List.mem_cons
    · split
      · rw [List.mem_cons, ih, List.mem_cons, or_left_comm]
      · next hl hg =>
        have he : key = head := List.le_antisymm hg hl
        rw [he, List.mem_cons, or_self_left]

/-- Inserting a key keeps the keys ascending. -/
theorem insertKey_ascending (key : Text) (hs : keys.Pairwise (· < ·)) :
    (insertKey key keys).Pairwise (· < ·) := by
  induction keys with
  | nil => exact List.pairwise_singleton _ _
  | cons head tail ih =>
    obtain ⟨hhead, htail⟩ := List.pairwise_cons.mp hs
    rw [insertKey]
    split
    · next hl =>
      refine List.pairwise_cons.mpr ⟨fun k hk => ?_, hs⟩
      rcases List.mem_cons.mp hk with rfl | hk
      · exact hl
      · exact List.lt_trans hl (hhead k hk)
    · split
      · next hg =>
        refine List.pairwise_cons.mpr ⟨fun k hk => ?_, ih htail⟩
        rcases mem_insertKey.mp hk with rfl | hk
        · exact hg
        · exact hhead k hk
      · exact hs

/-- Collecting loses no key and adds none. -/
theorem mem_collectKeys : k ∈ collectKeys keys ↔ k ∈ keys := by
  induction keys with
  | nil => rfl
  | cons key keys ih =>
    change k ∈ insertKey key (collectKeys keys) ↔ _
    rw [mem_insertKey, ih, List.mem_cons]

/-- Collected keys stand in strictly ascending order, so each stands there once. -/
theorem collectKeys_ascending (keys : List Text) : (collectKeys keys).Pairwise (· < ·) := by
  induction keys with
  | nil => exact List.Pairwise.nil
  | cons key keys ih => exact insertKey_ascending key ih

/-- Keys in strictly ascending order stand there once each. -/
theorem nodup_of_ascending (hk : keys.Pairwise (· < ·)) : keys.Nodup :=
  hk.imp fun {a b} (h : a < b) (he : a = b) => List.lt_irrefl b (he ▸ h)

/-- Collected keys are without repetitions. -/
theorem collectKeys_nodup (keys : List Text) : (collectKeys keys).Nodup :=
  nodup_of_ascending (collectKeys_ascending keys)

/-- Lists in ascending order with the same members, each once, are the same. -/
theorem eq_of_ascending (hf : first.Pairwise (· < ·)) (hs : second.Pairwise (· < ·))
    (hm : ∀ key, key ∈ first ↔ key ∈ second) : first = second := by
  have hperm : first.Perm second :=
    (List.perm_ext_iff_of_nodup (nodup_of_ascending hf) (nodup_of_ascending hs)).mpr hm
  exact hperm.eq_of_pairwise
    (fun a b _ _ hab hba => absurd (List.lt_trans hab hba) (List.lt_irrefl a))
    hf hs

/-- The collected keys of two lists are the same exactly if the lists have the same members,
in whatever order and however often. -/
theorem collectKeys_perm_iff :
    (collectKeys first).Perm (collectKeys second) ↔ ∀ k, k ∈ first ↔ k ∈ second := by
  rw [List.perm_ext_iff_of_nodup (collectKeys_nodup first) (collectKeys_nodup second)]
  simp only [mem_collectKeys]

/-- The strategies find these keys in the text, in source order and with repetitions. -/
def Extraction.Finds (strategies : List Strategy) (text : Text) (keys : List Text) : Prop :=
  ∃ found, Extraction.select strategies text = .ok found ∧ found.keys.toList = keys

/-- Looking for markers fails only over an empty one. -/
theorem Strategy.extractLocals_returns {markers : List Text} (hm : ∀ marker ∈ markers, marker ≠ [])
    (text : Text) : ∃ report, Strategy.extractLocals markers text = .ok report := by
  induction markers with
  | nil => exact ⟨_, rfl⟩
  | cons marker markers ih =>
    obtain ⟨hmarker, hmarkers⟩ := List.forall_mem_cons.mp hm
    rw [Strategy.extractLocals, if_neg (mt List.isEmpty_iff.mp hmarker)]
    split
    · exact ⟨_, rfl⟩
    · exact ih hmarkers

theorem Strategy.defaultMarkers_ne_nil : ∀ marker ∈ Strategy.defaultMarkers, marker ≠ [] := by
  have hf : "exports.locals = \x7b".toText = _ := String.toText_ofList
  have hs : "___CSS_LOADER_EXPORT___.locals = \x7b".toText = _ := String.toText_ofList
  rw [Strategy.defaultMarkers, hf, hs]
  decide

/-- The default strategies find keys in every text, though perhaps none. -/
theorem Extraction.exists_finds_defaults (text : Text) :
    ∃ keys, Extraction.Finds Strategy.defaults text keys := by
  obtain ⟨report, hr⟩ := Strategy.extractLocals_returns Strategy.defaultMarkers_ne_nil text
  have hl : (Strategy.locals Strategy.defaultMarkers).extract text = .ok report := hr
  unfold Extraction.Finds
  rw [Strategy.defaults, Extraction.select, hl]
  dsimp only
  split
  · exact ⟨_, _, rfl, rfl⟩
  · exact ⟨_, _, rfl, rfl⟩

namespace Declaration

/-- Sorting keeps the keys. -/
theorem sortKeys_perm (keys : List Text) : (sortKeys keys).Perm keys :=
  List.mergeSort_perm keys _

theorem mem_sortKeys : k ∈ sortKeys keys ↔ k ∈ keys := (sortKeys_perm keys).mem_iff

/-- Sorted keys do not descend. -/
theorem sortKeys_ascending (keys : List Text) :
    (sortKeys keys).Pairwise fun a b => ¬b < a := by
  have hs : (sortKeys keys).Pairwise fun a b => (!decide (b < a)) = true := by
    refine List.pairwise_mergeSort ?_ ?_ keys
    · intro a b c hab hbc
      simp only [Bool.not_eq_true', decide_eq_false_iff_not] at hab hbc ⊢
      exact List.le_trans hab hbc
    · intro a b
      simp only [Bool.or_eq_true, Bool.not_eq_true', decide_eq_false_iff_not]
      exact List.le_total a b
  exact hs.imp fun h => by
    simpa only [Bool.not_eq_true', decide_eq_false_iff_not] using h

/-- Two lists are sorted alike exactly if one is a permutation of the other. -/
theorem sortKeys_eq_iff_perm : sortKeys first = sortKeys second ↔ first.Perm second := by
  constructor
  · intro he
    exact (sortKeys_perm first).symm.trans (he ▸ sortKeys_perm second)
  · intro hp
    have hs : (sortKeys first).Perm (sortKeys second) :=
      (sortKeys_perm first).trans (hp.trans (sortKeys_perm second).symm)
    exact hs.eq_of_pairwise (fun a b _ _ hab hba => List.le_antisymm hab hba)
      (sortKeys_ascending first) (sortKeys_ascending second)

end Declaration

end StyleTypings
