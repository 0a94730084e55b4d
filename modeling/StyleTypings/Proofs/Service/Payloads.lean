import StyleTypings.Proofs.Text.CodePoints
import StyleTypings.Service.Payload

/-!
# Which bodies carry a payload

A body carries a payload if it is an object whose fields have the right kinds, and each field that
may be left out has its default where it is. The reader accepts exactly these bodies. Any other
body has at least one problem, and each problem of an object is about a field of the payload.
-/

namespace StyleTypings.Service

/-- The truth value that a value stands for in a payload. -/
inductive StandsFor : Value → Bool → Prop where
  /-- A truth value stands for itself. -/
  | bool (value : Bool) : StandsFor (.bool value) value
  /-- Zero stands for false. -/
  | zero : StandsFor (.int 0) false
  /-- One stands for true. -/
  | one : StandsFor (.int 1) true
  /-- Zero stands for false as a floating-point number, too. -/
  | zeroFloat (x : Binary64) (hx : x.toInt? = some 0) : StandsFor (.float x) false
  /-- One stands for true as a floating-point number, too. -/
  | oneFloat (x : Binary64) (hx : x.toInt? = some 1) : StandsFor (.float x) true
  /-- Some words stand for true, in letters of either size. -/
  | trueWord (word : Text) (hw : Text.lowerLatin word ∈ Payload.trueWords) :
    StandsFor (.text word) true
  /-- Some words stand for false, in letters of either size. -/
  | falseWord (word : Text) (hw : Text.lowerLatin word ∈ Payload.falseWords) :
    StandsFor (.text word) false

/-- The value of a field, if it is there. -/
def field? (entries : List (Value × Value)) (name : String) : Option Value :=
  (Value.text name.toText).lookup? entries

/-- The fields of an object are those of the payload. -/
structure Fits (entries : List (Value × Value)) (payload : Payload) : Prop where
  /-- The content is given. -/
  content : field? entries "content" = some (.text payload.content)
  /-- The resource is given. -/
  resource : field? entries "resource_path" = some (.text payload.resource)
  /-- The mode is given, or it is left out and stands for emitting. -/
  mode : field? entries "mode" = some (.text payload.options.mode) ∨
    field? entries "mode" = none ∧ payload.options.mode = Mode.emit.text
  /-- The export choice is given, or it is left out and stands for a default export. -/
  namedExports : (∃ value, field? entries "named_exports" = some value ∧
      StandsFor value payload.options.namedExports) ∨
    field? entries "named_exports" = none ∧ payload.options.namedExports = false

/-- The body carries the payload. -/
def Carries (body : Option Value) (payload : Payload) : Prop :=
  ∃ entries, body = some (.map entries) ∧ Fits entries payload

variable {α : Type} {value : Value} {flag : Bool} {entries : List (Value × Value)}
  {body : Option Value} {name : Text} {read : Value → Except Fault α} {otherwise : Option α}
  {found : α} {payload : Payload} {problems : List Problem}

namespace Payload

/-! ## One field -/

theorem text_eq_ok_iff {word : Text} : text value = .ok word ↔ value = .text word := by
  cases value <;> simp [text]

/-- No word stands for both truth values. -/
theorem not_mem_falseWords : ∀ word ∈ trueWords, word ∉ falseWords := by
  decide

/-- A word that stands for a truth value, in letters of either size, has no surrogate. -/
theorem plain_of_lowerLatin_mem {word : Text}
    (hw : Text.lowerLatin word ∈ trueWords ∨ Text.lowerLatin word ∈ falseWords) :
    word.any CodePoint.isSurrogate = false := by
  have hwords : ∀ other ∈ trueWords ++ falseWords, other.any CodePoint.isSurrogate = false := by
    decide
  have hlower : (Text.lowerLatin word).any CodePoint.isSurrogate =
      word.any CodePoint.isSurrogate := by
    rw [Text.lowerLatin, List.any_map]
    exact congrArg word.any (funext fun c => by cases c <;> rfl)
  rw [← hlower]
  exact hwords _ (List.mem_append.mpr hw)

/-- Of the numbers, only zero and one are truth values. -/
theorem truthOfInt_eq_ok_iff {n : Int} :
    truthOfInt n = .ok flag ↔ n = 0 ∧ flag = false ∨ n = 1 ∧ flag = true := by
  unfold truthOfInt
  split
  · next hz => simp [hz, eq_comm]
  · next hz =>
    split
    · next ho => simp [ho, eq_comm]
    · next ho => split <;> simp [hz, ho]

/-- The reader of truth values accepts the values that stand for one. -/
theorem truth_eq_ok_iff : truth value = .ok flag ↔ StandsFor value flag := by
  constructor
  · intro ht
    cases value with
    | bool value =>
      cases ht
      exact .bool flag
    | int n =>
      rcases truthOfInt_eq_ok_iff.mp ht with ⟨rfl, rfl⟩ | ⟨rfl, rfl⟩
      · exact .zero
      · exact .one
    | float x =>
      simp only [truth] at ht
      split at ht
      · next hx =>
        cases ht
        exact .zeroFloat x hx
      · split at ht
        · next hx =>
          cases ht
          exact .oneFloat x hx
        · cases ht
    | text word =>
      simp only [truth] at ht
      split at ht
      · cases ht
      · split at ht
        · next hw =>
          cases ht
          exact .trueWord word (List.contains_iff_mem.mp hw)
        · split at ht
          · next hw =>
            cases ht
            exact .falseWord word (List.contains_iff_mem.mp hw)
          · cases ht
    | _ => cases ht
  · intro hs
    cases hs with
    | bool => rfl
    | zero => rfl
    | one => rfl
    | zeroFloat x hx => simp [truth, hx]
    | oneFloat x hx => simp [truth, hx]
    | trueWord word hw =>
      rw [truth, plain_of_lowerLatin_mem (Or.inl hw), if_pos (List.contains_iff_mem.mpr hw)]
      rfl
    | falseWord word hw =>
      have hn : ¬trueWords.contains (Text.lowerLatin word) = true := fun ht =>
        not_mem_falseWords _ (List.contains_iff_mem.mp ht) hw
      rw [truth, plain_of_lowerLatin_mem (Or.inr hw), if_neg hn,
        if_pos (List.contains_iff_mem.mpr hw)]
      rfl

/-- A field is read off its value, or it is left out and has its default. -/
theorem field_eq_ok_iff : field entries name read otherwise = .ok found ↔
    (∃ value, (Value.text name).lookup? entries = some value ∧ read value = .ok found) ∨
    (Value.text name).lookup? entries = none ∧ otherwise = some found := by
  unfold field
  cases (Value.text name).lookup? entries with
  | none => cases otherwise <;> simp
  | some value =>
    cases hr : read value <;> simp [hr]

/-- A text that must be given. -/
theorem field_text_eq_ok_iff {word : Text} : field entries name text none = .ok word ↔
    (Value.text name).lookup? entries = some (.text word) := by
  rw [field_eq_ok_iff]
  simp only [text_eq_ok_iff, exists_eq_right, reduceCtorEq, and_false, or_false]

/-- A text that may be left out. -/
theorem field_text_default_eq_ok_iff {word default : Text} :
    field entries name text (some default) = .ok word ↔
      (Value.text name).lookup? entries = some (.text word) ∨
      (Value.text name).lookup? entries = none ∧ word = default := by
  rw [field_eq_ok_iff, Option.some.injEq, eq_comm (a := default)]
  simp only [text_eq_ok_iff, exists_eq_right]

/-- A truth value that may be left out. -/
theorem field_truth_default_eq_ok_iff {default : Bool} :
    field entries name truth (some default) = .ok flag ↔
      (∃ value, (Value.text name).lookup? entries = some value ∧ StandsFor value flag) ∨
      (Value.text name).lookup? entries = none ∧ flag = default := by
  rw [field_eq_ok_iff, Option.some.injEq, eq_comm (a := default)]
  simp only [truth_eq_ok_iff]

/-! ## The whole body -/

/-- An object is accepted if each of its fields is. -/
theorem ofBody_map_eq_ok_iff : ofBody (some (.map entries)) = .ok payload ↔
    field entries "content".toText text none = .ok payload.content ∧
    field entries "resource_path".toText text none = .ok payload.resource ∧
    field entries "mode".toText text (some Mode.emit.text) = .ok payload.options.mode ∧
    field entries "named_exports".toText truth (some false) = .ok payload.options.namedExports := by
  unfold ofBody
  dsimp only
  constructor
  · intro hb
    split at hb
    · next content resource mode namedExports hcontent hresource hmode hnamedExports =>
      cases hb
      exact ⟨hcontent, hresource, hmode, hnamedExports⟩
    · cases hb
  · rintro ⟨hcontent, hresource, hmode, hnamedExports⟩
    rw [hcontent, hresource, hmode, hnamedExports]

/-- An object is a payload exactly if its entries fit one. -/
theorem ofBody_map_eq_ok_iff_fits : ofBody (some (.map entries)) = .ok payload ↔
    Fits entries payload := by
  rw [ofBody_map_eq_ok_iff, field_text_eq_ok_iff, field_text_eq_ok_iff,
    field_text_default_eq_ok_iff, field_truth_default_eq_ok_iff]
  constructor
  · rintro ⟨hcontent, hresource, hmode, hnamedExports⟩
    exact ⟨hcontent, hresource, hmode, hnamedExports⟩
  · intro hf
    exact ⟨hf.content, hf.resource, hf.mode, hf.namedExports⟩

/-- The reader accepts the bodies that carry a payload. -/
theorem ofBody_eq_ok_iff : ofBody body = .ok payload ↔ Carries body payload := by
  constructor
  · intro hb
    cases body with
    | none => cases hb
    | some value =>
      cases value with
      | map entries => exact ⟨entries, rfl, ofBody_map_eq_ok_iff_fits.mp hb⟩
      | _ => cases hb
  · rintro ⟨entries, rfl, hf⟩
    exact ofBody_map_eq_ok_iff_fits.mpr hf

/-! ## Problems -/

/-- The names of the fields. -/
def fieldNames : List Text :=
  ["content".toText, "resource_path".toText, "mode".toText, "named_exports".toText]

/-- What a problem of a body is about. -/
inductive Concerns : Option Value → Problem → Prop where
  /-- There is no body. -/
  | absent : Concerns none ⟨none, .missing, .null⟩
  /-- The body is no object. -/
  | notObject (value : Value) : Concerns (some value) ⟨none, .notObject, value⟩
  /-- A field of the payload is missing in the object. -/
  | missing {name : Text} (entries : List (Value × Value)) (hn : name ∈ fieldNames) :
    Concerns (some (.map entries)) ⟨some name, .missing, .map entries⟩
  /-- The value of a field of the payload has the wrong kind. -/
  | unfit {name : Text} {entries : List (Value × Value)} {value : Value} (fault : Fault)
    (hn : name ∈ fieldNames) (hv : (Value.text name).lookup? entries = some value) :
    Concerns (some (.map entries)) ⟨some name, fault, value⟩

/-- A problem of one of the fields concerns the body. -/
theorem concerns_of_field_error {problem : Problem} (hn : name ∈ fieldNames)
    (hf : field entries name read otherwise = .error problem) :
    Concerns (some (.map entries)) problem := by
  unfold field at hf
  split at hf
  · cases hf
  · cases hf
    exact .missing entries hn
  · next hv =>
    split at hf
    · cases hf
    · cases hf
      exact .unfit _ hn hv

/-- A result has a problem exactly if it fails with it. -/
theorem mem_problemOf_iff {result : Except Problem α} {problem : Problem} :
    problem ∈ problemOf result ↔ result = .error problem := by
  cases result with
  | ok value => simp [problemOf]
  | error other => simp [problemOf, eq_comm]

theorem problemOf_eq_nil_iff {result : Except Problem α} :
    problemOf result = [] ↔ ∃ value, result = .ok value := by
  cases result <;> simp [problemOf]

/-- A body that is refused has a problem, and all problems concern the body. -/
theorem problems_of_ofBody_error (hb : ofBody body = .error problems) :
    problems ≠ [] ∧ ∀ problem ∈ problems, Concerns body problem := by
  cases body with
  | none =>
    cases hb
    exact ⟨List.cons_ne_nil _ _, List.forall_mem_singleton.mpr .absent⟩
  | some value =>
    cases value with
    | map entries =>
      unfold ofBody at hb
      dsimp only at hb
      split at hb
      · cases hb
      · next hany =>
        cases hb
        refine ⟨fun hnil => ?_, fun problem hp => ?_⟩
        · simp only [List.append_eq_nil_iff, problemOf_eq_nil_iff] at hnil
          obtain ⟨⟨⟨⟨_, hcontent⟩, _, hresource⟩, _, hmode⟩, _, hnamedExports⟩ := hnil
          exact hany _ _ _ _ hcontent hresource hmode hnamedExports
        · simp only [List.mem_append, mem_problemOf_iff] at hp
          rcases hp with ((hp | hp) | hp) | hp
          · exact concerns_of_field_error (by simp [fieldNames]) hp
          · exact concerns_of_field_error (by simp [fieldNames]) hp
          · exact concerns_of_field_error (by simp [fieldNames]) hp
          · exact concerns_of_field_error (by simp [fieldNames]) hp
    | _ =>
      cases hb
      exact ⟨List.cons_ne_nil _ _, List.forall_mem_singleton.mpr (.notObject _)⟩

end Payload

end StyleTypings.Service
