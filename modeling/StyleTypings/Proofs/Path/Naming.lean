import StyleTypings.Proofs.CommandLine.Places

/-!
# Declarations and the resources that they belong to

A text stands for a root, told by its leading slashes, and for the parts between its slashes that
are neither empty nor a single dot. The declaration keeps the root and all parts, and the last of
them gets a suffix. A suffix can be taken off again, so resources that stand for different paths
have different declarations; and since no compiled module has this suffix, no declaration is taken
for one.
-/

namespace StyleTypings

variable {path other declaration : Path} {front : List Text} {last suffix first second : Text}

/-- The pieces between occurrences of a character are those of the library's splitting. -/
theorem Text.splitAtChar_eq_splitOn (mark : CodePoint) (text : Text) :
    splitAtChar mark text = text.splitOn mark := by
  induction text with
  | nil => rw [splitAtChar, List.splitOn_nil]
  | cons c text ih =>
    rw [splitAtChar, List.splitOn_cons_eq_if_modifyHead, ih]
    by_cases hc : c = mark
    · rw [if_pos hc, if_pos (beq_iff_eq.mpr hc)]
    · rw [if_neg hc, if_neg fun h => hc (beq_iff_eq.mp h)]
      cases hp : text.splitOn mark with
      | nil => exact absurd hp (List.splitOn_ne_nil mark text)
      | cons piece pieces => rfl

/-- A text put to the last piece is put to the whole. -/
theorem Text.join_append_suffix (separator : Text) (front : List Text) (last suffix : Text) :
    join separator (front ++ [last ++ suffix]) = join separator (front ++ [last]) ++ suffix := by
  induction front with
  | nil => simp [join]
  | cons piece front ih =>
    have hne : ∀ behind : Text, front ++ [behind] ≠ [] := fun behind =>
      List.append_ne_nil_of_right_ne_nil front (List.cons_ne_nil behind [])
    rw [List.cons_append, List.cons_append, join, List.intercalate_cons_of_ne_nil (hne _), ← join,
      ih, join, join, List.intercalate_cons_of_ne_nil (hne _)]
    simp only [List.append_assoc]

/-- A root can be told from its text. -/
theorem Root.text_injective {first second : Root} (he : first.text = second.text) :
    first = second := by
  cases first <;> cases second <;> first | rfl | cases he

namespace Path

theorem eq_of_parts (hr : path.root = other.root) (hn : path.names = other.names) :
    path = other := by
  cases path
  cases other
  cases hr
  cases hn
  rfl

/-! ## What a text stands for -/

/-- The slashes in front of a text, as a root is written: two stand for a root of their own, and
three or more for the same as one. -/
def leadingSlashes (text : Text) : Text :=
  match (text.takeWhile (· == .char '/')).length with
  | 0 => []
  | 2 => ['/', '/']
  | _ => ['/']

/-- The parts between the slashes of a text, without empty ones and single dots. -/
def components (text : Text) : List Text :=
  (text.splitOn (.char '/')).filter fun part => part ≠ [] ∧ part ≠ ['.']

/-- The root of a text is written as the slashes at its start. -/
theorem text_rootOf (text : Text) : (rootOf text).text = leadingSlashes text := by
  unfold rootOf
  split
  · next rest =>
    -- Three slashes are three, whatever follows them.
    simp [leadingSlashes, Root.text]
  · next rest hthree =>
    cases rest with
    | nil => rfl
    | cons c rest =>
      have hc : c ≠ '/' := by
        rintro rfl
        exact hthree rest rfl
      simp [leadingSlashes, Root.text, hc]
  · next rest _ htwo =>
    cases rest with
    | nil => rfl
    | cons c rest =>
      have hc : c ≠ '/' := by
        rintro rfl
        exact htwo rest rfl
      simp [leadingSlashes, Root.text, hc]
  · next _ _ hone =>
    cases text with
    | nil => rfl
    | cons c rest =>
      have hc : c ≠ '/' := by
        rintro rfl
        exact hone rest rfl
      simp [leadingSlashes, Root.text, hc]

/-- The names of a text are its components. -/
theorem names_ofText (text : Text) : (ofText text).names = components text := by
  rw [ofText, components, Text.splitAtChar_eq_splitOn]
  refine List.filter_congr fun part _ => ?_
  rw [isName, Bool.eq_iff_iff, Bool.and_eq_true, bne_iff_ne, bne_iff_ne, decide_eq_true_iff]

/-- Texts stand for one path exactly if they begin with slashes for one root and have the same
components. -/
theorem ofText_eq_iff : ofText first = ofText second ↔
    leadingSlashes first = leadingSlashes second ∧ components first = components second := by
  rw [← text_rootOf, ← text_rootOf, ← names_ofText, ← names_ofText]
  constructor
  · intro he
    exact ⟨congrArg (fun path => path.root.text) he, congrArg names he⟩
  · rintro ⟨hroot, hnames⟩
    exact eq_of_parts (Root.text_injective hroot) hnames

/-- A path with names is written as its root and the names with slashes between them. -/
theorem text_of_names (hn : path.names = front ++ [last]) :
    path.text = path.root.text ++ Text.join ['/'] (front ++ [last]) := by
  have hne : path.names ≠ [] := by
    rw [hn]
    exact List.append_ne_nil_of_right_ne_nil front (List.cons_ne_nil last [])
  unfold text
  split
  · next hnil => exact absurd hnil hne
  · rw [hn]

/-! ## Declarations -/

/-- A path has no declaration exactly if it has no names. -/
theorem declaration?_eq_none_iff : path.declaration? = none ↔ path.names = [] := by
  rw [declaration?, Option.map_eq_none_iff, name?, List.getLast?_eq_none_iff]

/-- The last name gets the suffix, and nothing else changes. -/
theorem declaration?_of_names (hn : path.names = front ++ [last]) :
    path.declaration? = some ⟨path.root, front ++ [last ++ declarationSuffix]⟩ := by
  rw [declaration?, name?, hn, List.getLast?_concat, Option.map_some, List.dropLast_concat]

/-- The declaration stands beside the resource and adds a suffix to its name. -/
theorem exists_names_of_declaration? (hd : path.declaration? = some declaration) :
    ∃ front last, path.names = front ++ [last] ∧
      declaration = ⟨path.root, front ++ [last ++ declarationSuffix]⟩ := by
  rcases List.eq_nil_or_concat path.names with hnil | ⟨front, last, hn⟩
  · rw [declaration?_eq_none_iff.mpr hnil] at hd
    cases hd
  · rw [List.concat_eq_append] at hn
    rw [declaration?_of_names hn] at hd
    exact ⟨front, last, hn, (Option.some.inj hd).symm⟩

/-- A declaration is written as its resource with the suffix. -/
theorem text_declaration (hd : path.declaration? = some declaration) :
    declaration.text = path.text ++ declarationSuffix := by
  obtain ⟨front, last, hn, rfl⟩ := exists_names_of_declaration? hd
  rw [text_of_names rfl, text_of_names hn, Text.join_append_suffix, List.append_assoc]

/-- The suffix can be taken off again. -/
theorem declaration?_injective (hd : path.declaration? = some declaration)
    (ho : other.declaration? = some declaration) : path = other := by
  obtain ⟨front, last, hn, rfl⟩ := exists_names_of_declaration? hd
  obtain ⟨otherFront, otherLast, hother, he⟩ := exists_names_of_declaration? ho
  obtain ⟨hroot, hnames⟩ := Path.mk.inj he
  obtain ⟨hfront, hlast⟩ := List.append_inj' hnames rfl
  have hname := List.append_cancel_right (List.cons.inj hlast).1
  refine eq_of_parts hroot ?_
  rw [hn, hother, hfront, hname]

/-- Paths with a declaration in common, if they have one at all, are the same. -/
theorem declaration?_eq_iff (hn : path.names ≠ []) :
    path.declaration? = other.declaration? ↔ path = other := by
  refine ⟨fun he => ?_, congrArg declaration?⟩
  cases hd : path.declaration? with
  | none => exact absurd (declaration?_eq_none_iff.mp hd) hn
  | some declaration => exact declaration?_injective hd (he ▸ hd)

/-- A declaration has another last name than its resource. -/
theorem declaration_ne_resource (hd : path.declaration? = some declaration) :
    declaration ≠ path := by
  rintro rfl
  have hlength := congrArg List.length (text_declaration hd)
  rw [List.length_append, declarationSuffix_eq] at hlength
  simp at hlength

/-- No compiled module has the path of a declaration. -/
theorem declaration_ne_compiled (hd : path.declaration? = some declaration) (resource : Text) :
    declaration ≠ CommandLine.compiledPath none resource := by
  intro he
  obtain ⟨front, last, hnames⟩ := names_of_declaration? hd
  obtain ⟨otherFront, otherLast, hother⟩ := names_ofText_compiledSuffix resource
  have hsame : front ++ [last ++ declarationSuffix] =
      otherFront ++ [otherLast ++ compiledSuffix] := by
    rw [← hnames, he]
    exact hother
  have hlast := (List.append_inj' hsame rfl).2
  exact nameBytes_compiledSuffix_ne otherLast last
    (congrArg Utf8.nameBytes (List.cons.inj hlast).1.symm)

/-- Resources and declarations name each other. A resource has no declaration exactly if it has no
components. Otherwise the declaration has the resource's root and its components, the last one with
the suffix, so it is written as the resource's path with the suffix. Two resources with components
share their declaration exactly if they have one root and the same components. A declaration is
neither its own resource nor the compiled module that belongs to any resource. -/
theorem declaration_tells_resource :
    (∀ resource, (ofText resource).declaration? = none ↔ components resource = []) ∧
    (∀ resource front last, components resource = front ++ [last] →
      ∃ declaration, (ofText resource).declaration? = some declaration ∧
        declaration.root.text = leadingSlashes resource ∧
        declaration.names = front ++ [last ++ ".d.ts".toText] ∧
        declaration.text = (ofText resource).text ++ ".d.ts".toText ∧
        (ofText resource).text =
          leadingSlashes resource ++ Text.join ['/'] (components resource)) ∧
    (∀ first second, components first ≠ [] → components second ≠ [] →
      ((ofText first).declaration? = (ofText second).declaration? ↔
        leadingSlashes first = leadingSlashes second ∧ components first = components second)) ∧
    ∀ resource declaration, (ofText resource).declaration? = some declaration →
      declaration ≠ ofText resource ∧
        ∀ other, declaration ≠ CommandLine.compiledPath none other := by
  refine ⟨?_, ?_, ?_, ?_⟩
  · intro resource
    rw [declaration?_eq_none_iff, names_ofText]
  · intro resource front last hc
    have hn : (ofText resource).names = front ++ [last] := (names_ofText resource).trans hc
    have hd := declaration?_of_names hn
    refine ⟨_, hd, text_rootOf resource, rfl, text_declaration hd, ?_⟩
    rw [text_of_names hn, hc, ← text_rootOf]
    rfl
  · intro first second hf _
    rw [← names_ofText] at hf
    rw [declaration?_eq_iff hf, ofText_eq_iff]
  · intro resource declaration hd
    exact ⟨declaration_ne_resource hd, declaration_ne_compiled hd⟩

/-- Behind two slashes and behind one, with slashes in a row, a single dot and a double dot: the two
resources have the same components, and their roots tell their declarations apart. -/
theorem declaration_tells_resource_roots :
    let first := "//a/./..//b/".toText
    let second := "/a/..//b".toText
    components first = ["a".toText, "..".toText] ++ ["b".toText] ∧
      components second = components first ∧
      (∃ declaration, (ofText first).declaration? = some declaration ∧
        declaration.text = (ofText first).text ++ ".d.ts".toText ∧
        declaration ≠ ofText first ∧ ∀ other, declaration ≠ CommandLine.compiledPath none other) ∧
      (ofText first).declaration? ≠ (ofText second).declaration? := by
  intro first second
  have hfirst : components first = ["a".toText, "..".toText] ++ ["b".toText] := by decide
  have hsecond : components second = components first := by decide
  have hroots : leadingSlashes first ≠ leadingSlashes second := by decide
  have hne : components first ≠ [] := by decide
  obtain ⟨-, hnamed, hshared, hapart⟩ := declaration_tells_resource
  obtain ⟨declaration, hd, -, -, htext, -⟩ :=
    hnamed first ["a".toText, "..".toText] "b".toText hfirst
  obtain ⟨hself, hcompiled⟩ := hapart first declaration hd
  refine ⟨hfirst, hsecond, ⟨declaration, hd, htext, hself, hcompiled⟩, fun he => ?_⟩
  exact hroots ((hshared first second hne (hsecond ▸ hne)).mp he).1

end Path

end StyleTypings
