import StyleTypings.Text.Basic

/-!
# Paths

A path is a root and a list of names. Reading a path drops empty parts and parts that are a
single dot, and keeps double dots; exactly two leading slashes are a root of their own, and
three or more are the same as one. The declaration of a resource lies beside it under the same
name with a suffix, so it keeps the root and all names but the last.
-/

namespace StyleTypings

/-- Where a path starts. -/
inductive Root where
  /-- In the working directory. -/
  | working
  /-- At the top, written with one slash. -/
  | top
  /-- At the top, written with two slashes. -/
  | doubled
  deriving DecidableEq, Repr

/-- The slashes that stand for a root. -/
def Root.text : Root → Text
  | .working => []
  | .top => ['/']
  | .doubled => ['/', '/']

/-- A path without empty parts and single dots. -/
structure Path where
  /-- Where it starts. -/
  root : Root
  /-- The names to be followed from there. -/
  names : List Text
  deriving DecidableEq, Repr

namespace Path

/-- The root that the leading slashes of a text stand for. -/
def rootOf : Text → Root
  | '/' :: '/' :: '/' :: _ => .top
  | '/' :: '/' :: _ => .doubled
  | '/' :: _ => .top
  | _ => .working

/-- Whether a part between slashes is a name to be followed. -/
def isName (part : Text) : Bool := part != [] && part != ['.']

/-- The path that a text stands for. -/
def ofText (text : Text) : Path := ⟨rootOf text, (Text.splitAtChar '/' text).filter isName⟩

/-- The path written out; a path with neither root nor names is a single dot. -/
def text (path : Path) : Text :=
  match path.root, path.names with
  | .working, [] => ['.']
  | root, names => root.text ++ Text.join ['/'] names

/-- The last name of a path, if it has one. -/
def name? (path : Path) : Option Text := path.names.getLast?

/-- What is appended to a resource's name to name its declaration. -/
def declarationSuffix : Text := ".d.ts".toText

/-- What is appended to a resource's name to name its compiled module. -/
def compiledSuffix : Text := ".js".toText

/-- The path of a resource's declaration, if the resource has a name. -/
def declaration? (resource : Path) : Option Path :=
  resource.name?.map fun name =>
    { resource with names := resource.names.dropLast ++ [name ++ declarationSuffix] }

/-- The last name of a path, or nothing if it has none. -/
def name (path : Path) : Text := path.name?.getD []

end Path

end StyleTypings
