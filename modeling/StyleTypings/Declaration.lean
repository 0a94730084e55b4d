import StyleTypings.Text.Basic

/-!
# Declaration documents

The document that declares the keys of a style module: a banner, an interface with one string
field for each key in ascending order, and an export block of one of two kinds. Keys are put
in as they are; a quote inside a key is not escaped.
-/

namespace StyleTypings.Declaration

/-- The two comment lines at the top. -/
def banner : Text :=
  "// This file is automatically generated.\n// Please do not change this file!".toText

/-- The closing lines of a module with a default export. -/
def defaultExport : Text :=
  "export const cssExports: CssExports;\nexport default cssExports;\n".toText

/-- The closing lines of a module that is replaced by its exports. -/
def namedExport : Text := "export const cssExports: CssExports;\nexport = cssExports;\n".toText

/-- The field of one key. -/
def field (key : Text) : Text := "  '".toText ++ key ++ "': string;".toText

/-- The keys in ascending order of their code points, repetitions kept. -/
def sortKeys (keys : List Text) : List Text := keys.mergeSort fun a b => !decide (b < a)

/-- The interface with one field for each key. -/
def renderInterface (keys : List Text) : Text :=
  "interface CssExports \x7b\n".toText ++
    Text.join ['\n'] ((sortKeys keys).map field) ++ "\n\x7d".toText

/-- The export block of either kind. -/
def exportBlock (namedExports : Bool) : Text :=
  if namedExports then namedExport else defaultExport

/-- The whole document. -/
def render (keys : List Text) (namedExports : Bool) : Text :=
  banner ++ .char '\n' :: renderInterface keys ++ .char '\n' :: exportBlock namedExports

end StyleTypings.Declaration
