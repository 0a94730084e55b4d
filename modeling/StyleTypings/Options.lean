import StyleTypings.Text.Blank
import StyleTypings.Value.Display

/-!
# Options

What a host may choose: the mode, carried as the text that was given, and the kind of export
block. Any value can stand for a mode, through its written form; only a truth value or one of
six words can choose the export block.
-/

namespace StyleTypings

/-- What is done about a declaration. -/
inductive Mode where
  /-- Write it if it is missing or out of date. -/
  | emit
  /-- Fail if it is missing or out of date. -/
  | verify
  deriving DecidableEq, Repr

namespace Mode

/-- The word for a mode. -/
def text : Mode → Text
  | .emit => "emit".toText
  | .verify => "verify".toText

/-- The mode that a word stands for. -/
def ofText? (word : Text) : Option Mode :=
  if word = Mode.emit.text then some .emit
  else if word = Mode.verify.text then some .verify
  else none

end Mode

/-- The options of one reconciliation. -/
structure Options where
  /-- The mode as it was given; it need not name one. -/
  mode : Text := Mode.emit.text
  /-- Whether the module is replaced by its exports. -/
  namedExports : Bool := false
  deriving DecidableEq, Repr

namespace Options

/-- The truth value that a value stands for, if it stands for one. -/
def truth? : Value → Option Bool
  | .bool value => some value
  | .text value =>
    let word := (Text.lowerLatin (Text.strip value))
    if word = "true".toText ∨ word = "yes".toText ∨ word = "1".toText then some true
    else if word = "false".toText ∨ word = "no".toText ∨ word = "0".toText then some false
    else none
  | _ => none

/-- The key of the mode in a mapping. -/
def modeKey : Value := .text "mode".toText

/-- The key of the export choice in a mapping. -/
def namedExportsKey : Value := .text "namedExports".toText

/-- The key of the export choice that counts where the other one is absent. -/
def namedExportsOldKey : Value := .text "named_exports".toText

/-- The mode that a mapping chooses. -/
def modeOf (entries : List (Value × Value)) : Text :=
  match modeKey.lookup? entries with
  | none => Mode.emit.text
  | some .null => Mode.emit.text
  | some value => value.display

/-- Whether the mode that a mapping chooses can be written out. -/
def modeWritable (entries : List (Value × Value)) : Bool :=
  (modeKey.lookup? entries).all Value.writable

/-- The export choice that a mapping makes. A value that stands for no truth value counts as
false. -/
def namedExportsOf (entries : List (Value × Value)) : Bool :=
  match namedExportsKey.lookup? entries <|> namedExportsOldKey.lookup? entries with
  | none => false
  | some value => (truth? value).getD false

/-- The options that a mapping chooses. -/
def ofEntries (entries : List (Value × Value)) : Options := ⟨modeOf entries, namedExportsOf entries⟩

end Options

/-- What a host hands over to choose the options by. -/
inductive HostOptions where
  /-- Nothing. -/
  | absent
  /-- Options that are made already. -/
  | made (options : Options)
  /-- Keys with values of any kind. -/
  | mapping (entries : List (Value × Value))
  deriving Repr

/-- The options that a host chooses. The mode in a mapping has to be one that can be written out. -/
def HostOptions.options : HostOptions → Except ScalarFault Options
  | .absent => .ok {}
  | .made options => .ok options
  | .mapping entries =>
    if Options.modeWritable entries then .ok (Options.ofEntries entries) else .error .notWritable

end StyleTypings
