import StyleTypings.Yaml.Cursor

/-!
# Cutting YAML text into tokens

Outside brackets, indentation opens and closes collections: a column deeper than the current
one opens a collection, and a shallower one closes collections until it fits. A word becomes a
key only when the colon behind it is met, so a place where a key may have begun is remembered
until then; it is forgotten at the end of its line and after 1024 characters. A place where
nothing but a key can stand must not be forgotten.
-/

namespace StyleTypings.Yaml

/-- A place where a key may have begun. -/
structure KeyPlace where
  /-- How many tokens stand before. -/
  token : Nat
  /-- Whether nothing but a key can stand here. -/
  required : Bool
  /-- How many characters stand before. -/
  index : Nat
  /-- How many lines stand before. -/
  line : Nat
  /-- The column. -/
  column : Nat
  deriving Repr

/-- The state between two tokens. -/
structure Lexer where
  /-- The characters that are left. -/
  cursor : Cursor
  /-- How many brackets are open. -/
  flow : Nat := 0
  /-- The column of the innermost indented collection; -1 outside of all. -/
  indent : Int := -1
  /-- The columns of the collections around it, the nearest first. -/
  outer : List Int := []
  /-- The places of possible keys, by the number of brackets open there. -/
  places : List (Nat × KeyPlace) := []
  /-- Whether a key may begin at the next token. -/
  keyAllowed : Bool := true
  /-- The tokens so far. -/
  tokens : Array Token := #[]
  /-- Whether the end was reached. -/
  finished : Bool := false

/-- A computation that cuts tokens and may fail. -/
abbrev LexerM := StateT Lexer (Except Fault)

namespace LexerM

/-- Fails because the text breaks a rule. -/
def fail {α : Type} : LexerM α := throw .malformed

/-- Reads a piece of text at the cursor. -/
def read {α : Type} (reader : Reader α) : LexerM α := do
  let (result, cursor) ← reader.run (← get).cursor
  modify ({ · with cursor })
  return result

/-- Adds a token. -/
def push (token : Token) : LexerM Unit :=
  modify fun lexer => { lexer with tokens := lexer.tokens.push token }

/-- Sets whether a key may begin at the next token. -/
def allowKey (allowed : Bool) : LexerM Unit := modify ({ · with keyAllowed := allowed })

/-- Forgets the places of keys that can be keys no longer. -/
def forgetStale : LexerM Unit := do
  let lexer ← get
  let stale := fun (place : KeyPlace) =>
    place.line != lexer.cursor.line || place.index + 1024 < lexer.cursor.index
  if lexer.places.any fun entry => stale entry.2 && entry.2.required then fail
  modify fun lexer => { lexer with places := lexer.places.filter fun entry => !stale entry.2 }

/-- Forgets the place of a key within the innermost brackets. -/
def forgetPlace : LexerM Unit := do
  let lexer ← get
  match lexer.places.lookup lexer.flow with
  | none => return
  | some place =>
    if place.required then fail
    modify fun lexer =>
      { lexer with places := lexer.places.filter fun entry => entry.1 != lexer.flow }

/-- Remembers that a key may begin here. -/
def rememberPlace : LexerM Unit := do
  let lexer ← get
  if lexer.keyAllowed then
    forgetPlace
    let required := lexer.flow == 0 && lexer.indent == (lexer.cursor.column : Int)
    let place : KeyPlace := ⟨lexer.tokens.size, required, lexer.cursor.index, lexer.cursor.line,
      lexer.cursor.column⟩
    modify fun lexer => { lexer with places := (lexer.flow, place) :: lexer.places }

/-- The collections left when all deeper than a column are closed: the column of the innermost,
those around it, and how many were closed. -/
def unwound (column : Int) : Int → List Int → Int × List Int × Nat
  | indent, [] => (indent, [], 0)
  | indent, next :: outer =>
    if column < indent then
      let (indent, outer, closed) := unwound column next outer
      (indent, outer, closed + 1)
    else (indent, next :: outer, 0)

/-- Closes the collections that are deeper than a column. -/
def unwind (column : Int) : LexerM Unit := do
  let lexer ← get
  if lexer.flow == 0 then
    let (indent, outer, closed) := unwound column lexer.indent lexer.outer
    let ends := Array.replicate closed Token.blockEnd
    set { lexer with indent, outer, tokens := lexer.tokens ++ ends }

/-- Opens a collection at a column if that is deeper than the current one. -/
def indentTo (column : Nat) : LexerM Bool := do
  let lexer ← get
  if lexer.indent < column then
    set { lexer with indent := column, outer := lexer.indent :: lexer.outer }
    return true
  else return false

/-- The column here. -/
def column : LexerM Nat := return (← get).cursor.column

/-- Whether brackets are open. -/
def inFlow : LexerM Bool := return (← get).flow != 0

/-- Cuts the end of the text. -/
def endOfText : LexerM Unit := do
  unwind (-1)
  forgetPlace
  push .streamEnd
  modify ({ · with finished := true })

/-- Closes everything before a piece that belongs to no document. -/
def leaveDocument : LexerM Unit := do
  unwind (-1)
  forgetPlace
  allowKey false

/-- Cuts a mark between documents. -/
def separator (token : Token) : LexerM Unit := do
  leaveDocument
  read (Reader.skip 3)
  push token

/-- Cuts an opening bracket. -/
def flowStart (token : Token) : LexerM Unit := do
  rememberPlace
  allowKey true
  modify fun lexer => { lexer with flow := lexer.flow + 1 }
  read (Reader.skip 1)
  push token

/-- Cuts a closing bracket. -/
def flowEnd (token : Token) : LexerM Unit := do
  forgetPlace
  allowKey false
  modify fun lexer => { lexer with flow := lexer.flow - 1 }
  read (Reader.skip 1)
  push token

/-- Cuts a comma between members in brackets. -/
def flowEntry : LexerM Unit := do
  allowKey true
  forgetPlace
  read (Reader.skip 1)
  push .flowEntry

/-- Opens a collection here if need be, where outside brackets a new entry may begin. -/
def openBlock (token : Token) : LexerM Unit := do
  if !(← inFlow) then
    if !(← get).keyAllowed then fail
    if ← indentTo (← column) then push token

/-- Cuts the hyphen before a member of an indented sequence. -/
def blockEntry : LexerM Unit := do
  openBlock .blockSequenceStart
  allowKey true
  forgetPlace
  read (Reader.skip 1)
  push .blockEntry

/-- Cuts a question mark before a key. -/
def key : LexerM Unit := do
  openBlock .blockMappingStart
  allowKey (!(← inFlow))
  forgetPlace
  read (Reader.skip 1)
  push .key

/-- Puts tokens in front of the one at a place. -/
def insert (place : Nat) (tokens : Array Token) : LexerM Unit :=
  modify fun lexer =>
    { lexer with
      tokens := lexer.tokens.extract 0 place ++ tokens ++
        lexer.tokens.extract place lexer.tokens.size }

/-- Cuts a colon before a value. If a key may have begun on this line, it did. -/
def value : LexerM Unit := do
  let lexer ← get
  match lexer.places.lookup lexer.flow with
  | some place =>
    set { lexer with places := lexer.places.filter fun entry => entry.1 != lexer.flow }
    let opened ← if ← inFlow then pure false else indentTo place.column
    insert place.token (if opened then #[.blockMappingStart, .key] else #[.key])
    allowKey false
  | none =>
    openBlock .blockMappingStart
    allowKey (!(← inFlow))
    forgetPlace
  read (Reader.skip 1)
  push .value

/-- Cuts a piece that may be a key or stand before one. -/
def keyPiece (reader : Reader Token) : LexerM Unit := do
  rememberPlace
  allowKey false
  push (← read reader)

/-- Cuts indented text. -/
def block (folded : Bool) : LexerM Unit := do
  allowKey true
  forgetPlace
  push (← read (Reader.block folded (← get).indent))

/-- Cuts bare text. -/
def plain : LexerM Unit := do
  rememberPlace
  allowKey false
  let lexer ← get
  let reader := do
    Reader.plainFrom (lexer.flow != 0) (lexer.indent + 1) (← Reader.bound) [] false
  let (text, ended) ← read reader
  allowKey ended
  push (.scalar text true)

/-- Whether bare text starts with a character, given the one behind it. -/
def startsPlain (inFlow : Bool) (c next : CodePoint) : Bool :=
  !(isGap c || isOneOf "-?:,[]\x7b\x7d#&*!|>\x27\"%@\x60" c) ||
  (!isGap next && (c == '-' || (!inFlow && (c == '?' || c == ':'))))

/-- Cuts one token, with the tokens that indentation puts before it. -/
def one : LexerM Unit := do
  let ended ← read Reader.toNextToken
  if ended && !(← inFlow) then allowKey true
  forgetStale
  unwind (← column)
  let cursor := (← get).cursor
  let flow ← inFlow
  let c := cursor.peek
  let next := cursor.peekAt 1
  let atStart := cursor.column == 0
  if c == endMark then endOfText
  else if c == '%' && atStart then
    leaveDocument
    push (← read Reader.directive)
  else if c == '-' && atStart && cursor.atSeparator then separator .documentStart
  else if c == '.' && atStart && cursor.atSeparator then separator .documentEnd
  else if c == '[' then flowStart .flowSequenceStart
  else if c == '\x7b' then flowStart .flowMappingStart
  else if c == ']' then flowEnd .flowSequenceEnd
  else if c == '\x7d' then flowEnd .flowMappingEnd
  else if c == ',' then flowEntry
  else if c == '-' && isGap next then blockEntry
  else if c == '?' && (flow || isGap next) then key
  else if c == ':' && (flow || isGap next) then value
  else if c == '*' then keyPiece (Token.alias <$> Reader.nodeName)
  else if c == '&' then keyPiece (Token.anchor <$> Reader.nodeName)
  else if c == '!' then keyPiece Reader.tag
  else if c == '|' && !flow then block false
  else if c == '>' && !flow then block true
  else if c == '\x27' then keyPiece (Reader.quoted false)
  else if c == '"' then keyPiece (Reader.quoted true)
  else if startsPlain flow c next then plain
  else fail

end LexerM

namespace Tokens

/-- Cuts tokens until the end or the first fault. -/
def collect : Nat → Lexer → Tokens
  | 0, lexer => ⟨lexer.tokens.toList, some .malformed⟩
  | fuel + 1, lexer =>
    if lexer.finished then ⟨lexer.tokens.toList, none⟩
    else match LexerM.one.run lexer with
      | .ok (_, lexer) => collect fuel lexer
      | .error fault => ⟨lexer.tokens.toList, some fault⟩

/-- The tokens of a text. Each takes a character at least, but for the last. -/
def ofText (text : Text) : Tokens :=
  let start : Lexer := { cursor := { rest := text } }
  if text.all isAllowed then collect (text.length + 2) start else ⟨[], some .malformed⟩

end Tokens

end StyleTypings.Yaml
