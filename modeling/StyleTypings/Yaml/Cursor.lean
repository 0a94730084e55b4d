import StyleTypings.Yaml.Token

/-!
# Reading YAML text

The characters of YAML, and the operations that read a piece of text at a cursor: blanks and
comments, names, tags, quoted text and indented text. Each reads from the cursor and leaves it
behind the piece. Loops are bounded by the number of characters that are left.
-/

namespace StyleTypings.Yaml

/-- Whether a character may occur in YAML text. -/
def isAllowed (c : CodePoint) : Bool :=
  let n := c.toNat
  n == 0x09 || n == 0x0A || n == 0x0D || (0x20 ≤ n && n ≤ 0x7E) || n == 0x85 ||
  (0xA0 ≤ n && n ≤ 0xD7FF) || (0xE000 ≤ n && n ≤ 0xFFFD) || 0x10000 ≤ n

/-- Whether a character ends a line. -/
def isBreak (c : CodePoint) : Bool :=
  c == '\n' || c == '\r' || c == '\x85' || c == '\u2028' || c == '\u2029'

/-- The character that stands for the end of the text; it cannot occur within. -/
def endMark : CodePoint := '\x00'

/-- Whether the text or the line ends here. -/
def isEnd (c : CodePoint) : Bool := c == endMark || isBreak c

/-- Whether a word ends here. -/
def isGap (c : CodePoint) : Bool := c == ' ' || c == '\t' || isEnd c

/-- Whether a word ends here, tabs not counted. -/
def isGapNoTab (c : CodePoint) : Bool := c == ' ' || isEnd c

/-- Whether a character may stand in a name. -/
def isNameChar (c : CodePoint) : Bool := c.isAlphanum || c == '-' || c == '_'

/-- Whether a character is one of those listed. -/
def isOneOf (chars : String) (c : CodePoint) : Bool := chars.toText.contains c

/-- Whether a character may stand in a tag. -/
def isTagChar (c : CodePoint) : Bool := c.isAlphanum || isOneOf "-;/?:@&=+$,_.!~*\x27()[]%" c

/-- A place in YAML text. -/
structure Cursor where
  /-- The characters from here on. -/
  rest : Text
  /-- How many characters stand before. -/
  index : Nat := 0
  /-- How many lines stand before. -/
  line : Nat := 0
  /-- How many characters of the line stand before. -/
  column : Nat := 0
  deriving Repr

/-- A computation that moves a cursor and may fail. -/
abbrev Reader := StateT Cursor (Except Fault)

namespace Cursor

/-- The character `offset` places ahead. -/
def peekAt (cursor : Cursor) (offset : Nat) : CodePoint := cursor.rest.getD offset endMark

/-- The character here. -/
def peek (cursor : Cursor) : CodePoint := cursor.rest.headD endMark

/-- The cursor one character further. -/
def advance (cursor : Cursor) : Cursor :=
  match cursor.rest with
  | [] => cursor
  | c :: rest =>
    if isBreak c && !(c == '\r' && rest.headD endMark == '\n') then
      ⟨rest, cursor.index + 1, cursor.line + 1, 0⟩
    else if c == '\uFEFF' then ⟨rest, cursor.index + 1, cursor.line, cursor.column⟩
    else ⟨rest, cursor.index + 1, cursor.line, cursor.column + 1⟩

/-- The cursor so many characters further. -/
def forward (cursor : Cursor) : Nat → Cursor
  | 0 => cursor
  | count + 1 => cursor.advance.forward count

/-- Whether a mark of three characters that separates documents stands here. -/
def atSeparator (cursor : Cursor) : Bool :=
  let mark := cursor.rest.take 3
  (mark == ['-', '-', '-'] || mark == ['.', '.', '.']) && isGap (cursor.peekAt 3)

end Cursor

namespace Reader

/-- Fails because the text breaks a rule. -/
def fail {α : Type} : Reader α := throw .malformed

/-- The character here. -/
def peek : Reader CodePoint := return (← get).peek

/-- The character `offset` places ahead. -/
def peekAt (offset : Nat) : Reader CodePoint := return (← get).peekAt offset

/-- Moves on by so many characters. -/
def skip (count : Nat) : Reader Unit := modify (·.forward count)

/-- Reads characters as long as they satisfy `p`. -/
def takeWhile (p : CodePoint → Bool) : Reader Text := do
  let taken := (← get).rest.takeWhile p
  skip taken.length
  return taken

/-- Moves on over spaces. -/
def skipSpaces : Reader Unit := do let _ ← takeWhile (· == ' ')

/-- Moves on over a comment, if one starts here. -/
def skipComment : Reader Unit := do
  if (← peek) == '#' then let _ ← takeWhile (!isEnd ·)

/-- Reads a line end. Most kinds count as a line feed; the result is empty where no line ends. -/
def lineBreak : Reader Text := do
  let c ← peek
  if c == '\r' && (← peekAt 1) == '\n' then skip 2; return ['\n']
  else if c == '\r' || c == '\n' || c == '\x85' then skip 1; return ['\n']
  else if c == '\u2028' || c == '\u2029' then skip 1; return [c]
  else return []

/-- Moves on over the rest of a line that may hold nothing but a comment. -/
def emptyRest : Reader Unit := do
  skipSpaces
  skipComment
  if !isEnd (← peek) then fail
  let _ ← lineBreak

/-- How many characters are left, which bounds every loop. -/
def bound : Reader Nat := return (← get).rest.length + 1

/-- Moves on over blanks, comments and line ends. The result tells whether a line ended. -/
def blanks : Nat → Reader Bool
  | 0 => return false
  | fuel + 1 => do
    skipSpaces
    skipComment
    if (← lineBreak).isEmpty then return false
    else let _ ← blanks fuel; return true

/-- Moves on to the next token. The result tells whether a line ended. -/
def toNextToken : Reader Bool := do
  let cursor ← get
  if cursor.index == 0 && cursor.peek == '\uFEFF' then skip 1
  blanks (← bound)

/-! ### Directives -/

/-- Reads a number of a version. -/
def versionNumber : Reader Nat := do
  let digits ← takeWhile CodePoint.isDigit
  if digits.isEmpty then fail
  return digits.foldl (fun n d => n * 10 + (d.toNat - 48)) 0

/-- Reads a version behind its directive's name. -/
def version : Reader Token := do
  skipSpaces
  let major ← versionNumber
  if (← peek) != '.' then fail
  skip 1
  let minor ← versionNumber
  if !isGapNoTab (← peek) then fail
  return .version major minor

/-- Reads the first part of a tag, with exclamation marks around it. -/
def tagHandle : Reader Text := do
  if (← peek) != '!' then fail
  skip 1
  if (← peek) == ' ' then return ['!']
  let name ← takeWhile isNameChar
  if (← peek) != '!' then fail
  skip 1
  return .char '!' :: name ++ ['!']

/-- Reads bytes written as percent signs with two hexadecimal digits. -/
def percentBytes : Nat → Reader Bytes
  | 0 => return []
  | fuel + 1 => do
    if (← peek) != '%' then return []
    match Literal.hexValue? (← peekAt 1), Literal.hexValue? (← peekAt 2) with
    | some a, some b =>
      skip 3
      return UInt8.ofNat (a * 16 + b) :: (← percentBytes fuel)
    | _, _ => fail

/-- Reads the pieces of a tag. -/
def tagPieces : Nat → Reader Text
  | 0 => return []
  | fuel + 1 => do
    let piece ← takeWhile fun c => isTagChar c && c != '%'
    if (← peek) == '%' then
      match Utf8.decode (← percentBytes (← bound)) with
      | .ok text => return piece ++ text ++ (← tagPieces fuel)
      | .error _ => fail
    else return piece

/-- Reads the second part of a tag, which is not empty. -/
def tagRest : Reader Text := do
  if !isTagChar (← peek) then fail
  tagPieces (← bound)

/-- Reads a shorthand behind its directive's name. -/
def tagShorthand : Reader Token := do
  skipSpaces
  let handle ← tagHandle
  if (← peek) != ' ' then fail
  skipSpaces
  let start ← tagRest
  if !isGapNoTab (← peek) then fail
  return .tagShorthand handle start

/-- Reads a directive. -/
def directive : Reader Token := do
  skip 1
  let name ← takeWhile isNameChar
  if name.isEmpty then fail
  if !isGapNoTab (← peek) then fail
  let token ←
    if name == "YAML".toText then version
    else if name == "TAG".toText then tagShorthand
    else do
      let _ ← takeWhile (!isEnd ·)
      pure .otherDirective
  emptyRest
  return token

/-! ### Names and tags -/

/-- Reads the name of an anchor or an alias behind its mark. -/
def nodeName : Reader Text := do
  skip 1
  let name ← takeWhile isNameChar
  if name.isEmpty then fail
  let c ← peek
  if !(isGap c || isOneOf "?:,]\x7d%@\x60" c) then fail
  return name

/-- Reads a tag. -/
def tag : Reader Token := do
  let c ← peekAt 1
  let token ←
    if c == '<' then do
      skip 2
      let rest ← tagRest
      if (← peek) != '>' then fail
      skip 1
      pure (Token.tag none rest)
    else if isGap c then do
      skip 1
      pure (Token.tag none ['!'])
    else do
      let word := ((← get).rest.drop 1).takeWhile (!isGapNoTab ·)
      if word.contains '!' then
        let handle ← tagHandle
        pure (Token.tag (some handle) (← tagRest))
      else
        skip 1
        pure (Token.tag (some ['!']) (← tagRest))
  if !isGapNoTab (← peek) then fail
  return token

/-! ### Quoted text -/

/-- The character that a letter after a backslash stands for. -/
def shortEscape? : CodePoint → Option CodePoint
  | '0' => some '\x00'
  | 'a' => some '\x07'
  | 'b' => some '\x08'
  | 't' => some '\t'
  | '\t' => some '\t'
  | 'n' => some '\n'
  | 'v' => some '\x0B'
  | 'f' => some '\x0C'
  | 'r' => some '\r'
  | 'e' => some '\x1B'
  | ' ' => some ' '
  | '"' => some '"'
  | '\\' => some '\\'
  | '/' => some '/'
  | 'N' => some '\x85'
  | '_' => some '\xA0'
  | 'L' => some '\u2028'
  | 'P' => some '\u2029'
  | _ => none

/-- How many hexadecimal digits follow a letter after a backslash. -/
def codeLength? : CodePoint → Option Nat
  | 'x' => some 2
  | 'u' => some 4
  | 'U' => some 8
  | _ => none

/-- The code point of a code. -/
def charOfCode (code : Nat) : Reader CodePoint :=
  if 0x7FFFFFFF < code then throw (.scalar .codeTooLarge)
  else if 0x10FFFF < code then throw (.scalar .noSuchCharacter)
  else return CodePoint.ofNat code

/-- Reads the line ends inside quoted text, with the blanks around them. -/
def quotedBreaks : Nat → Reader Text
  | 0 => return []
  | fuel + 1 => do
    if (← get).atSeparator then fail
    let _ ← takeWhile fun c => c == ' ' || c == '\t'
    if isBreak (← peek) then return (← lineBreak) ++ (← quotedBreaks fuel)
    else return []

/-- Reads quoted text up to a blank, a line end or the closing quote. -/
def quotedWord (double : Bool) : Nat → Reader Text
  | 0 => return []
  | fuel + 1 => do
    let run ← takeWhile fun c => !(isGap c || c == '\x27' || c == '"' || c == '\\')
    let c ← peek
    if !double && c == '\x27' && (← peekAt 1) == '\x27' then
      skip 2
      return run ++ .char '\x27' :: (← quotedWord double fuel)
    else if (double && c == '\x27') || (!double && (c == '"' || c == '\\')) then
      skip 1
      return run ++ c :: (← quotedWord double fuel)
    else if double && c == '\\' then
      skip 1
      let e ← peek
      match shortEscape? e, codeLength? e with
      | some c, _ =>
        skip 1
        return run ++ c :: (← quotedWord double fuel)
      | none, some length =>
        skip 1
        match ((← get).rest.take length).mapM Literal.hexValue? with
        | none => fail
        | some digits =>
          if digits.length < length then fail
          let c ← charOfCode (digits.foldl (fun n d => n * 16 + d) 0)
          skip length
          return run ++ c :: (← quotedWord double fuel)
      | none, none =>
        if !isBreak e then fail
        let _ ← lineBreak
        let breaks ← quotedBreaks (← bound)
        return run ++ breaks ++ (← quotedWord double fuel)
    else return run

/-- Reads blanks and line ends inside quoted text. A single line end counts as a space. -/
def quotedGap : Reader Text := do
  let blanks ← takeWhile fun c => c == ' ' || c == '\t'
  let c ← peek
  if c == endMark then fail
  else if isBreak c then
    let lineBreak ← lineBreak
    let breaks ← quotedBreaks (← bound)
    if lineBreak != ['\n'] then return lineBreak ++ breaks
    else if breaks.isEmpty then return [' ']
    else return breaks
  else return blanks

/-- Reads words and gaps up to the closing quote. -/
def quotedRest (double : Bool) (quote : CodePoint) : Nat → Reader Text
  | 0 => fail
  | fuel + 1 => do
    if (← peek) == quote then return []
    let gap ← quotedGap
    let word ← quotedWord double (← bound)
    return gap ++ word ++ (← quotedRest double quote fuel)

/-- Reads quoted text. -/
def quoted (double : Bool) : Reader Token := do
  let quote ← peek
  skip 1
  let word ← quotedWord double (← bound)
  let rest ← quotedRest double quote (← bound)
  skip 1
  return .scalar (word ++ rest) false

/-! ### Indented text -/

/-- How the line ends at the end of indented text are treated. -/
inductive Chomping where
  /-- All are dropped. -/
  | strip
  /-- One is kept. -/
  | clip
  /-- All are kept. -/
  | keep
  deriving DecidableEq, Repr

/-- Reads the mark of a treatment of line ends, if there is one. -/
def chomping? : Reader (Option Chomping) := do
  let c ← peek
  if c == '+' then skip 1; return some .keep
  else if c == '-' then skip 1; return some .strip
  else return none

/-- Reads the mark of an indentation, if there is one. -/
def indentation? : Reader (Option Nat) := do
  let c ← peek
  if c == '0' then fail
  else if c.isDigit then skip 1; return some (c.toNat - 48)
  else return none

/-- Reads the marks of indented text, which may come in either order. -/
def blockMarks : Reader (Chomping × Option Nat) := do
  let marks ← match ← chomping? with
    | some chomping => pure (chomping, ← indentation?)
    | none => do
      match ← indentation? with
      | none => pure (.clip, none)
      | some indentation => pure ((← chomping?).getD .clip, some indentation)
  if !isGapNoTab (← peek) then fail
  return marks

/-- Moves on over spaces as long as the column is less than `indent`. -/
def skipIndent (indent : Nat) : Reader Unit := do
  let cursor ← get
  let spaces := (cursor.rest.takeWhile fun c => c == .char ' ').length
  skip (min spaces (indent - cursor.column))

/-- Reads the line ends before the first line of indented text, and finds the greatest column
that spaces reach there. -/
def leadingBreaks : Nat → Nat → Reader (List Text × Nat)
  | 0, deepest => return ([], deepest)
  | fuel + 1, deepest => do
    let spaces ← takeWhile (· == ' ')
    let cursor ← get
    let deepest := if spaces.isEmpty then deepest else max deepest cursor.column
    if isBreak (← peek) then
      let first ← lineBreak
      let (breaks, deepest) ← leadingBreaks fuel deepest
      return (first :: breaks, deepest)
    else return ([], deepest)

/-- Reads the line ends between lines of indented text. -/
def blockBreaks (indent : Nat) : Nat → Reader (List Text)
  | 0 => return []
  | fuel + 1 => do
    skipIndent indent
    if isBreak (← peek) then
      let first ← lineBreak
      return first :: (← blockBreaks indent fuel)
    else return []

/-- Whether a line of indented text starts here. -/
def atBlockLine (indent : Nat) : Reader Bool := do
  let cursor ← get
  return cursor.column == indent && cursor.peek != endMark

/-- Reads the lines of indented text. `breaks` are the line ends before the next line. The
result is the text with the line end behind its last line and the line ends that follow. -/
def blockLines (folded : Bool) (indent : Nat) :
    Nat → List Text → Reader (Text × Text × List Text)
  | 0, breaks => return ([], [], breaks)
  | fuel + 1, breaks => do
    let indented := fun (c : CodePoint) => c == ' ' || c == '\t'
    let flush := !indented (← peek)
    let line ← takeWhile (!isEnd ·)
    let lineBreak ← lineBreak
    let next ← blockBreaks indent (← bound)
    let front := breaks.flatten ++ line
    if ← atBlockLine indent then
      let fold := folded && lineBreak == ['\n'] && flush && !indented (← peek)
      let joint : Text := if fold then (if next.isEmpty then [' '] else []) else lineBreak
      let (text, last, tail) ← blockLines folded indent fuel next
      return (front ++ joint ++ text, last, tail)
    else return (front, lineBreak, next)

/-- Reads indented text below a collection of the given indentation. -/
def block (folded : Bool) (parent : Int) : Reader Token := do
  skip 1
  let (chomping, increment) ← blockMarks
  emptyRest
  let least := max (parent + 1) 1
  let (indent, breaks) ← match increment with
    | none => do
      let (breaks, deepest) ← leadingBreaks (← bound) 0
      pure ((max least deepest).toNat, breaks)
    | some increment => do
      let indent := (least + increment - 1).toNat
      pure (indent, ← blockBreaks indent (← bound))
  let (text, last, tail) ←
    if ← atBlockLine indent then blockLines folded indent (← bound) breaks
    else pure ([], [], breaks)
  let ending := match chomping with
    | .strip => []
    | .clip => last
    | .keep => last ++ tail.flatten
  return .scalar (text ++ ending) false

/-! ### Bare text -/

/-- Whether bare text ends at a character, given the one behind it. -/
def endsPlain (inFlow : Bool) (c next : CodePoint) : Bool :=
  isGap c || (c == ':' && (isGap next || (inFlow && isOneOf ",[]\x7b\x7d" next))) ||
  (inFlow && isOneOf ",?[]\x7b\x7d" c)

/-- The bare word at the beginning of a text. -/
def plainWord (inFlow : Bool) : Text → Text
  | [] => []
  | c :: rest =>
    if endsPlain inFlow c (rest.headD endMark) then [] else c :: plainWord inFlow rest

/-- What stands between two words of bare text. -/
inductive PlainGap where
  /-- Nothing that bare text can go on behind. -/
  | none
  /-- A mark between documents. -/
  | separator
  /-- Blanks or line ends, as the text that they stand for. -/
  | text (gap : Text)
  deriving DecidableEq, Repr

/-- Reads the line ends between words of bare text, with the spaces around them. The result is
absent at a mark between documents. -/
def plainBreaks : Nat → Reader (Option Text)
  | 0 => return some []
  | fuel + 1 => do
    skipSpaces
    if isBreak (← peek) then
      let first ← lineBreak
      if (← get).atSeparator then return none
      return (← plainBreaks fuel).map (first ++ ·)
    else return some []

/-- Reads the gap behind a word of bare text. The flag tells whether a line ended. -/
def plainGap : Reader (PlainGap × Bool) := do
  let spaces ← takeWhile (· == ' ')
  if isBreak (← peek) then
    let first ← lineBreak
    if (← get).atSeparator then return (.separator, true)
    match ← plainBreaks (← bound) with
    | none => return (.separator, true)
    | some breaks =>
      let gap := if first != ['\n'] then first ++ breaks
        else if breaks.isEmpty then [' '] else breaks
      return (.text gap, true)
  else if spaces.isEmpty then return (.none, false)
  else return (.text spaces, false)

/-- Reads bare text behind a gap. The result is the text and whether the last gap held a line
end. -/
def plainFrom (inFlow : Bool) (indent : Int) : Nat → Text → Bool → Reader (Text × Bool)
  | 0, _, ended => return ([], ended)
  | fuel + 1, gap, ended => do
    if (← peek) == '#' then return ([], ended)
    let word := plainWord inFlow (← get).rest
    if word.isEmpty then return ([], ended)
    skip word.length
    let (next, ended) ← plainGap
    let front := gap ++ word
    match next with
    | .none | .separator => return (front, ended)
    | .text next =>
      let cursor ← get
      if cursor.peek == '#' || (!inFlow && (cursor.column : Int) < indent) then
        return (front, ended)
      let (rest, ended) ← plainFrom inFlow indent fuel next ended
      return (front ++ rest, ended)

end Reader

end StyleTypings.Yaml
