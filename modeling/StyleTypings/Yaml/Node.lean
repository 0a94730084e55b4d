import StyleTypings.Yaml.Lexer
import StyleTypings.Yaml.Scalar

/-!
# Nodes of YAML

A document is a graph of nodes, because an alias can stand for a node that lies elsewhere, or
for one that it lies in itself. Nodes are numbered in the order in which they begin, and refer
to each other by number. A text may hold one document at most.
-/

namespace StyleTypings.Yaml

/-- What a node holds. -/
inductive Content where
  /-- A text. -/
  | scalar (text : Text)
  /-- Nodes in order. -/
  | sequence (items : List Nat)
  /-- Nodes with the nodes that they are keys of. -/
  | mapping (entries : List (Nat × Nat))
  deriving DecidableEq, Repr

/-- A node of a document. -/
structure Node where
  /-- The kind of value it stands for. -/
  tag : Tag
  /-- What it holds. -/
  content : Content
  deriving DecidableEq, Repr

/-- A node that holds nothing yet. -/
def Node.blank : Node := ⟨.unknown, .scalar []⟩

/-- A document: its nodes, and which of them is the outermost. -/
structure Graph where
  /-- The nodes. -/
  nodes : Array Node
  /-- The number of the outermost one. -/
  root : Nat
  deriving Repr

/-- The state between two tokens of a document. -/
structure Builder where
  /-- The tokens that are left. -/
  tokens : Tokens
  /-- The shorthands for tags. -/
  shorthands : List (Text × Text)
  /-- The named nodes. -/
  anchors : List (Text × Nat)
  /-- The nodes so far. -/
  nodes : Array Node
  deriving Repr

/-- A computation that builds nodes and may fail. -/
abbrev BuilderM := StateT Builder (Except Fault)

namespace BuilderM

/-- Fails because the text breaks a rule. -/
def fail {α : Type} : BuilderM α := throw .malformed

/-- The next token. Where the text could not be cut further, its fault comes up. -/
def peek : BuilderM Token := do
  let tokens := (← get).tokens
  match tokens.tokens with
  | token :: _ => return token
  | [] => throw (tokens.fault.getD .malformed)

/-- Moves on over the next token. -/
def skip : BuilderM Unit :=
  modify fun builder =>
    { builder with tokens := { builder.tokens with tokens := builder.tokens.tokens.drop 1 } }

/-- Moves on over the next token if it is the given one, and tells whether it was. -/
def accept (token : Token) : BuilderM Bool := do
  if (← peek) = token then skip; return true else return false

/-- Moves on over the given token, which must be next. -/
def expect (token : Token) : BuilderM Unit := do
  if !(← accept token) then fail

/-- Whether the next token is one of those listed. -/
def atOneOf (tokens : List Token) : BuilderM Bool := return tokens.contains (← peek)

/-- Makes room for a node, and gives it a name if there is one. -/
def reserve (anchor : Option Text) : BuilderM Nat := do
  let number := (← get).nodes.size
  modify fun builder =>
    { builder with
      nodes := builder.nodes.push Node.blank
      anchors := match anchor with
        | none => builder.anchors
        | some name => (name, number) :: builder.anchors }
  return number

/-- Puts a node where room was made for it. -/
def fill (number : Nat) (node : Node) : BuilderM Unit :=
  modify fun builder => { builder with nodes := builder.nodes.setIfInBounds number node }

/-- Adds a text. -/
def scalar (anchor : Option Text) (tag : Tag) (text : Text) : BuilderM Nat := do
  let number ← reserve anchor
  fill number ⟨tag, .scalar text⟩
  return number

/-- Adds the node of a place where nothing stands. -/
def nothing : BuilderM Nat := scalar none (Plain.tag []) []

/-- The tag in full that a token stands for. -/
def tagText (handle : Option Text) (rest : Text) : BuilderM Text := do
  match handle with
  | none => return rest
  | some handle =>
    match (← get).shorthands.lookup handle with
    | none => fail
    | some start => return start ++ rest

/-- Reads an anchor and a tag, which may stand before a node in either order. -/
def properties : BuilderM (Option Text × Option Text) := do
  match ← peek with
  | .anchor name =>
    skip
    match ← peek with
    | .tag handle rest => skip; return (some name, some (← tagText handle rest))
    | _ => return (some name, none)
  | .tag handle rest =>
    skip
    match ← peek with
    | .anchor name => skip; return (some name, some (← tagText handle rest))
    | _ => return (none, some (← tagText handle rest))
  | _ => return (none, none)

/-- The meaning of the tag of a node. The tag `!` leaves the decision to the form of the node,
as no tag does. -/
def tagOr (tag : Option Text) (byForm : Tag) : Tag :=
  match tag with
  | none | some ['!'] => byForm
  | some text => Tag.ofText text

/-- Where a node stands. -/
inductive Place where
  /-- Within brackets. -/
  | flow
  /-- Outside of brackets. -/
  | block
  /-- In an entry of an indented mapping, where a sequence need not be indented. -/
  | entry
  deriving DecidableEq, Repr

mutual

/-- Reads a node. -/
def node : Nat → Place → BuilderM Nat
  | 0, _ => fail
  | fuel + 1, place => do
    match ← peek with
    | .alias name =>
      skip
      match (← get).anchors.lookup name with
      | some number => return number
      | none => fail
    | _ =>
      let (anchor, tag) ← properties
      let token ← peek
      if let some name := anchor then
        if ((← get).anchors.lookup name).isSome then fail
      let sequence := fun (items : BuilderM (List Nat)) => do
        let number ← reserve anchor
        fill number ⟨tagOr tag .seq, .sequence (← items)⟩
        return number
      let mapping := fun (entries : BuilderM (List (Nat × Nat))) => do
        let number ← reserve anchor
        fill number ⟨tagOr tag .map, .mapping (← entries)⟩
        return number
      match token with
      | .blockEntry =>
        if place = .entry then sequence (looseItems fuel)
        else absent anchor tag
      | .scalar text plain =>
        skip
        let byForm := if plain || tag = some ['!'] then Plain.tag text else .str
        scalar anchor (tagOr tag byForm) text
      | .flowSequenceStart => skip; sequence (flowItems fuel true)
      | .flowMappingStart => skip; mapping (flowEntries fuel true)
      | .blockSequenceStart =>
        if place = .flow then absent anchor tag
        else skip; sequence (blockItems fuel)
      | .blockMappingStart =>
        if place = .flow then absent anchor tag
        else skip; mapping (blockEntries fuel)
      | _ => absent anchor tag

/-- The node of a place where only an anchor or a tag stands; one of them must. -/
def absent (anchor tag : Option Text) : BuilderM Nat :=
  if anchor.isNone && tag.isNone then fail
  else scalar anchor (tagOr tag (Plain.tag [])) []

/-- Reads the members of an indented sequence. -/
def blockItems : Nat → BuilderM (List Nat)
  | 0 => fail
  | fuel + 1 => do
    if ← accept .blockEntry then
      let item ← if ← atOneOf [.blockEntry, .blockEnd] then nothing else node fuel .block
      return item :: (← blockItems fuel)
    else
      expect .blockEnd
      return []

/-- Reads the members of a sequence that is not indented. -/
def looseItems : Nat → BuilderM (List Nat)
  | 0 => fail
  | fuel + 1 => do
    if ← accept .blockEntry then
      let item ← if ← atOneOf [.blockEntry, .key, .value, .blockEnd] then nothing
        else node fuel .block
      return item :: (← looseItems fuel)
    else return []

/-- Reads the entries of an indented mapping. -/
def blockEntries : Nat → BuilderM (List (Nat × Nat))
  | 0 => fail
  | fuel + 1 => do
    let stops := [Token.key, .value, .blockEnd]
    if ← accept .key then
      let key ← if ← atOneOf stops then nothing else node fuel .entry
      let value ←
        if ← accept .value then
          if ← atOneOf stops then nothing else node fuel .entry
        else nothing
      return (key, value) :: (← blockEntries fuel)
    else
      expect .blockEnd
      return []

/-- Reads the members of a sequence in brackets. -/
def flowItems : Nat → Bool → BuilderM (List Nat)
  | 0, _ => fail
  | fuel + 1, first => do
    if ← accept .flowSequenceEnd then return []
    if !first then expect .flowEntry
    if ← accept .key then
      let number ← reserve none
      let stops := [Token.value, .flowEntry, .flowSequenceEnd]
      let key ← if ← atOneOf stops then nothing else node fuel .flow
      let value ←
        if ← accept .value then
          if ← atOneOf [.flowEntry, .flowSequenceEnd] then nothing else node fuel .flow
        else nothing
      fill number ⟨.map, .mapping [(key, value)]⟩
      return number :: (← flowItems fuel false)
    else if ← accept .flowSequenceEnd then return []
    else
      let item ← node fuel .flow
      return item :: (← flowItems fuel false)

/-- Reads the entries of a mapping in brackets. -/
def flowEntries : Nat → Bool → BuilderM (List (Nat × Nat))
  | 0, _ => fail
  | fuel + 1, first => do
    if ← accept .flowMappingEnd then return []
    if !first then expect .flowEntry
    if ← accept .key then
      let stops := [Token.value, .flowEntry, .flowMappingEnd]
      let key ← if ← atOneOf stops then nothing else node fuel .flow
      let value ←
        if ← accept .value then
          if ← atOneOf [.flowEntry, .flowMappingEnd] then nothing else node fuel .flow
        else nothing
      return (key, value) :: (← flowEntries fuel false)
    else if ← accept .flowMappingEnd then return []
    else
      let key ← node fuel .flow
      let value ← nothing
      return (key, value) :: (← flowEntries fuel false)

end

/-- The shorthands that every document has. -/
def standardShorthands : List (Text × Text) :=
  [(['!'], ['!']), (['!', '!'], Tag.standardStart)]

/-- Reads the directives before a document. There may be one version, and one shorthand for each
handle. -/
def directives : Nat → Bool → List (Text × Text) → BuilderM (List (Text × Text))
  | 0, _, shorthands => return shorthands
  | fuel + 1, versioned, shorthands => do
    match ← peek with
    | .version major _ =>
      if versioned || major != 1 then fail
      skip
      directives fuel true shorthands
    | .tagShorthand handle start =>
      if (shorthands.lookup handle).isSome then fail
      skip
      directives fuel versioned ((handle, start) :: shorthands)
    | .otherDirective =>
      skip
      directives fuel versioned shorthands
    | _ => return shorthands

/-- Moves on over marks behind a document. -/
def skipEnds : Nat → BuilderM Unit
  | 0 => return
  | fuel + 1 => do if ← accept .documentEnd then skipEnds fuel

/-- Whether a directive is next. -/
def atDirective : BuilderM Bool := do
  match ← peek with
  | .version _ _ | .tagShorthand _ _ | .otherDirective => return true
  | _ => return false

/-- Reads the only document, if there is one. -/
def document (fuel : Nat) : BuilderM (Option Nat) := do
  if (← peek) = .streamEnd then return none
  let root ←
    if (← atDirective) || (← peek) = .documentStart then do
      let shorthands ← directives fuel false []
      modify ({ · with shorthands := shorthands ++ standardShorthands })
      expect .documentStart
      if (← atDirective) || (← atOneOf [.documentStart, .documentEnd, .streamEnd]) then nothing
      else node fuel .block
    else node fuel .block
  skipEnds fuel
  expect .streamEnd
  return some root

end BuilderM

/-- The document in a text, if it holds one. -/
def Graph.ofText? (text : Text) : Except Fault (Option Graph) :=
  let tokens := Tokens.ofText text
  let builder : Builder := ⟨tokens, BuilderM.standardShorthands, [], #[]⟩
  match (BuilderM.document (4 * tokens.tokens.length + 4)).run builder with
  | .error fault => .error fault
  | .ok (none, _) => .ok none
  | .ok (some root, builder) => .ok (some ⟨builder.nodes, root⟩)

end StyleTypings.Yaml
