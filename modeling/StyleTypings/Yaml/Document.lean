import StyleTypings.Yaml.Node

/-!
# Values of YAML documents

The values that the nodes of a document stand for. Texts are turned into values as they are met,
and collections are filled in the order in which they were met, level by level; the first fault
on this way counts. Before a mapping is filled, the mappings to be merged into it are put in
front of its own entries, so its own entries win. A key must not be a collection, and the last
of several equal keys gives the value.
-/

namespace StyleTypings.Yaml

/-- What a node stands for, with other nodes by their numbers. -/
inductive Shape where
  /-- A value without parts. -/
  | plain (value : Value)
  /-- A list. -/
  | list (items : List Nat)
  /-- A list of pairs. -/
  | pairs (entries : List (Nat × Nat))
  /-- A mapping. -/
  | map (entries : List (Value × Nat))
  /-- A set. -/
  | set (keys : List Value)
  deriving Repr

/-- The state of turning nodes into values. -/
structure Maker where
  /-- The nodes; merging changes their entries. -/
  nodes : Array Node
  /-- What the nodes met so far stand for; a collection that is not filled yet is empty. -/
  shapes : Array (Option Shape)
  /-- The collections that are to be filled, the last one met first. -/
  pending : List Nat

/-- A computation that turns nodes into values and may fail. -/
abbrev MakerM := StateT Maker (Except Fault)

namespace MakerM

/-- Fails because the document has no meaning. -/
def fail {α : Type} : MakerM α := throw .malformed

/-- The node of a number. -/
def nodeAt (number : Nat) : MakerM Node := return (← get).nodes.getD number Node.blank

/-- Sets the node of a number. -/
def setNode (number : Nat) (node : Node) : MakerM Unit :=
  modify fun maker => { maker with nodes := maker.nodes.setIfInBounds number node }

/-- Sets what a node stands for. -/
def setShape (number : Nat) (shape : Shape) : MakerM Unit :=
  modify fun maker => { maker with shapes := maker.shapes.setIfInBounds number (some shape) }

/-- The text of a node. A mapping has the text of its default value. -/
def textOf : Nat → Nat → MakerM Text
  | 0, _ => fail
  | fuel + 1, number => do
    match (← nodeAt number).content with
    | .scalar text => return text
    | .sequence _ => fail
    | .mapping entries =>
      let tags ← entries.mapM fun entry => return ((← nodeAt entry.1).tag, entry.2)
      match tags.lookup Tag.value with
      | some number => textOf fuel number
      | none => fail

/-- Notes a collection that is to be filled. -/
def postpone (number : Nat) (shape : Shape) : MakerM Unit := do
  setShape number shape
  modify fun maker => { maker with pending := number :: maker.pending }

/-- Meets a node: makes its value, or notes it for later if it is a collection. -/
def meet (number : Nat) : MakerM Unit := do
  let maker ← get
  if ((maker.shapes.getD number none).isSome) then return
  let tag := (← nodeAt number).tag
  match tag with
  | .seq => postpone number (.list [])
  | .omap | .pairs => postpone number (.pairs [])
  | .map => postpone number (.map [])
  | .set => postpone number (.set [])
  | _ =>
    if tag = .merge ∨ tag = .value ∨ tag = .unknown then fail
    let text ← textOf (maker.nodes.size + 1) number
    match Scalar.value tag text with
    | .ok value => setShape number (.plain value)
    | .error fault => throw fault

/-- Meets a node that is a key, and gives its value. -/
def meetKey (number : Nat) : MakerM Value := do
  meet number
  match (← get).shapes.getD number none with
  | some (.plain value) => return value
  | _ => fail

/-- Puts the entries of the mappings to be merged in front of the own entries of a mapping. Of
several mappings in a list the first wins, so it comes last. -/
def flatten : Nat → Nat → MakerM Unit
  | 0, _ => return
  | fuel + 1, number => do
    let node ← nodeAt number
    let .mapping entries := node.content | fail
    let tagged ← entries.mapM fun entry => return ((← nodeAt entry.1).tag, entry)
    let own := (tagged.filter (·.1 != .merge)).map (·.2)
    setNode number { node with content := .mapping own }
    let merged ← (tagged.filter (·.1 == .merge)).mapM fun (_, _, source) => do
      match (← nodeAt source).content with
      | .scalar _ => fail
      | .mapping _ => entriesOf fuel source
      | .sequence sources =>
        let parts ← sources.mapM fun source => do
          match (← nodeAt source).content with
          | .mapping _ => entriesOf fuel source
          | _ => fail
        return parts.reverse.flatten
    for (tag, entry) in tagged do
      if tag == .value then
        setNode entry.1 { (← nodeAt entry.1) with tag := .str }
    setNode number { node with content := .mapping (merged.flatten ++ own) }
where
  /-- The entries of a mapping with those merged into it. -/
  entriesOf (fuel number : Nat) : MakerM (List (Nat × Nat)) := do
    flatten fuel number
    match (← nodeAt number).content with
    | .mapping entries => return entries
    | _ => fail

/-- The entries of a mapping, with the values of the keys. -/
def fillEntries (number : Nat) : MakerM (List (Value × Nat)) := do
  let .mapping _ := (← nodeAt number).content | fail
  flatten ((← get).nodes.size + 1) number
  let .mapping entries := (← nodeAt number).content | fail
  entries.foldlM (fun filled (key, value) => do
    let key ← meetKey key
    meet value
    return Value.store key value filled) []

/-- The only entry of each mapping in a sequence. -/
def fillPairs (number : Nat) : MakerM (List (Nat × Nat)) := do
  let .sequence items := (← nodeAt number).content | fail
  items.mapM fun item => do
    let .mapping [(key, value)] := (← nodeAt item).content | fail
    meet key
    meet value
    return (key, value)

/-- Fills a collection. -/
def fill (number : Nat) : MakerM Unit := do
  match (← nodeAt number).tag with
  | .seq => do
    let .sequence items := (← nodeAt number).content | fail
    items.forM meet
    setShape number (.list items)
  | .omap | .pairs => setShape number (.pairs (← fillPairs number))
  | .map => setShape number (.map (← fillEntries number))
  | .set => setShape number (.set ((← fillEntries number).map (·.1)))
  | _ => return

/-- Fills the collections that are met, level by level. -/
def fillAll : Nat → MakerM Unit
  | 0 => return
  | fuel + 1 => do
    let level := (← get).pending.reverse
    if !level.isEmpty then
      modify ({ · with pending := [] })
      level.forM fill
      fillAll fuel

end MakerM

/-- The value of a node, written out as a tree. `around` are the collections it lies in. -/
def unfold (shapes : Array (Option Shape)) : Nat → List Nat → Nat → Value
  | 0, _, _ => .null
  | fuel + 1, around, number =>
    let inside := unfold shapes fuel (number :: around)
    match shapes.getD number none with
    | none => .null
    | some (.plain value) => value
    | some (.set keys) => .set keys
    | some (.list items) =>
      if around.contains number then .enclosingList else .list (items.map inside)
    | some (.pairs entries) =>
      if around.contains number then .enclosingList
      else .list (entries.map fun entry => .pair (inside entry.1) (inside entry.2))
    | some (.map entries) =>
      if around.contains number then .enclosingMap
      else .map (entries.map fun entry => (entry.1, inside entry.2))

/-- What a text of YAML holds. -/
inductive Loaded where
  /-- Nothing. -/
  | nothing
  /-- A mapping. -/
  | mapping (entries : List (Value × Value))
  /-- A value of another kind. -/
  | other

/-- What the outermost node of a document stands for. Each value of a mapping is written out on
its own. -/
def Graph.load (graph : Graph) : Except Fault Loaded :=
  let size := graph.nodes.size
  let maker : Maker := ⟨graph.nodes, Array.replicate size none, []⟩
  let making : MakerM Unit := do
    MakerM.meet graph.root
    MakerM.fillAll (size + 1)
  match making.run maker with
  | .error fault => .error fault
  | .ok (_, maker) =>
    match maker.shapes.getD graph.root none with
    | some (.plain .null) => .ok .nothing
    | some (.map entries) =>
      .ok (.mapping (entries.map fun entry =>
        (entry.1, unfold maker.shapes (size + 1) [] entry.2)))
    | _ => .ok .other

/-- What a text of YAML holds. -/
def load (text : Text) : Except Fault Loaded :=
  match Graph.ofText? text with
  | .error fault => .error fault
  | .ok none => .ok .nothing
  | .ok (some graph) => graph.load

end StyleTypings.Yaml
