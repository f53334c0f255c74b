import Multitarget.Yaml.Tag
import Multitarget.Yaml.Token.Stream

/-!
# The nodes of a document

Tokens form nodes: scalars, sequences and mappings, each with a tag. An alias is
the node of its anchor, so nodes are numbered and refer to each other by number;
a collection may even contain itself.
-/

namespace Multitarget.Yaml

/-- The number of a node. -/
abbrev NodeId := Nat

/-- What a node holds. -/
inductive NodeContent where
  | scalar (text : String)
  | sequence (items : List NodeId)
  | mapping (entries : List (NodeId × NodeId))
  deriving Repr

/-- The name of a kind of node. -/
def NodeContent.name : NodeContent → String
  | .scalar _ => "scalar"
  | .sequence _ => "sequence"
  | .mapping _ => "mapping"

/-- A node with its tag and place. -/
structure Node where
  tag : String
  content : NodeContent
  mark : Mark
  deriving Repr

/-- The nodes by number. -/
abbrev Graph := Array Node

/-- What is known while nodes are formed. -/
structure Builder where
  tokens : List Token
  /-- What stands behind the tokens instead of an end. -/
  fault : Option Error
  /-- Handles of tags and what they stand for. -/
  handles : List (String × String)
  anchors : List (String × NodeId)
  nodes : Graph

/-- A step of forming nodes. -/
abbrev Build := StateT Builder (Except Error)

namespace Build

/-- Fails at a mark. -/
def fail {α : Type} (problem : Problem) (mark : Mark) : Build α :=
  throw (.problem problem mark)

/-- The next token. -/
def peek : Build Token := do
  let builder ← get
  match builder.tokens, builder.fault with
  | token :: _, _ => return token
  | [], some fault => throw fault
  | [], none => return ⟨.streamEnd, ⟨0, 0, 0⟩, ⟨0, 0, 0⟩⟩

/-- Takes the next token. -/
def take : Build Token := do
  let token ← peek
  modify fun builder => { builder with tokens := builder.tokens.drop 1 }
  return token

/-- Whether the next token is of the kind. -/
def nextIs (kind : TokenKind) : Build Bool := return (← peek).kind == kind

/-- Whether the next token is of one of the kinds. -/
def nextIn (kinds : List TokenKind) : Build Bool := return kinds.contains (← peek).kind

/-- Adds a node. -/
def add (node : Node) : Build NodeId := do
  let builder ← get
  set { builder with nodes := builder.nodes.push node }
  return builder.nodes.size

/-- Changes what a node holds. -/
def fill (id : NodeId) (content : NodeContent) : Build Unit :=
  modify fun builder =>
    { builder with nodes := builder.nodes.modify id fun node => { node with content } }

/-- Gives a node a name, if there is one. -/
def name (anchor : Option String) (id : NodeId) : Build Unit :=
  match anchor with
  | none => return
  | some anchor => modify fun builder => { builder with anchors := (anchor, id) :: builder.anchors }

/-- An empty scalar, which counts as null. -/
def addEmpty (mark : Mark) : Build NodeId :=
  add ⟨Tag.implicit "", .scalar "", mark⟩

/-- What stands before a node: its anchor, its tag, and the place where they start. -/
structure Properties where
  anchor : Option String
  tag : Option String
  start : Option Mark

/-- The name of a tag written with a handle; an unknown handle is reported at `mark`. -/
def expandTag (handle : Option String) (suffix : String) (mark : Mark) : Build String := do
  match handle with
  | none => return suffix
  | some handle =>
    match (← get).handles.find? fun entry => entry.1 == handle with
    | some (_, expansion) => return expansion ++ suffix
    | none => fail (.undefinedHandle handle) mark

/-- Takes an anchor, if one is next. -/
def takeAnchor : Build (Option (String × Mark)) := do
  match (← peek).kind with
  | .anchor name => return some (name, (← take).start)
  | _ => return none

/-- Takes a tag, if one is next. -/
def takeTag : Build (Option (Option String × String × Mark)) := do
  match (← peek).kind with
  | .tag handle suffix => return some (handle, suffix, (← take).start)
  | _ => return none

/-- Takes the properties of a node, in either order. -/
def takeProperties : Build Properties := do
  let anchor ← takeAnchor
  let tag ← takeTag
  let behind ← if anchor.isNone && tag.isSome then takeAnchor else pure none
  let expanded ←
    match tag with
    | none => pure none
    | some (handle, suffix, mark) => some <$> expandTag handle suffix mark
  let start :=
    match anchor, tag with
    | some (_, mark), _ => some mark
    | none, some (_, _, mark) => some mark
    | none, none => none
  return ⟨(anchor <|> behind).map Prod.fst, expanded, start⟩

/-- Refuses an anchor that was used before. -/
def checkAnchor (anchor : Option String) (mark : Mark) : Build Unit := do
  if let some anchor := anchor then
    if (← get).anchors.any fun entry => entry.1 == anchor then fail .duplicateAnchor mark

/-- Whether a tag leaves the choice to the form of the node. -/
def isOpenTag (tag : Option String) : Bool := tag.isNone || tag == some "!"

/-- The tag of a collection. -/
def collectionTag (tag : Option String) (usual : String) : String :=
  if isOpenTag tag then usual else tag.getD usual

/-- The tag of a scalar; quoted ones are texts unless the tag says otherwise. -/
def scalarTag (tag : Option String) (plain : Bool) (written : String) : String :=
  match tag with
  | none => if plain then Tag.implicit written else Tag.text
  | some tag => if tag = "!" then Tag.implicit written else tag

/-- Adds a collection, which may refer to itself, and fills it. -/
def addCollection (properties : Properties) (mark : Mark) (tag : String) (empty : NodeContent)
    (content : Build NodeContent) : Build NodeId := do
  checkAnchor properties.anchor mark
  let id ← add ⟨tag, empty, mark⟩
  name properties.anchor id
  fill id (← content)
  return id

/-- Fails for a token that does not go on with a flow collection. -/
def failFlow {α : Type} (closing : String) : Build α := do
  let token ← peek
  fail (.expectedFlowEnd closing token.kind.name) token.start

/-- Fails for a token that does not go on with a block collection. -/
def failBlock {α : Type} : Build α := do
  let token ← peek
  fail (.expectedBlockEnd token.kind.name) token.start

/-- Forms a node where no content is next: an empty scalar if it has properties. -/
def nodeless (properties : Properties) (scalar : Bool → String → Build NodeId) : Build NodeId := do
  if properties.start.isSome then scalar true ""
  else
    let token ← peek
    fail (.expectedContent token.kind.name) token.start

mutual

/-- Forms a node; `block` allows block collections, `dashes` also a sequence that is not indented
deeper than the mapping around it. -/
def node (block dashes : Bool) : (fuel : Nat) → Build NodeId
  | 0 => addEmpty ⟨0, 0, 0⟩
  | fuel + 1 => do
    let first ← peek
    if let .alias name := first.kind then
      let _ ← take
      match (← get).anchors.find? fun entry => entry.1 == name with
      | some (_, id) => return id
      | none => fail (.undefinedAlias name) first.start
    let properties ← takeProperties
    let token ← peek
    let mark := properties.start.getD token.start
    let sequence (content : Build NodeContent) : Build NodeId :=
      addCollection properties mark (collectionTag properties.tag Tag.sequence)
        (.sequence []) content
    let mapping (content : Build NodeContent) : Build NodeId :=
      addCollection properties mark (collectionTag properties.tag Tag.mapping)
        (.mapping []) content
    let scalar (plain : Bool) (text : String) : Build NodeId := do
      checkAnchor properties.anchor mark
      let id ← add ⟨scalarTag properties.tag plain text, .scalar text, mark⟩
      name properties.anchor id
      return id
    match token.kind with
    | .blockEntry =>
      if dashes then sequence (.sequence <$> dashItems fuel)
      else nodeless properties scalar
    | .scalar text plain =>
      let _ ← take
      scalar plain text
    | .flowSequenceStart =>
      sequence do
        let _ ← take
        .sequence <$> flowItems true fuel
    | .flowMappingStart =>
      mapping do
        let _ ← take
        .mapping <$> flowEntries true fuel
    | .blockSequenceStart =>
      if block then
        sequence do
          let _ ← take
          .sequence <$> blockItems fuel
      else nodeless properties scalar
    | .blockMappingStart =>
      if block then
        mapping do
          let _ ← take
          .mapping <$> blockEntries fuel
      else nodeless properties scalar
    | _ => nodeless properties scalar

/-- Forms a node unless one of the kinds is next, where an empty one is taken to stand. -/
def nodeUnless (kinds : List TokenKind) (mark : Mark) (block dashes : Bool) :
    (fuel : Nat) → Build NodeId
  | 0 => addEmpty mark
  | fuel + 1 => do
    if ← nextIn kinds then addEmpty mark else node block dashes fuel

/-- Forms the value of an entry, empty if no colon is next. -/
def valueUnless (kinds : List TokenKind) (block dashes : Bool) : (fuel : Nat) → Build NodeId
  | 0 => addEmpty ⟨0, 0, 0⟩
  | fuel + 1 => do
    if ← nextIs .value then
      let token ← take
      nodeUnless kinds token.stop block dashes fuel
    else addEmpty (← peek).start

/-- Forms the items of a block sequence. -/
def blockItems : (fuel : Nat) → Build (List NodeId)
  | 0 => return []
  | fuel + 1 => do
    if ← nextIs .blockEntry then
      let token ← take
      let item ← nodeUnless [.blockEntry, .blockEnd] token.stop true false fuel
      return item :: (← blockItems fuel)
    if ← nextIs .blockEnd then
      let _ ← take
      return []
    failBlock

/-- Forms the items of a sequence that is not indented. -/
def dashItems : (fuel : Nat) → Build (List NodeId)
  | 0 => return []
  | fuel + 1 => do
    if ← nextIs .blockEntry then
      let token ← take
      let item ← nodeUnless [.blockEntry, .key, .value, .blockEnd] token.stop true false fuel
      return item :: (← dashItems fuel)
    return []

/-- Forms the entries of a block mapping. -/
def blockEntries : (fuel : Nat) → Build (List (NodeId × NodeId))
  | 0 => return []
  | fuel + 1 => do
    let ends : List TokenKind := [.key, .value, .blockEnd]
    if ← nextIs .key then
      let token ← take
      let key ← nodeUnless ends token.stop true true fuel
      let value ← valueUnless ends true true fuel
      return (key, value) :: (← blockEntries fuel)
    if ← nextIs .blockEnd then
      let _ ← take
      return []
    failBlock

/-- Forms the items of a flow sequence; an entry with a key is a mapping of its own. -/
def flowItems (first : Bool) : (fuel : Nat) → Build (List NodeId)
  | 0 => return []
  | fuel + 1 => do
    if ← nextIs .flowSequenceEnd then
      let _ ← take
      return []
    if !first then
      if ← nextIs .flowEntry then
        let _ ← take
      else failFlow "]"
    if ← nextIs .key then
      let token ← peek
      let entry := addCollection ⟨none, none, none⟩ token.start Tag.mapping (.mapping []) do
        let token ← take
        let key ← nodeUnless [.value, .flowEntry, .flowSequenceEnd] token.stop false false fuel
        let value ← valueUnless [.flowEntry, .flowSequenceEnd] false false fuel
        let _ ← peek
        return .mapping [(key, value)]
      let item ← entry
      return item :: (← flowItems false fuel)
    if ← nextIs .flowSequenceEnd then
      let _ ← take
      return []
    let item ← node false false fuel
    return item :: (← flowItems false fuel)

/-- Forms the entries of a flow mapping; an entry without a key token has an empty value. -/
def flowEntries (first : Bool) : (fuel : Nat) → Build (List (NodeId × NodeId))
  | 0 => return []
  | fuel + 1 => do
    if ← nextIs .flowMappingEnd then
      let _ ← take
      return []
    if !first then
      if ← nextIs .flowEntry then
        let _ ← take
      else failFlow "\x7d"
    if ← nextIs .key then
      let token ← take
      let key ← nodeUnless [.value, .flowEntry, .flowMappingEnd] token.stop false false fuel
      let value ← valueUnless [.flowEntry, .flowMappingEnd] false false fuel
      return (key, value) :: (← flowEntries false fuel)
    if ← nextIs .flowMappingEnd then
      let _ ← take
      return []
    let key ← node false false fuel
    let value ← addEmpty (← peek).start
    return (key, value) :: (← flowEntries false fuel)

end

/-- The handles that are known without a directive. -/
def usualHandles : List (String × String) := [("!", "!"), ("!!", Tag.standard "")]

/-- Takes the directives before a document. -/
def takeDirectives (versionSeen : Bool) (handles : List (String × String)) :
    (fuel : Nat) → Build Unit
  | 0 => return
  | fuel + 1 => do
    let token ← peek
    match token.kind with
    | .directive (.version major _) =>
      let _ ← take
      if versionSeen then fail .duplicateVersion token.start
      if major ≠ 1 then fail .incompatibleVersion token.start
      takeDirectives true handles fuel
    | .directive (.handle handle expansion) =>
      let _ ← take
      if handles.any fun entry => entry.1 == handle then fail (.duplicateHandle handle) token.start
      takeDirectives versionSeen (handles ++ [(handle, expansion)]) fuel
    | .directive .other =>
      let _ ← take
      takeDirectives versionSeen handles fuel
    | _ => modify fun builder => { builder with handles := handles ++ usualHandles }

/-- Takes the marks behind a document. -/
def takeDocumentEnds : (fuel : Nat) → Build Unit
  | 0 => return
  | fuel + 1 => do
    if ← nextIs .documentEnd then
      let _ ← take
      takeDocumentEnds fuel

/-- Takes the mark before a document with the directives before it. -/
def takeDocumentStart (fuel : Nat) : Build Unit := do
  takeDirectives false [] fuel
  let token ← peek
  if token.kind ≠ .documentStart then fail (.expectedDocument token.kind.name) token.start
  let _ ← take

/-- Whether a token stands outside of documents. -/
def isOutside : TokenKind → Bool
  | .directive _ => true
  | .documentStart => true
  | .documentEnd => true
  | .streamEnd => true
  | _ => false

/-- Forms the node of the only document, if there is one; a second one is refused. -/
def document (fuel : Nat) : Build (Option NodeId) := do
  let _ ← take
  let first ← peek
  if first.kind = .streamEnd then return none
  let root ←
    if isOutside first.kind && first.kind != .documentEnd then
      takeDocumentStart fuel
      let token ← peek
      if isOutside token.kind then addEmpty token.start else node true false fuel
    else
      modify fun builder => { builder with handles := usualHandles }
      node true false fuel
  let _ ← peek
  takeDocumentEnds fuel
  let behind ← peek
  if behind.kind ≠ .streamEnd then
    takeDocumentStart fuel
    fail .anotherDocument behind.start
  return some root

end Build

/-- The nodes of a text and the one of its document. -/
def graph (text : List Char) (horizon : Option Horizon) : Except Error (Option NodeId × Graph) :=
  let (tokens, fault) := tokens text horizon
  let start : Builder := ⟨tokens, fault, [], [], #[]⟩
  ((Build.document (6 * tokens.length + 10)).run start).map fun (root, builder) =>
    (root, builder.nodes)

end Multitarget.Yaml
