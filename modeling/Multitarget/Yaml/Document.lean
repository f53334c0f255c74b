import Multitarget.Text.Stream
import Multitarget.Yaml.Graph
import Multitarget.Yaml.Scalar

/-!
# Reading YAML

The nodes of a text become values. Scalars are read at once; collections are
entered one after another in the order in which they were met, so the fault of
an outer collection comes before those of the collections in it. Mappings take
over the entries of the mappings they merge.
-/

namespace Multitarget.Yaml

/-- What became of a node. -/
inductive Built where
  | leaf (value : Value)
  /-- A collection that was met and not entered yet. -/
  | met
  | items (ids : List NodeId)
  | members (ids : List NodeId)
  | entries (pairs : List (NodeId × NodeId))
  | pairs (pairs : List (NodeId × NodeId))

/-- The nodes, what became of them, and the collections to enter. -/
structure Loader where
  nodes : Graph
  built : Array (Option Built)
  waiting : List NodeId

/-- A step of reading. -/
abbrev Load := StateT Loader (Except Error)

namespace Load

/-- Fails at a mark. -/
def fail {α : Type} (problem : Problem) (mark : Mark) : Load α :=
  throw (.problem problem mark)

/-- A node by its number. -/
def node (id : NodeId) : Load Node := do
  return (← get).nodes[id]?.getD ⟨Tag.null, .scalar "", ⟨0, 0, 0⟩⟩

/-- Replaces a node. -/
def setNode (id : NodeId) (node : Node) : Load Unit :=
  modify fun loader => { loader with nodes := loader.nodes.modify id fun _ => node }

/-- Notes what became of a node. -/
def setBuilt (id : NodeId) (built : Built) : Load Unit :=
  modify fun loader => { loader with built := loader.built.modify id fun _ => some built }

/-- The text of a scalar; a mapping counts as the scalar of its value sign. -/
def scalarText (id : NodeId) : (fuel : Nat) → Load String
  | 0 => return ""
  | fuel + 1 => do
    let node ← node id
    match node.content with
    | .scalar text => return text
    | .sequence _ => fail (.expectedNode "scalar" node.content.name) node.mark
    | .mapping entries =>
      let loader ← get
      let isValue (entry : NodeId × NodeId) : Bool :=
        loader.nodes[entry.1]?.any fun key => key.tag == Tag.value
      match entries.find? isValue with
      | some (_, value) => scalarText value fuel
      | none => fail (.expectedNode "scalar" node.content.name) node.mark

/-- The tags of collections. -/
def collectionTags : List String :=
  [Tag.sequence, Tag.mapping, Tag.set, Tag.ordered, Tag.pairs]

/-- Meets a node: reads a scalar, or puts a collection behind those to enter. -/
def meet (id : NodeId) : Load Unit := do
  let loader ← get
  if (loader.built[id]?.getD none).isSome then return
  let node ← node id
  if collectionTags.contains node.tag then
    setBuilt id .met
    modify fun loader => { loader with waiting := loader.waiting ++ [id] }
  else
    match Scalar.value? node.tag "" node.mark with
    | none => fail (.noConstructor node.tag) node.mark
    | some _ =>
      let text ← scalarText id (loader.nodes.size + 1)
      if node.tag = Tag.moment && node.content.name != "scalar" then
        throw (.mismatch .mappedMoment node.mark)
      match Scalar.value? node.tag text node.mark with
      | some (.ok value) => setBuilt id (.leaf value)
      | some (.error error) => throw error
      | none => return

/-- Meets a key, which has to be a scalar. -/
def meetKey (id : NodeId) : Load Unit := do
  meet id
  match (← get).built[id]?.getD none with
  | some (.leaf value) => if value.isKey then return else fail .unhashableKey (← node id).mark
  | _ => fail .unhashableKey (← node id).mark

/-- The entries of a mapping that is merged as an item of a list. -/
def mergedEntries (id : NodeId) : Load (List (NodeId × NodeId)) := do
  match (← node id).content with
  | .mapping entries => return entries
  | _ => return []

/-- Puts the entries of merged mappings before the others. `place` counts the entries looked at,
`merged` collects what they bring. -/
def flatten (id : NodeId) : (fuel place : Nat) → (merged : List (NodeId × NodeId)) → Load Unit
  | 0, _, _ => return
  | fuel + 1, place, merged => do
    let self ← node id
    match self.content with
    | .mapping entries =>
      match entries[place]? with
      | none =>
        if merged.isEmpty then return
        setNode id { self with content := .mapping (merged ++ entries) }
      | some (keyId, valueId) =>
        let key ← node keyId
        if key.tag = Tag.merge then
          setNode id { self with content := .mapping (entries.eraseIdx place) }
          let source ← node valueId
          match source.content with
          | .mapping _ =>
            flatten valueId fuel 0 []
            flatten id fuel place (merged ++ (← mergedEntries valueId))
          | .sequence items =>
            let lists ← items.mapM fun item => do
              let source ← node item
              match source.content with
              | .mapping _ =>
                flatten item fuel 0 []
                mergedEntries item
              | other => fail (.mergeItem other.name) source.mark
            flatten id fuel place (merged ++ lists.reverse.flatten)
          | other => fail (.mergeSource other.name) source.mark
        else
          if key.tag = Tag.value then setNode keyId { key with tag := Tag.text }
          flatten id fuel (place + 1) merged
    | _ => return

/-- The number of entries of all mappings. -/
def entryCount (nodes : Graph) : Nat :=
  nodes.foldl (fun count node =>
    match node.content with
    | .mapping entries => count + entries.length
    | _ => count) 0

/-- Meets the entries of a mapping, each key before its value. -/
def enterMapping (id : NodeId) : Load (List (NodeId × NodeId)) := do
  let nodes := (← get).nodes
  flatten id ((nodes.size + entryCount nodes + 2) * (nodes.size + 2)) 0 []
  let node ← node id
  match node.content with
  | .mapping entries =>
    for (key, value) in entries do
      meetKey key
      meet value
    return entries
  | other => fail (.expectedNode "mapping" other.name) node.mark

/-- Meets the entries of a list of mappings of one entry each. -/
def enterPairs (id : NodeId) : Load (List (NodeId × NodeId)) := do
  let self ← node id
  match self.content with
  | .sequence items =>
    items.mapM fun item => do
      let entry ← node item
      match entry.content with
      | .mapping [(key, value)] =>
        meet key
        meet value
        return (key, value)
      | .mapping entries => fail (.pairSize entries.length) entry.mark
      | other => fail (.expectedPair other.name) entry.mark
  | other => fail (.expectedSequence other.name) self.mark

/-- Enters a collection: meets all that it holds. -/
def enter (id : NodeId) : Load Unit := do
  let self ← node id
  if self.tag = Tag.sequence then
    match self.content with
    | .sequence items =>
      for item in items do
        meet item
      setBuilt id (.items items)
    | other => fail (.expectedNode "sequence" other.name) self.mark
  else if self.tag = Tag.mapping then setBuilt id (.entries (← enterMapping id))
  else if self.tag = Tag.set then setBuilt id (.members ((← enterMapping id).map Prod.fst))
  else setBuilt id (.pairs (← enterPairs id))

/-- Enters the collections that wait, and those that they bring. -/
def enterAll : (fuel : Nat) → Load Unit
  | 0 => return
  | fuel + 1 => do
    match (← get).waiting with
    | [] => return
    | id :: rest =>
      modify fun loader => { loader with waiting := rest }
      enter id
      enterAll fuel

end Load

/-- How often a collection is shown inside itself before it is cut off. -/
def unfoldings : Nat := 3

/-- The value of a node inside the nodes of a path. -/
def assemble (built : Array (Option Built)) : (fuel : Nat) → (path : List NodeId) →
    NodeId → Value
  | 0, _, _ => .null
  | fuel + 1, path, id =>
    if unfoldings < path.count id then .null
    else
      let inner := assemble built fuel (id :: path)
      match built[id]?.getD none with
      | none => .null
      | some .met => .null
      | some (.leaf value) => value
      | some (.items ids) => .list (ids.map inner)
      | some (.members ids) =>
        .set (ids.foldl (fun members id => Value.addMember (inner id) members) [])
      | some (.entries pairs) =>
        .map (pairs.foldl (fun entries pair =>
          Value.put (inner pair.1) (inner pair.2) entries) [])
      | some (.pairs pairs) =>
        .list (pairs.map fun pair => .tuple [inner pair.1, inner pair.2])

/-- The value of a node. -/
def load (nodes : Graph) (root : NodeId) : Except Error Value := do
  let start : Loader := ⟨nodes, Array.replicate nodes.size none, []⟩
  let (_, loader) ← (do
    Load.meet root
    Load.enterAll (nodes.size + 1) : Load Unit).run start
  return assemble loader.built ((unfoldings + 1) * nodes.size + 1) [] root

/-- Whether YAML allows a character. -/
def isAcceptable (character : Char) : Bool :=
  let code := character.toNat
  code == 0x09 || code == 0x0A || code == 0x0D || (0x20 ≤ code && code ≤ 0x7E) ||
  code == 0x85 || (0xA0 ≤ code && code ≤ 0xD7FF) || (0xE000 ≤ code && code ≤ 0xFFFD) ||
  0x10000 ≤ code

/-- The first position of a stream that cannot be read: where the piece of the first character that
YAML does not allow starts, or the stream is cut. -/
def horizon? (stream : Text.Stream) : Option Horizon :=
  let before := (stream.text.takeWhile isAcceptable).length
  match stream.text.drop before with
  | character :: _ => some ⟨Text.Stream.pieceStart before, .unacceptable character before⟩
  | [] =>
    stream.cut.map fun failure =>
      ⟨Text.Stream.pieceStart stream.text.length, .undecodable failure⟩

/-- Reads a text that holds one document, or none, which counts as null. What is wrong is reported
as far as it is met: behind a fault nothing of the text is looked at. -/
def read (stream : Text.Stream) : Except Error Value := do
  let horizon := horizon? stream
  if let some error := hidden? horizon 0 then .error error
  match ← graph stream.text horizon with
  | (none, _) => return .null
  | (some root, nodes) => load nodes root

/-- The wording of a refusal of the file of a name. -/
def Error.message (file : String) : Error → String
  | .unacceptable character position =>
    "unacceptable character #x" ++
      String.ofList (Text.hexadecimal
        (if character.toNat < 0x10000 then 4 else if character.toNat < 0x100000 then 5 else 6)
        character.toNat)
      ++ ": special characters are not allowed\n  in \"" ++ file ++ "\", position "
      ++ toString position
  | .problem detail mark =>
    "YAML syntax error at line " ++ toString (mark.line + 1) ++ ", column "
      ++ toString (mark.column + 1) ++ ": " ++ detail.message
  | .mismatch detail _ => detail.message
  | .undecodable failure => failure.message

end Multitarget.Yaml
