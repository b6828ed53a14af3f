import ConversionTracking.Yaml.Node
import ConversionTracking.Yaml.Scalar

/-!
The value of a YAML text. Scalars are read as soon as they are met, and the parts of collections only
after everything around the collection; the first thing that has no value, in this order, is the one
that is reported. A collection within itself is a collection of something that has no finite value.
-/

namespace ConversionTracking.Yaml

def Kind.hasParts : Kind → Bool
  | .sequence | .mapping | .set | .orderedMap | .pairs => true
  | _ => false

namespace Node

def kind? (node : Node) : Option Kind := Kind.ofTag? node.tag

mutual

def scalarText : Node → Except Fault String
  | .scalar _ text => .ok text
  | .sequence _ _ | .recurring _ => .error .malformed
  | .mapping _ entries => markedText entries

def markedText : List (Node × Node) → Except Fault String
  | [] => .error .malformed
  | (key, value) :: rest =>
      if key.kind? = some .value then value.scalarText else markedText rest

end

def readLeaf (node : Node) : Except Fault (Option Value) :=
  match node.kind? with
  | none => .error .malformed
  | some kind =>
      if kind.hasParts then .ok none
      else do
        let text ← node.scalarText
        return some (← Scalar.read kind text)

mutual

def flattened : Node → Except Fault (List (Node × Node))
  | .mapping _ entries => do
      let (taken, own) ← splitEntries entries
      return taken ++ own
  | .recurring _ => .ok []
  | .sequence _ _ => .error .malformed
  | .scalar _ _ => .error .malformed

def splitEntries :
    List (Node × Node) → Except Fault (List (Node × Node) × List (Node × Node))
  | [] => .ok ([], [])
  | (key, value) :: rest =>
      if key.kind? = some .merge then do
        let taken ← mergedEntries value
        let (others, own) ← splitEntries rest
        return (taken ++ others, own)
      else do
        let (taken, own) ← splitEntries rest
        let key :=
          match key with
          | .scalar _ text =>
              if key.kind? = some .value then .scalar (Compose.kindTag .text) text else key
          | _ => key
        return (taken, (key, value) :: own)

def mergedEntries : Node → Except Fault (List (Node × Node))
  | .mapping _ entries => do
      let (taken, own) ← splitEntries entries
      return taken ++ own
  | .recurring _ => .ok []
  | .sequence _ items => listedEntries items
  | .scalar _ _ => .error .malformed

def listedEntries : List Node → Except Fault (List (Node × Node))
  | [] => .ok []
  | .mapping _ entries :: rest => do
      let (taken, own) ← splitEntries entries
      let later ← listedEntries rest
      return later ++ taken ++ own
  | .recurring _ :: rest => listedEntries rest
  | _ :: _ => .error .malformed

end

def singleEntries : List Node → Except Fault (List (Node × Node))
  | [] => .ok []
  | .mapping _ [entry] :: rest => do return entry :: (← singleEntries rest)
  | _ :: _ => .error .malformed

def sequenceItems : Node → Except Fault (List Node)
  | .sequence _ items => .ok items
  | .recurring _ => .ok []
  | _ => .error .malformed

def readLeaves : List Node → Except Fault (List Node)
  | [] => .ok []
  | node :: rest => do
      let leaf ← node.readLeaf
      let others ← readLeaves rest
      return if leaf.isSome then others else node :: others

def readKeyed : List (Node × Node) → Except Fault (List Node)
  | [] => .ok []
  | (key, value) :: rest => do
      match ← key.readLeaf with
      | none => .error .malformed
      | some _ =>
          let nested ← readLeaves [value]
          return nested ++ (← readKeyed rest)

/-- Reads the entries of maps one after another. Each has to be the only entry of its map. -/
def readSingles : List Node → Except Fault (List Node)
  | [] => .ok []
  | .mapping _ [(key, value)] :: rest => do
      let nested ← readLeaves [key, value]
      return nested ++ (← readSingles rest)
  | _ :: _ => .error .malformed

/-- Reads the leaves among the parts of a node, and gives the parts that have parts themselves. -/
def readParts (node : Node) : Except Fault (List Node) := do
  match node.kind? with
  | some .sequence => readLeaves (← node.sequenceItems)
  | some .mapping | some .set => readKeyed (← node.flattened)
  | some .orderedMap | some .pairs => readSingles (← node.sequenceItems)
  | _ => return []

def readAllParts : List Node → Except Fault (List Node)
  | [] => .ok []
  | node :: rest => do
      let nested ← node.readParts
      return nested ++ (← readAllParts rest)

def check : Nat → List Node → Except Fault Unit
  | 0, _ => .ok ()
  | depth + 1, nodes =>
      if nodes.isEmpty then .ok ()
      else do check depth (← readAllParts nodes)

mutual

def depth : Node → Nat
  | .scalar _ _ | .recurring _ => 1
  | .sequence _ items => 1 + itemsDepth items
  | .mapping _ entries => 1 + entriesDepth entries

def itemsDepth : List Node → Nat
  | [] => 0
  | item :: rest => max item.depth (itemsDepth rest)

def entriesDepth : List (Node × Node) → Nat
  | [] => 0
  | (key, value) :: rest => max (max key.depth value.depth) (entriesDepth rest)

end

def endless (kind? : Option Kind) : Except Fault Value :=
  let part := Value.object 0
  match kind? with
  | some .sequence | some .orderedMap | some .pairs => .ok (.list [part])
  | some .mapping => .ok (.map [(.text "", part)])
  | some .set => .ok (.set [part])
  | _ => .error .malformed

def build : Nat → Node → Except Fault Value
  | 0, _ => .error .malformed
  | _ + 1, .recurring tag => endless (Kind.ofTag? tag)
  | depth + 1, node => do
      match node.kind? with
      | some .sequence => return .list (← (← node.sequenceItems).mapM (build depth))
      | some .mapping =>
          let pairs ← (← node.flattened).mapM fun (key, value) =>
            return ((← build depth key), (← build depth value))
          return .map (Entries.ofList pairs)
      | some .set =>
          return .set (Value.distinct (← (← node.flattened).mapM fun (key, _) => build depth key))
      | some .orderedMap | some .pairs =>
          let entries ← singleEntries (← node.sequenceItems)
          return .list (← entries.mapM fun (key, value) =>
            return .tuple [← build depth key, ← build depth value])
      | _ =>
          match ← node.readLeaf with
          | some value => return value
          | none => .error .malformed

def toValue (node : Node) : Except Fault Value := do
  check (node.depth + 1) (← readLeaves [node])
  build (node.depth + 1) node

end Node

def valueOfText (text : String) : Except Fault Value := do
  let chars := unifyBreaks text.toList
  if !chars.all isReadable then .error .malformed
  else
    match ← Node.ofTokens (Tokens.ofChars chars) with
    | none => return .null
    | some node => node.toValue

end ConversionTracking.Yaml
