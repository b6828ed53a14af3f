import ConversionTracking.Yaml.Resolution
import ConversionTracking.Yaml.Tokens

/-!
The nodes of a document: scalars with their tags, and collections of nodes. Aliases are replaced by
the nodes that they name, except for an alias within the collection that it names.
-/

namespace ConversionTracking.Yaml

inductive Node where
  | scalar (tag : String) (text : String)
  | sequence (tag : String) (items : List Node)
  | mapping (tag : String) (entries : List (Node × Node))
  | recurring (tag : String)
deriving Inhabited

namespace Node

def tag : Node → String
  | .scalar tag _ | .sequence tag _ | .mapping tag _ | .recurring tag => tag

end Node

structure Composer where
  tokens : List Token
  fault : Fault
  anchors : List (String × Node)
  handles : List (String × String)

abbrev Compose := StateT Composer (Except Fault)

namespace Compose

def malformed {α : Type} : Compose α := throw .malformed

def peek : Compose Token := do
  match (← get).tokens with
  | token :: _ => return token
  | [] => throw (← get).fault

def drop : Compose Unit := modify fun composer => { composer with tokens := composer.tokens.tail }

def isNext (tokens : List Token) : Compose Bool := return tokens.contains (← peek)

def kindTag (kind : Kind) : String := Kind.tagStart ++ kind.word

def emptyScalar : Node := .scalar (kindTag .null) ""

structure Properties where
  anchor : Option String
  tag : Option WrittenTag

def anchor? : Compose (Option String) := do
  match ← peek with
  | .anchor name =>
      drop
      return some name
  | _ => return none

def tag? : Compose (Option WrittenTag) := do
  match ← peek with
  | .tag tag =>
      drop
      return some tag
  | _ => return none

def properties : Compose Properties := do
  match ← anchor? with
  | some name => return ⟨some name, ← tag?⟩
  | none =>
      match ← tag? with
      | some tag => return ⟨← anchor?, some tag⟩
      | none => return ⟨none, none⟩

def fullTag (written : WrittenTag) : Compose String := do
  match written.handle with
  | none => return written.suffix
  | some handle =>
      match (← get).handles.lookup handle with
      | some expansion => return expansion ++ written.suffix
      | none => malformed

def remember (anchor : Option String) (node : Node) : Compose Unit := do
  match anchor with
  | none => return ()
  | some name => modify fun composer => { composer with anchors := (name, node) :: composer.anchors }

def checkAnchor (anchor : Option String) : Compose Unit := do
  match anchor with
  | none => return ()
  | some name => if ((← get).anchors.lookup name).isSome then malformed

def isUntagged (tag : Option String) : Bool := tag.isNone || tag == some "!"

def scalarNode (tag : Option String) (text : String) (isPlain : Bool) : Node :=
  match tag with
  | none => .scalar (kindTag (if isPlain then Resolution.kindOf text else .text)) text
  | some "!" => .scalar (kindTag (Resolution.kindOf text)) text
  | some tag => .scalar tag text

def collectionTag (tag : Option String) (kind : Kind) : String :=
  if isUntagged tag then kindTag kind else tag.getD ""

inductive Place where
  | flow
  | block
  | entry
deriving DecidableEq, Repr

def comma (isFirst : Bool) : Compose Unit := do
  if isFirst then return ()
  else
    match ← peek with
    | .flowEntry => drop
    | _ => malformed

mutual

def node (place : Place) : Nat → Compose Node
  | 0 => malformed
  | fuel + 1 => do
      match ← peek with
      | .alias name =>
          drop
          match (← get).anchors.lookup name with
          | some node => return node
          | none => malformed
      | _ =>
          let written ← properties
          let tag ←
            match written.tag with
            | some tag => pure (some (← fullTag tag))
            | none => pure none
          content place written.anchor tag fuel

/-- The content after the properties. A collection is known by its anchor from its start on, and
recurs where it is named before its end. -/
def content (place : Place) (anchor tag : Option String) : Nat → Compose Node
  | 0 => malformed
  | fuel + 1 => do
      let sequence (items : Compose (List Node)) : Compose Node := do
        let tag := collectionTag tag .sequence
        checkAnchor anchor
        remember anchor (.recurring tag)
        let node := Node.sequence tag (← items)
        remember anchor node
        return node
      let mapping (entries : Compose (List (Node × Node))) : Compose Node := do
        let tag := collectionTag tag .mapping
        checkAnchor anchor
        remember anchor (.recurring tag)
        let node := Node.mapping tag (← entries)
        remember anchor node
        return node
      let scalar (node : Node) : Compose Node := do
        checkAnchor anchor
        remember anchor node
        return node
      match ← peek with
      | .blockEntry =>
          if place = .entry then sequence (looseEntries fuel)
          else if anchor.isSome || tag.isSome then scalar (scalarNode tag "" true)
          else malformed
      | .scalar text isPlain =>
          drop
          scalar (scalarNode tag text isPlain)
      | .flowSequenceStart =>
          drop
          sequence (flowItems true fuel)
      | .flowMappingStart =>
          drop
          mapping (flowEntries true fuel)
      | .blockSequenceStart =>
          if place = .flow then malformed
          else
            drop
            sequence (blockItems fuel)
      | .blockMappingStart =>
          if place = .flow then malformed
          else
            drop
            mapping (blockEntries fuel)
      | _ =>
          if anchor.isSome || tag.isSome then scalar (scalarNode tag "" true) else malformed

def blockItems : Nat → Compose (List Node)
  | 0 => malformed
  | fuel + 1 => do
      match ← peek with
      | .blockEntry =>
          drop
          let item ←
            if ← isNext [.blockEntry, .blockEnd] then pure emptyScalar else node .block fuel
          return item :: (← blockItems fuel)
      | .blockEnd =>
          drop
          return []
      | _ => malformed

def looseEntries : Nat → Compose (List Node)
  | 0 => malformed
  | fuel + 1 => do
      match ← peek with
      | .blockEntry =>
          drop
          let item ←
            if ← isNext [.blockEntry, .key, .value, .blockEnd] then pure emptyScalar
            else node .block fuel
          return item :: (← looseEntries fuel)
      | _ => return []

def blockValue : Nat → Compose Node
  | 0 => malformed
  | fuel + 1 => do
      match ← peek with
      | .value =>
          drop
          if ← isNext [.key, .value, .blockEnd] then return emptyScalar else node .entry fuel
      | _ => return emptyScalar

def blockEntries : Nat → Compose (List (Node × Node))
  | 0 => malformed
  | fuel + 1 => do
      match ← peek with
      | .key =>
          drop
          let key ←
            if ← isNext [.key, .value, .blockEnd] then pure emptyScalar else node .entry fuel
          let value ← blockValue fuel
          return (key, value) :: (← blockEntries fuel)
      | .blockEnd =>
          drop
          return []
      | _ => malformed

def flowValue (close : Token) : Nat → Compose Node
  | 0 => malformed
  | fuel + 1 => do
      match ← peek with
      | .value =>
          drop
          if ← isNext [.flowEntry, close] then return emptyScalar else node .flow fuel
      | _ => return emptyScalar

def flowPair (close : Token) : Nat → Compose (Node × Node)
  | 0 => malformed
  | fuel + 1 => do
      let key ←
        if ← isNext [.value, .flowEntry, close] then pure emptyScalar else node .flow fuel
      return (key, ← flowValue close fuel)

/-- The items of a flow sequence up to its end. An entry with a key is a mapping of its own. -/
def flowItems (isFirst : Bool) : Nat → Compose (List Node)
  | 0 => malformed
  | fuel + 1 => do
      if ← isNext [.flowSequenceEnd] then
        drop
        return []
      else
        comma isFirst
        match ← peek with
        | .key =>
            drop
            let entry ← flowPair .flowSequenceEnd fuel
            return .mapping (kindTag .mapping) [entry] :: (← flowItems false fuel)
        | .flowSequenceEnd =>
            drop
            return []
        | _ =>
            let item ← node .flow fuel
            return item :: (← flowItems false fuel)

def flowEntries (isFirst : Bool) : Nat → Compose (List (Node × Node))
  | 0 => malformed
  | fuel + 1 => do
      if ← isNext [.flowMappingEnd] then
        drop
        return []
      else
        comma isFirst
        match ← peek with
        | .key =>
            drop
            let entry ← flowPair .flowMappingEnd fuel
            return entry :: (← flowEntries false fuel)
        | .flowMappingEnd =>
            drop
            return []
        | _ =>
            let key ← node .flow fuel
            return (key, emptyScalar) :: (← flowEntries false fuel)

end

def commonHandles : List (String × String) := [("!", "!"), ("!!", Kind.tagStart)]

/-- The directives before a document: at most one version, which has to be the first, and at most one
meaning for every handle. -/
def directives (seenVersion : Bool) (handles : List (String × String)) : Nat → Compose Unit
  | 0 => malformed
  | fuel + 1 => do
      match ← peek with
      | .directive (.version major) =>
          drop
          if seenVersion || major ≠ 1 then malformed else directives true handles fuel
      | .directive (.tagHandle handle expansion) =>
          drop
          if (handles.lookup handle).isSome then malformed
          else directives seenVersion ((handle, expansion) :: handles) fuel
      | .directive .other =>
          drop
          directives seenVersion handles fuel
      | _ => modify fun composer => { composer with handles := handles ++ commonHandles }

def finish : Nat → Compose Unit
  | 0 => malformed
  | fuel + 1 => do
      match ← peek with
      | .documentEnd =>
          drop
          finish fuel
      | .streamEnd => return ()
      | _ => malformed

def document (fuel : Nat) : Compose (Option Node) := do
  match ← peek with
  | .streamEnd => return none
  | .directive _ | .documentStart =>
      directives false [] fuel
      match ← peek with
      | .documentStart =>
          drop
          let root ←
            match ← peek with
            | .directive _ | .documentStart | .documentEnd | .streamEnd => pure emptyScalar
            | _ => node .block fuel
          finish fuel
          return some root
      | _ => malformed
  | _ =>
      let root ← node .block fuel
      finish fuel
      return some root

end Compose

def Node.ofTokens (tokens : Tokens) : Except Fault (Option Node) :=
  let composer : Composer :=
    { tokens := tokens.tokens
      fault := tokens.fault.getD .malformed
      anchors := []
      handles := Compose.commonHandles }
  (Compose.document (4 * tokens.tokens.length + 8) |>.run composer).map Prod.fst

end ConversionTracking.Yaml
