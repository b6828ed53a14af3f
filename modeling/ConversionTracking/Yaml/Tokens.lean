import ConversionTracking.Yaml.Block
import ConversionTracking.Yaml.Plain
import ConversionTracking.Yaml.Property

/-!
The tokens of a text. Whether a node is the key of an entry shows only at the colon after it, so the
places where a key may have started are remembered, and the token of the key is put there later.
-/

namespace ConversionTracking.Yaml

structure SimpleKey where
  flowLevel : Nat
  position : Nat
  isRequired : Bool
  index : Nat
  line : Nat
  column : Nat
deriving DecidableEq, Repr

def simpleKeyLimit : Nat := 1024

structure Lexer where
  cursor : Cursor
  tokens : Array Token
  indent : Int
  outerIndents : List Int
  flowLevel : Nat
  allowsKey : Bool
  keys : List SimpleKey
  isDone : Bool

abbrev Lex := StateT Lexer (Except Fault)

namespace Lex

def malformed {α : Type} : Lex α := throw .malformed

def emit (token : Token) : Lex Unit := modify fun lexer => { lexer with tokens := lexer.tokens.push token }

def insertAt (position : Nat) (token : Token) : Lex Unit :=
  modify fun lexer => { lexer with tokens := lexer.tokens.insertIdxIfInBounds position token }

def scan {α : Type} (action : Scan α) : Lex α := do
  let (value, cursor) ← action.run (← get).cursor
  modify fun lexer => { lexer with cursor }
  return value

def setAllowsKey (allowsKey : Bool) : Lex Unit := modify fun lexer => { lexer with allowsKey }

def inFlow : Lex Bool := return (← get).flowLevel != 0

def column : Lex Int := return ((← get).cursor.column : Int)

/-- Forgets the keys that can no longer be simple: those on earlier lines and those too far back. -/
def dropStaleKeys : Lex Unit := do
  let lexer ← get
  let isStale (key : SimpleKey) : Bool :=
    key.line != lexer.cursor.line || lexer.cursor.index - key.index > simpleKeyLimit
  if lexer.keys.any fun key => isStale key && key.isRequired then malformed
  else set { lexer with keys := lexer.keys.filter (!isStale ·) }

def dropKey : Lex Unit := do
  let lexer ← get
  if lexer.keys.any fun key => key.flowLevel == lexer.flowLevel && key.isRequired then malformed
  else set { lexer with keys := lexer.keys.filter (·.flowLevel != lexer.flowLevel) }

def saveKey : Lex Unit := do
  if (← get).allowsKey then
    let isRequired := (← get).flowLevel == 0 && (← get).indent == (← column)
    dropKey
    modify fun lexer =>
      let key : SimpleKey :=
        { flowLevel := lexer.flowLevel
          position := lexer.tokens.size
          isRequired
          index := lexer.cursor.index
          line := lexer.cursor.line
          column := lexer.cursor.column }
      { lexer with keys := key :: lexer.keys }

private def closeBlocks (column : Int) (indent : Int) (tokens : Array Token) :
    List Int → Int × List Int × Array Token
  | [] => (indent, [], tokens)
  | outer :: rest =>
      if column < indent then closeBlocks column outer (tokens.push .blockEnd) rest
      else (indent, outer :: rest, tokens)

def unwind (column : Int) : Lex Unit := do
  if !(← inFlow) then
    modify fun lexer =>
      let (indent, outerIndents, tokens) :=
        closeBlocks column lexer.indent lexer.tokens lexer.outerIndents
      { lexer with indent, outerIndents, tokens }

def indentTo (column : Int) : Lex Bool := do
  let lexer ← get
  if lexer.indent < column then
    set { lexer with indent := column, outerIndents := lexer.indent :: lexer.outerIndents }
    return true
  else return false

def emitMark (length : Nat) (token : Token) : Lex Unit := do
  scan (Scan.skip length)
  emit token

def streamEnd : Lex Unit := do
  unwind (-1)
  dropKey
  modify fun lexer => { lexer with allowsKey := false, keys := [], isDone := true }
  emit .streamEnd

def directive : Lex Unit := do
  unwind (-1)
  dropKey
  setAllowsKey false
  emit (.directive (← scan Property.directive))

def documentMark (token : Token) : Lex Unit := do
  unwind (-1)
  dropKey
  setAllowsKey false
  emitMark 3 token

def flowStart (token : Token) : Lex Unit := do
  saveKey
  modify fun lexer => { lexer with flowLevel := lexer.flowLevel + 1, allowsKey := true }
  emitMark 1 token

def flowEnd (token : Token) : Lex Unit := do
  dropKey
  modify fun lexer => { lexer with flowLevel := lexer.flowLevel - 1, allowsKey := false }
  emitMark 1 token

def flowEntry : Lex Unit := do
  setAllowsKey true
  dropKey
  emitMark 1 .flowEntry

def startBlock (token : Token) : Lex Unit := do
  if !(← inFlow) then
    if !(← get).allowsKey then malformed
    else if ← indentTo (← column) then emit token

def blockEntry : Lex Unit := do
  startBlock .blockSequenceStart
  setAllowsKey true
  dropKey
  emitMark 1 .blockEntry

def explicitKey : Lex Unit := do
  startBlock .blockMappingStart
  setAllowsKey !(← inFlow)
  dropKey
  emitMark 1 .key

/-- The value of an entry. When its key may have started at a place on this line, the key is put
there. -/
def value : Lex Unit := do
  let lexer ← get
  match lexer.keys.find? (·.flowLevel == lexer.flowLevel) with
  | some key =>
      modify fun lexer =>
        { lexer with keys := lexer.keys.filter (·.flowLevel != lexer.flowLevel) }
      insertAt key.position .key
      if !(← inFlow) then
        if ← indentTo key.column then insertAt key.position .blockMappingStart
      setAllowsKey false
  | none =>
      startBlock .blockMappingStart
      setAllowsKey !(← inFlow)
      dropKey
  emitMark 1 .value

def keyed (action : Scan Token) : Lex Unit := do
  saveKey
  setAllowsKey false
  emit (← scan action)

def blockScalar (isFolded : Bool) : Lex Unit := do
  setAllowsKey true
  dropKey
  let text ← scan (Block.scan isFolded (← get).indent)
  emit (.scalar text false)

def plainScalar : Lex Unit := do
  saveKey
  let (text, afterBreak) ← scan (Plain.scan (← inFlow) ((← get).indent + 1))
  setAllowsKey afterBreak
  emit (.scalar text true)

private def indicators : List Char := "-?:,[]#&*!|>'\"%@\x60\x7b\x7d".toList

def startsPlain (inFlow : Bool) (first : Char) (second : Option Char) : Bool :=
  !(endsWord (some first) || indicators.contains first)
    || (!endsWord second && (first == '-' || (!inFlow && (first == '?' || first == ':'))))

/-- The token that starts with the next character, which stands after blanks and comments. -/
def token (first : Char) : Lex Unit := do
  let inFlow ← inFlow
  let atLineStart := (← get).cursor.column == 0
  let rest := (← get).cursor.rest
  let second := rest[1]?
  if first == '%' && atLineStart then directive
  else if first == '-' && atLineStart && separatesDocuments rest then documentMark .documentStart
  else if first == '.' && atLineStart && separatesDocuments rest then documentMark .documentEnd
  else if first == '[' then flowStart .flowSequenceStart
  else if first == '\x7b' then flowStart .flowMappingStart
  else if first == ']' then flowEnd .flowSequenceEnd
  else if first == '\x7d' then flowEnd .flowMappingEnd
  else if first == ',' then flowEntry
  else if first == '-' && endsWord second then blockEntry
  else if first == '?' && (inFlow || endsWord second) then explicitKey
  else if first == ':' && (inFlow || endsWord second) then value
  else if first == '*' then keyed (return .alias (← Property.anchorName))
  else if first == '&' then keyed (return .anchor (← Property.anchorName))
  else if first == '!' then keyed (return .tag (← Property.tag))
  else if first == '|' && !inFlow then blockScalar false
  else if first == '>' && !inFlow then blockScalar true
  else if first == '\'' then keyed (return .scalar (← Quoted.scan false) false)
  else if first == '"' then keyed (return .scalar (← Quoted.scan true) false)
  else if startsPlain inFlow first second then plainScalar
  else malformed

/-- Passes over blanks, comments and line breaks. Outside flow collections a key may start on a new
line. -/
def skipToToken : Nat → Lex Unit
  | 0 => malformed
  | fuel + 1 => do
      scan do
        Scan.skipWhile (· == ' ')
        Scan.skipComment
      match ← scan Scan.lineBreak? with
      | none => return ()
      | some _ =>
          if !(← inFlow) then setAllowsKey true
          skipToToken fuel

def step : Lex Unit := do
  skipToToken ((← get).cursor.rest.length + 1)
  dropStaleKeys
  unwind (← column)
  match (← get).cursor.rest with
  | [] => streamEnd
  | first :: _ => token first

end Lex

structure Tokens where
  tokens : List Token
  fault : Option Fault

namespace Tokens

def settled (lexer : Lexer) : List Token :=
  let positions := lexer.keys.map (·.position)
  lexer.tokens.toList.take (positions.foldl min lexer.tokens.size)

def collect : Nat → Lexer → Tokens
  | 0, lexer => ⟨settled lexer, some .malformed⟩
  | fuel + 1, lexer =>
      if lexer.isDone then ⟨lexer.tokens.toList, none⟩
      else
        match Lex.step.run lexer with
        | .ok (_, after) => collect fuel after
        | .error fault => ⟨settled lexer, some fault⟩

private def startOf (chars : List Char) : Cursor :=
  let cursor := Cursor.start chars
  if chars.head? == some byteOrderMark then cursor.next else cursor

def ofChars (chars : List Char) : Tokens :=
  collect (chars.length + 2)
    { cursor := startOf chars
      tokens := #[]
      indent := -1
      outerIndents := []
      flowLevel := 0
      allowsKey := true
      keys := []
      isDone := false }

end Tokens

end ConversionTracking.Yaml
