import TagDoc.Yaml.Resolve
import TagDoc.Yaml.TokenStream

/-!
# Nodes

The tree of a text in YAML: scalars, sequences and mappings, each with its type. A node can be named and used
again under its name; the tree holds it at each place. Where a collection is used within itself, the tree only has a
leaf that tells its type and its kind.

The tokens are read from the first to the last, and a name is looked up when it is met, so of several faults
the first one is told. Collections are read by calls in calls, so they may stand in each other to a depth only.

## Main definitions

* `Yaml.Node`
* `Yaml.Node.ofTokens?`: the node of a text that holds one document, or none if the text holds no document
-/

namespace TagDoc.Yaml

/-- A node with its type and the place where it starts. -/
inductive Node where
  | scalar (tag : NodeTag) (content : List Nat) (start : Mark)
  | sequence (tag : NodeTag) (items : List Node) (start : Mark)
  | mapping (tag : NodeTag) (entries : List (Node × Node)) (start : Mark)
  | again (tag : NodeTag) (kind : Collection) (start : Mark)
  deriving Repr, Inhabited

/-- The type of a node. -/
def Node.tag : Node → NodeTag
  | scalar tag .. | sequence tag .. | mapping tag .. | again tag .. => tag

/-- The place where a node starts. -/
def Node.start : Node → Mark
  | scalar _ _ m | sequence _ _ m | mapping _ _ m | again _ _ m => m

/-- What a node is called in messages. -/
def Node.kindName : Node → String
  | scalar .. => "scalar"
  | sequence .. | again _ .list _ => "sequence"
  | mapping .. | again _ .map _ => "mapping"

/-- What is known at some place of the tokens: those to come, the handles for tags, the nodes with names, and how many
collections may be opened in those that are open. -/
structure Reader where
  stream : TokenStream
  handles : List (Text × Text)
  named : List (Text × Node)
  room : Nat

/-- A step of the reading. -/
abbrev Read := StateT Reader (Except Fault)

namespace Read

/-- A fault in the order of the tokens. -/
def fail {α : Type} (reason : String) : Read α := throw (.stage .tree reason)

/-- The next token; where there is none, the fault that ended the tokens. -/
def peek : Read Token := do
  let r ← get
  match r.stream.tokens with
  | t :: _ => pure t
  | [] => throw (r.stream.fault.getD (.stage .tree "the tokens have come to an end"))

/-- The kind of the next token. -/
def kind : Read TokenKind := do return (← peek).kind

/-- Takes the next token. -/
def next : Read Token := do
  let t ← peek
  modify fun r => { r with stream := { r.stream with tokens := r.stream.tokens.tail } }
  pure t

/-- Takes the next token if it is of a kind. -/
def takeIf (k : TokenKind) : Read Bool := do
  if (← kind) = k then
    discard next
    pure true
  else pure false

/-- Whether the next token is one of some kinds. -/
def isOneOf (ks : List TokenKind) : Read Bool := do return ks.contains (← kind)

/-- A node that is not written: null. -/
def emptyNode : Read Node := do return .scalar (plainTag []) [] (← peek).start

/-- The properties in front of a node: its name and its tag, and where they start. -/
structure Properties where
  anchor : Option Text
  tag : Option TagText
  start : Option Mark

/-- Takes an anchor. -/
def takeAnchor? : Read (Option (Text × Mark)) := do
  let t ← peek
  match t.kind with
  | .anchor name => do
    discard next
    return some (name, t.start)
  | _ => return none

/-- Takes a tag. -/
def takeTag? : Read (Option (TagText × Mark)) := do
  let t ← peek
  match t.kind with
  | .tag text => do
    discard next
    return some (text, t.start)
  | _ => return none

/-- Takes the name and the tag of a node, in any order. -/
def properties : Read Properties := do
  match ← takeAnchor? with
  | some (name, start) => do
    let tag ← takeTag?
    return ⟨some name, tag.map (·.1), some start⟩
  | none =>
    match ← takeTag? with
    | some (tag, start) => do
      let anchor ← takeAnchor?
      return ⟨anchor.map (·.1), some tag, some start⟩
    | none => return ⟨none, none, none⟩

/-- The full name of a tag. -/
def tagName (tag : TagText) : Read Text := do
  match tag.handle with
  | none => return tag.suffix
  | some handle =>
    match (← get).handles.lookup handle with
    | some start => return start ++ tag.suffix
    | none => fail "found undefined tag handle"

/-- Refuses a name that is in use. -/
def checkName (anchor : Option Text) : Read Unit := do
  match anchor with
  | some name =>
    if ((← get).named.lookup name).isSome then throw (.stage .names "found duplicate anchor")
  | none => pure ()

/-- Gives a name to a node. -/
def define (anchor : Option Text) (node : Node) : Read Unit :=
  match anchor with
  | some name => modify fun r => { r with named := (name, node) :: r.named }
  | none => pure ()

/-- The node of a name. -/
def resolve (name : Text) : Read Node := do
  match (← get).named.lookup name with
  | some node => pure node
  | none => throw (.stage .names "found undefined alias")

/-- The type of a node with a tag, where a tag that is a mere sign counts as none. -/
def typeOr (default : NodeTag) (tag : Option Text) : NodeTag :=
  match tag with
  | none | some ['!'] => default
  | some name => .ofName name

/-- The type of a scalar: the one of its tag, or else of its form if it is plain, and text if it is not. -/
def scalarType (plain : Bool) (content : List Nat) (tag : Option Text) : NodeTag :=
  let isSign := tag = some ['!']
  let form := if plain ∨ isSign then plainTag (Text.ofPoints content) else .str
  if tag.isNone ∨ isSign then form else typeOr .str tag

/-- Reads what is in a collection, if there is room for one more. -/
def inside {α : Type} (content : Read α) : Read α := do
  let room := (← get).room
  if room = 0 then throw .tooDeep
  modify fun r => { r with room := room - 1 }
  let a ← content
  modify fun r => { r with room }
  pure a

/-- Gives a name to a collection, with what it is within its own content and what it is behind that. -/
def collection (p : Properties) (within : Node) (content : Read Node) : Read Node := do
  checkName p.anchor
  define p.anchor within
  let node ← inside content
  define p.anchor node
  pure node

/-- Reads a sequence with the properties and the tag that stand before it. -/
def sequence (p : Properties) (tag : Option Text) (start : Mark) (items : Read (List Node)) : Read Node :=
  let tag := typeOr .seq tag
  collection p (.again tag .list start) do return .sequence tag (← items) start

/-- Reads a mapping with the properties and the tag that stand before it. -/
def mapping (p : Properties) (tag : Option Text) (start : Mark) (entries : Read (List (Node × Node))) : Read Node :=
  let tag := typeOr .map tag
  collection p (.again tag .map start) do return .mapping tag (← entries) start

/-- What may stand at a place: a block collection, and a sequence without an indentation of its own. -/
inductive Place where
  | flow
  | block
  | blockOrPlainSequence
  deriving DecidableEq

mutual

/-- Reads a node. -/
def node : (fuel : Nat) → Place → Read Node
  | 0, _ => fail "the tokens have come to an end"
  | fuel + 1, place => do
    let t ← peek
    match t.kind with
    | .alias name => do
      discard next
      resolve name
    | _ => do
      let p ← properties
      let tag ← p.tag.mapM tagName
      let t ← peek
      let start := p.start.getD t.start
      match t.kind with
      | .scalar plain content => do
        discard next
        checkName p.anchor
        -- The form of a scalar counts only where no tag tells the type.
        let isPlain := plain ∧ tag.isNone
        let node := Node.scalar (scalarType isPlain content tag) content start
        define p.anchor node
        pure node
      | .flowSequenceStart => do
        discard next
        sequence p tag start (flowItems fuel true)
      | .flowMappingStart => do
        discard next
        mapping p tag start (flowEntries fuel true)
      | kind =>
        if kind = .blockEntry ∧ place = .blockOrPlainSequence then
          sequence p tag start (plainItems fuel)
        else if kind = .blockSequenceStart ∧ place ≠ .flow then do
          discard next
          sequence p tag start (blockItems fuel)
        else if kind = .blockMappingStart ∧ place ≠ .flow then do
          discard next
          mapping p tag start (blockEntries fuel)
        else if p.anchor.isSome ∨ tag.isSome then do
          checkName p.anchor
          let node := Node.scalar (scalarType tag.isNone [] tag) [] start
          define p.anchor node
          pure node
        else fail "expected the node content"

/-- Reads a node, unless one of some tokens comes first, which leave it empty. -/
def nodeUnless : (fuel : Nat) → Place → List TokenKind → Read Node
  | 0, _, _ => fail "the tokens have come to an end"
  | fuel + 1, place, ends => do
    if ← isOneOf ends then emptyNode else node fuel place

/-- Reads the items of a block sequence. -/
def blockItems : (fuel : Nat) → Read (List Node)
  | 0 => fail "the tokens have come to an end"
  | fuel + 1 => do
    if ← takeIf .blockEntry then
      let item ← nodeUnless fuel .block [.blockEntry, .blockEnd]
      return item :: (← blockItems fuel)
    else if ← takeIf .blockEnd then return []
    else fail "expected <block end>"

/-- Reads the items of a sequence without an indentation of its own. -/
def plainItems : (fuel : Nat) → Read (List Node)
  | 0 => fail "the tokens have come to an end"
  | fuel + 1 => do
    if ← takeIf .blockEntry then
      let item ← nodeUnless fuel .block [.blockEntry, .key, .value, .blockEnd]
      return item :: (← plainItems fuel)
    else return []

/-- Reads the entries of a block mapping. -/
def blockEntries : (fuel : Nat) → Read (List (Node × Node))
  | 0 => fail "the tokens have come to an end"
  | fuel + 1 => do
    if ← takeIf .key then
      let key ← nodeUnless fuel .blockOrPlainSequence [.key, .value, .blockEnd]
      let value ←
        if ← takeIf .value then nodeUnless fuel .blockOrPlainSequence [.key, .value, .blockEnd]
        else emptyNode
      return (key, value) :: (← blockEntries fuel)
    else if ← takeIf .blockEnd then return []
    else fail "expected <block end>"

/-- Reads the items of a flow sequence. An item with a sign for a key is a mapping of one entry. -/
def flowItems : (fuel : Nat) → (first : Bool) → Read (List Node)
  | 0, _ => fail "the tokens have come to an end"
  | fuel + 1, first => do
    if ← takeIf .flowSequenceEnd then return []
    if !first then
      if !(← takeIf .flowEntry) then fail "expected ',' or ']'"
    if (← kind) = .key then
      let start := (← next).start
      let pair ← inside do
        let key ← nodeUnless fuel .flow [.value, .flowEntry, .flowSequenceEnd]
        let value ←
          if ← takeIf .value then nodeUnless fuel .flow [.flowEntry, .flowSequenceEnd]
          else emptyNode
        return (key, value)
      return .mapping .map [pair] start :: (← flowItems fuel false)
    else if ← takeIf .flowSequenceEnd then return []
    else
      let item ← node fuel .flow
      return item :: (← flowItems fuel false)

/-- Reads the entries of a flow mapping. An item without a colon is a key without a value. -/
def flowEntries : (fuel : Nat) → (first : Bool) → Read (List (Node × Node))
  | 0, _ => fail "the tokens have come to an end"
  | fuel + 1, first => do
    if ← takeIf .flowMappingEnd then return []
    if !first then
      if !(← takeIf .flowEntry) then fail "expected ',' or '\x7d'"
    if ← takeIf .key then
      let key ← nodeUnless fuel .flow [.value, .flowEntry, .flowMappingEnd]
      let value ←
        if ← takeIf .value then nodeUnless fuel .flow [.flowEntry, .flowMappingEnd]
        else emptyNode
      return (key, value) :: (← flowEntries fuel false)
    else if ← takeIf .flowMappingEnd then return []
    else
      let key ← node fuel .flow
      let value ← emptyNode
      return (key, value) :: (← flowEntries fuel false)

end

/-- The handles that need no directive. -/
def standardHandles : List (Text × Text) := [(['!'], ['!']), (['!', '!'], standardStart)]

/-- Reads the directives at the head of a document: at most one for the version, which is 1, and at most one
for each handle. -/
def directives (versionSeen : Bool) : (fuel : Nat) → Read Unit
  | 0 => pure ()
  | fuel + 1 => do
    match (← peek).kind with
    | .directive (.version major _) => do
      discard next
      if versionSeen then fail "found duplicate YAML directive"
      if major ≠ 1 then fail "found incompatible YAML document"
      directives true fuel
    | .directive (.handle name start) => do
      discard next
      if ((← get).handles.lookup name).isSome then fail "duplicate tag handle"
      modify fun r => { r with handles := (name, start) :: r.handles }
      directives versionSeen fuel
    | .directive .other => do
      discard next
      directives versionSeen fuel
    | _ => pure ()

/-- Skips the tokens that end documents. -/
def skipDocumentEnds : (fuel : Nat) → Read Unit
  | 0 => pure ()
  | fuel + 1 => do
    if ← takeIf .documentEnd then skipDocumentEnds fuel

/-- Reads what comes before a document with a head of its own; the answer tells whether there is one. -/
def documentHead (fuel : Nat) : Read Bool := do
  skipDocumentEnds fuel
  if (← kind) = .streamEnd then return false
  modify fun r => { r with handles := [] }
  directives false fuel
  modify fun r => { r with handles := r.handles ++ standardHandles }
  if ← takeIf .documentStart then return true
  fail "expected '<document start>'"

/-- Whether a token is a directive. -/
def isDirective : TokenKind → Bool
  | .directive _ => true
  | _ => false

/-- Reads the document of a text that holds one or none. -/
def document (fuel : Nat) : Read (Option Node) := do
  let first ← kind
  let hasHead := isDirective first || first == .documentStart || first == .streamEnd
  let isThere ← if hasHead then documentHead fuel else pure true
  if !isThere then return none
  let second ← kind
  let isEmpty := hasHead &&
    (isDirective second || [.documentStart, .documentEnd, .streamEnd].contains second)
  let root ← if isEmpty then emptyNode else node fuel .block
  discard (takeIf .documentEnd)
  if ← documentHead fuel then throw (.stage .names "expected a single document in the stream")
  return some root

end Read

/-- The node of a text that holds one document, or none if it holds no document; collections may stand in each other to a
depth. Every step of the reading either takes a token or goes one step into a node, so the number of tokens bounds them. -/
def Node.ofTokens? (depth : Nat) (stream : TokenStream) : Except Fault (Option Node) :=
  (Read.document (4 * stream.tokens.length + 8)).run' ⟨stream, Read.standardHandles, [], depth⟩

end TagDoc.Yaml
