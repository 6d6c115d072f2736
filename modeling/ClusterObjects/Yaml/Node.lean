import ClusterObjects.Yaml.Token

/-!
# Nodes of a YAML document

A document is a tree of scalars, sequences and mappings, with aliases among its leaves.
`Node.documents?` reads the trees of a token list, one for each document. An anchor is numbered by
the number of distinct names that come before it, and an alias holds the number of its anchor.
-/

namespace ClusterObjects.Yaml

structure Properties where
  anchor : Option Nat := none
  tag : Option String := none
  deriving DecidableEq, Repr

inductive Node where
  | scalar (properties : Properties) (plain : Bool) (text : String)
  | sequence (properties : Properties) (items : List Node)
  | mapping (properties : Properties) (entries : List (Node × Node))
  | reference (anchor : Nat)
  deriving Repr, Inhabited

namespace Node

def empty : Node := scalar {} true ""

/-- What is read from: the tokens left, the anchors named so far with their numbers, and the
expansions of tag handles. -/
structure Source where
  tokens : List Token
  anchors : List (String × Nat) := []
  handles : List (String × String) := []

abbrev Reader := StateT Source Option

namespace Reader

def peek : Reader Token := do
  match (← get).tokens with
  | token :: _ => return token
  | [] => failure

def advance : Reader Unit := modify fun source ↦ { source with tokens := source.tokens.drop 1 }

/-- The next token, when it is the given one, is taken. -/
def accept (token : Token) : Reader Bool := do
  if (← peek) = token then
    advance
    return true
  else return false

def defaultHandles : List (String × String) := [("!", "!"), ("!!", "tag:yaml.org,2002:")]

/-- The whole tag that a handle and a suffix stand for. -/
def resolveTag (handle suffix : String) : Reader String := do
  if handle.isEmpty then return suffix
  match ((← get).handles ++ defaultHandles).lookup handle with
  | some expansion => return expansion ++ suffix
  | none => failure

/-- Numbers an anchor. A name that comes again gets a new number. -/
def declare (name : String) : Reader Nat := do
  let anchors := (← get).anchors
  let others := anchors.filter (·.1 != name)
  modify fun source ↦ { source with anchors := (name, anchors.length) :: others }
  return anchors.length

def anchor? : Reader (Option String) := do
  match ← peek with
  | .anchor name =>
    advance
    return some name
  | _ => return none

def tag? : Reader (Option String) := do
  match ← peek with
  | .tag handle suffix =>
    advance
    return some (← resolveTag handle suffix)
  | _ => return none

/-- An anchor and a tag, each at most once, in either order. -/
def properties : Reader Properties := do
  let early ← anchor?
  let tag ← tag?
  let name ← if early.isNone && tag.isSome then anchor? else pure early
  return { anchor := ← name.mapM declare, tag }

def aliasOf (name : String) : Reader Node := do
  match (← get).anchors.lookup name with
  | some number => return reference number
  | none => failure

/-- Whether a token ends an entry of a block mapping. -/
def endsBlockEntry (token : Token) : Bool :=
  token == .key || token == .value || token == .blockEnd

mutual

/-- Reads a node. A block collection may stand only where `block` says so, and a sequence without
indentation of its own only as an entry of a mapping. -/
def node : (fuel : Nat) → (block indentless : Bool) → Reader Node
  | 0, _, _ => failure
  | fuel + 1, block, indentless => do
    if let .reference name ← peek then
      advance
      return ← aliasOf name
    let properties ← properties
    let bare : Reader Node :=
      if properties = {} then failure else return scalar properties true ""
    match ← peek with
    | .scalar plain text =>
      advance
      return scalar properties plain text
    | .flowSequence =>
      advance
      return sequence properties (← flowItems fuel true)
    | .flowMapping =>
      advance
      return mapping properties (← flowEntries fuel true)
    | .blockSequence =>
      if block then
        advance
        return sequence properties (← blockItems fuel)
      else bare
    | .blockMapping =>
      if block then
        advance
        return mapping properties (← blockEntries fuel)
      else bare
    | .blockEntry =>
      if indentless then return sequence properties (← indentlessItems fuel) else bare
    | _ => bare

/-- Reads a node, unless the next token shows that it is left out. -/
def nodeUnless : (fuel : Nat) → (absent : Token → Bool) → (block indentless : Bool) → Reader Node
  | 0, _, _, _ => failure
  | fuel + 1, absent, block, indentless => do
    if absent (← peek) then return empty else node fuel block indentless

def blockItems : (fuel : Nat) → Reader (List Node)
  | 0 => failure
  | fuel + 1 => do
    if ← accept .blockEntry then
      let item ← nodeUnless fuel (fun token ↦ token == .blockEntry || token == .blockEnd) true false
      return item :: (← blockItems fuel)
    else if ← accept .blockEnd then return []
    else failure

def indentlessItems : (fuel : Nat) → Reader (List Node)
  | 0 => failure
  | fuel + 1 => do
    if ← accept .blockEntry then
      let item ←
        nodeUnless fuel (fun token ↦ token == .blockEntry || endsBlockEntry token) true false
      return item :: (← indentlessItems fuel)
    else return []

def blockEntries : (fuel : Nat) → Reader (List (Node × Node))
  | 0 => failure
  | fuel + 1 => do
    if ← accept .key then
      let key ← nodeUnless fuel endsBlockEntry true true
      let value ←
        if ← accept .value then nodeUnless fuel endsBlockEntry true true else pure empty
      return (key, value) :: (← blockEntries fuel)
    else if ← accept .blockEnd then return []
    else failure

/-- Reads the items of a sequence in brackets. A key among them makes a mapping of one entry; when
that key is left out, the token in its place is passed over. -/
def flowItems : (fuel : Nat) → (first : Bool) → Reader (List Node)
  | 0, _ => failure
  | fuel + 1, first => do
    if ← accept .flowSequenceEnd then return []
    if !first then
      if !(← accept .flowEntry) then failure
      if ← accept .flowSequenceEnd then return []
    let item ←
      if ← accept .key then
        let ends (token : Token) : Bool := token == .flowEntry || token == .flowSequenceEnd
        let next ← peek
        let key ←
          if next == .value || ends next then do
            advance
            pure empty
          else node fuel false false
        let value ← if ← accept .value then nodeUnless fuel ends false false else pure empty
        pure (mapping {} [(key, value)])
      else node fuel false false
    return item :: (← flowItems fuel false)

def flowEntries : (fuel : Nat) → (first : Bool) → Reader (List (Node × Node))
  | 0, _ => failure
  | fuel + 1, first => do
    if ← accept .flowMappingEnd then return []
    if !first then
      if !(← accept .flowEntry) then failure
      if ← accept .flowMappingEnd then return []
    let ends (token : Token) : Bool := token == .flowEntry || token == .flowMappingEnd
    let entry ←
      if ← accept .key then
        let key ← nodeUnless fuel (fun token ↦ token == .value || ends token) false false
        let value ← if ← accept .value then nodeUnless fuel ends false false else pure empty
        pure (key, value)
      else pure (← node fuel false false, empty)
    return entry :: (← flowEntries fuel false)

end

/-- Reads the directives of a document: at most one version, 1.1 or 1.2, and each handle once. -/
def directives : (fuel : Nat) → (versioned : Bool) → Reader Unit
  | 0, _ => failure
  | fuel + 1, versioned => do
    match ← peek with
    | .version major minor =>
      if versioned || major != 1 || !(minor == 1 || minor == 2) then failure
      advance
      directives fuel true
    | .tagDirective handle expansion =>
      if ((← get).handles.lookup handle).isSome then failure
      advance
      modify fun source ↦ { source with handles := (handle, expansion) :: source.handles }
      directives fuel versioned
    | _ => return ()

def skipDocumentEnds : (fuel : Nat) → Reader Unit
  | 0 => return ()
  | fuel + 1 => do if ← accept .documentEnd then skipDocumentEnds fuel

/-- Whether a token stands between documents. -/
def endsDocument : Token → Bool
  | .version _ _ | .tagDirective _ _ | .documentStart | .documentEnd | .streamEnd => true
  | _ => false

/-- Reads the documents of a stream. Only the first one may do without a start mark, and an empty
stream is one empty document. -/
def documents : (fuel : Nat) → (first : Bool) → Reader (List Node)
  | 0, _ => failure
  | fuel + 1, first => do
    if !first then skipDocumentEnds fuel
    modify fun source ↦ { source with anchors := [], handles := [] }
    if (← peek) == .streamEnd then return if first then [empty] else []
    let next ← peek
    let implicit := first && (!endsDocument next || next == .documentEnd)
    let root ←
      if implicit then node fuel true false
      else
        directives fuel false
        if !(← accept .documentStart) then failure
        nodeUnless fuel endsDocument true false
    let _ ← accept .documentEnd
    return root :: (← documents fuel false)

end Reader

/-- The documents that a token list holds. Every token is passed by a bounded number of steps. -/
def documents? (tokens : List Token) : Option (List Node) :=
  ((Reader.documents (4 * tokens.length + 4) true).run { tokens }).map (·.1)

mutual

/-- The anchored nodes in the order of the text. -/
def anchored : Node → List (Nat × Node)
  | .scalar p plain text => (p.anchor.map fun n ↦ (n, .scalar p plain text)).toList
  | .sequence p items =>
    (p.anchor.map fun n ↦ (n, .sequence p items)).toList ++ itemsAnchored items
  | .mapping p entries =>
    (p.anchor.map fun n ↦ (n, .mapping p entries)).toList ++ entriesAnchored entries
  | .reference _ => []

def itemsAnchored : List Node → List (Nat × Node)
  | [] => []
  | item :: rest => anchored item ++ itemsAnchored rest

def entriesAnchored : List (Node × Node) → List (Nat × Node)
  | [] => []
  | (key, value) :: rest => anchored key ++ anchored value ++ entriesAnchored rest

end

mutual

/-- The number of marks a node is made of: one for a leaf, two for a collection. -/
def size : Node → Nat
  | .scalar _ _ _ | .reference _ => 1
  | .sequence _ items => 2 + itemsSize items
  | .mapping _ entries => 2 + entriesSize entries

def itemsSize : List Node → Nat
  | [] => 0
  | item :: rest => size item + itemsSize rest

def entriesSize : List (Node × Node) → Nat
  | [] => 0
  | (key, value) :: rest => size key + size value + entriesSize rest

end

/-- The node that an alias stands for: the last one with its number. -/
def target? (anchors : List (Nat × Node)) (number : Nat) : Option Node :=
  anchors.reverse.lookup number

end Node

end ClusterObjects.Yaml
