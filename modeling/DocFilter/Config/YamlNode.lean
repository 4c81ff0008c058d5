import DocFilter.Config.YamlToken

/-!
# YAML nodes

The nodes that the tokens of a YAML document spell. Each has a number, by which the lists and
mappings that it is a part of refer to it. An anchor names the node after it, and a reference is
that very node again, even inside itself. A tag says what kind of value a node is; without one the
form of the node does.
-/

namespace DocFilter

namespace Yaml

/-- The tag of a node: given by name, or left to the form of the node, for a text with whether it
may be more than a text. -/
inductive Tag where
  | given (name : String)
  | byForm (isPlain : Bool)
deriving DecidableEq

/-- A node: a text, a list, or a list of keys with values, with its tag. Parts are given by their
numbers. -/
inductive Node where
  | scalar (tag : Tag) (text : String)
  | sequence (tag : Tag) (items : List Nat)
  | mapping (tag : Tag) (pairs : List (Nat × Nat))

def Node.absent : Node := .scalar (.byForm true) ""

/-- The nodes of a document, each at its number. -/
abbrev Graph := Array Node

def Graph.node (g : Graph) (id : Nat) : Node := (g[id]?).getD .absent

def Graph.put (g : Graph) (id : Nat) (n : Node) : Graph := g.setIfInBounds id n

/-- The tokens left, the fault that ended the scan after them, the nodes read so far, the numbers of
those that have names, and what the handles in tags stand for. -/
structure Reader where
  tokens : List Token
  fault : Option Fault
  nodes : Graph
  anchors : List (String × Nat)
  handles : List (String × String)

/-- What handles in tags stand for unless a directive says otherwise. -/
def usualHandles : List (String × String) := [("!", "!"), ("!!", "tag:yaml.org,2002:")]

/-- A part of the reading. Its state outlives a fault. -/
abbrev Parse := ExceptT Fault (StateM Reader)

namespace Parse

def refuse {α : Type} (explanation : String) : Parse α := throw (.malformed explanation)

/-- The next token. A fault of the scan counts when the tokens before it are used up. -/
def peek : Parse (Option Token) := do
  let r ← get
  match r.tokens, r.fault with
  | [], some fault => throw fault
  | ts, _ => return ts.head?

def drop : Parse Unit := modify fun r => { r with tokens := r.tokens.drop 1 }

/-- Takes a token if it comes next, and says whether it did. -/
def took (t : Token) : Parse Bool := do
  if (← peek) == some t then
    drop
    return true
  else return false

def expect (t : Token) (message : String) : Parse Unit := do
  if !(← took t) then refuse message

def isAt (ts : List Token) : Parse Bool := return (← peek).any ts.contains

def anchor? : Parse (Option String) := do
  match ← peek with
  | some (.anchor name) =>
    drop
    return some name
  | _ => return none

/-- Takes a tag, if one comes next, as its full name. -/
def tag? : Parse (Option String) := do
  match ← peek with
  | some (.tag handle suffix) =>
    drop
    match handle with
    | none => return some suffix
    | some handle =>
      match (← get).handles.lookup handle with
      | some start => return some (start ++ suffix)
      | none => refuse s!"found undefined tag handle '{handle}'"
  | _ => return none

def formTag (tag : Option String) : Tag :=
  match tag with
  | some "!" | none => .byForm false
  | some name => .given name

/-- The tag of a text, which may be more than one if it is plain or its tag says so. -/
def textTag (tag : Option String) (isPlain : Bool) : Tag :=
  match tag with
  | some "!" => .byForm true
  | none => .byForm isPlain
  | some name => .given name

/-- Adds a node, whose number is given back. Other nodes may refer to it by its name. -/
def add (n : Node) (name : Option String) : Parse Nat := do
  let r ← get
  let id := r.nodes.size
  let anchors := match name with
    | none => r.anchors
    | some name => (name, id) :: r.anchors
  set { r with nodes := r.nodes.push n, anchors }
  return id

/-- Adds a list or mapping, to which its own parts may refer. -/
def addWhole (name : Option String) (read : Parse Node) : Parse Nat := do
  let id ← add .absent name
  let n ← read
  modify fun r => { r with nodes := r.nodes.put id n }
  return id

def addAbsent : Parse Nat := add .absent none

/-- Where a node may stand: between brackets, among indented lines, or there as a key or value,
whose list need not be indented further. -/
inductive Position where
  | flow
  | block
  | blockEntry
deriving DecidableEq

mutual

/-- A node; `fuel` bounds the depth of the nodes and the length of their lists. -/
def node (at_ : Position) : Nat → Parse Nat
  | 0 => refuse "too many nodes"
  | fuel + 1 => do
    match ← peek with
    | some (.reference name) =>
      drop
      match (← get).anchors.lookup name with
      | some id => return id
      | none => refuse s!"found undefined alias '{name}'"
    | _ =>
      let before ← anchor?
      let tag ← tag?
      let name ← if before.isSome then pure before else anchor?
      if let some name := name then
        if ((← get).anchors.lookup name).isSome then refuse s!"found duplicate anchor '{name}'"
      content at_ name tag fuel

/-- A node after its name and tag; one that has either may be absent. -/
def content (at_ : Position) (name tag : Option String) : Nat → Parse Nat
  | 0 => refuse "too many nodes"
  | fuel + 1 => do
    let list (items : Parse (List Nat)) : Parse Nat :=
      addWhole name (return .sequence (formTag tag) (← items))
    let table (pairs : Parse (List (Nat × Nat))) : Parse Nat :=
      addWhole name (return .mapping (formTag tag) (← pairs))
    match ← peek, at_ with
    | some .item, .blockEntry => list (indentlessItems fuel)
    | some (.scalar text isPlain), _ =>
      drop
      add (.scalar (textTag tag isPlain) text) name
    | some .openBracket, _ =>
      drop
      list (flowItems true fuel)
    | some .openBrace, _ =>
      drop
      table (flowPairs true fuel)
    | some .sequenceStart, .block | some .sequenceStart, .blockEntry =>
      drop
      list (blockItems fuel)
    | some .mappingStart, .block | some .mappingStart, .blockEntry =>
      drop
      table (blockPairs fuel)
    | _, _ =>
      if name.isSome || tag.isSome then add (.scalar (textTag tag true) "") name
      else refuse "expected the node content"

/-- A node, or nothing if one of the tokens comes next. -/
def nodeUnless (at_ : Position) (ends : List Token) : Nat → Parse Nat
  | 0 => refuse "too many nodes"
  | fuel + 1 => do if ← isAt ends then addAbsent else node at_ fuel

/-- The items of an indented list. -/
def blockItems : Nat → Parse (List Nat)
  | 0 => refuse "too many nodes"
  | fuel + 1 => do
    if ← took .item then
      let n ← nodeUnless .block [.item, .blockEnd] fuel
      return n :: (← blockItems fuel)
    else
      expect .blockEnd "expected the end of a block"
      return []

/-- The items of a list that is not indented further than the key before it. -/
def indentlessItems : Nat → Parse (List Nat)
  | 0 => refuse "too many nodes"
  | fuel + 1 => do
    if ← took .item then
      let n ← nodeUnless .block [.item, .key, .value, .blockEnd] fuel
      return n :: (← indentlessItems fuel)
    else return []

/-- The keys and values of indented lines. -/
def blockPairs : Nat → Parse (List (Nat × Nat))
  | 0 => refuse "too many nodes"
  | fuel + 1 => do
    if ← took .key then
      let ends := [.key, .value, .blockEnd]
      let k ← nodeUnless .blockEntry ends fuel
      let v ← if ← took .value then nodeUnless .blockEntry ends fuel else addAbsent
      return (k, v) :: (← blockPairs fuel)
    else
      expect .blockEnd "expected the end of a block"
      return []

/-- The items up to a closing bracket. A key and its value among them are a mapping of their own. -/
def flowItems (isFirst : Bool) : Nat → Parse (List Nat)
  | 0 => refuse "too many nodes"
  | fuel + 1 => do
    if ← took .closeBracket then return []
    if !isFirst then expect .comma "expected ',' or ']'"
    if ← took .closeBracket then return []
    let n ←
      if ← took .key then do
        let k ← nodeUnless .flow [.value, .comma, .closeBracket] fuel
        let v ←
          if ← took .value then nodeUnless .flow [.comma, .closeBracket] fuel else addAbsent
        add (.mapping (.byForm false) [(k, v)]) none
      else node .flow fuel
    return n :: (← flowItems false fuel)

/-- The keys and values up to a closing brace. -/
def flowPairs (isFirst : Bool) : Nat → Parse (List (Nat × Nat))
  | 0 => refuse "too many nodes"
  | fuel + 1 => do
    if ← took .closeBrace then return []
    if !isFirst then expect .comma "expected ',' or a closing brace"
    if ← took .closeBrace then return []
    let pair ←
      if ← took .key then do
        let k ← nodeUnless .flow [.value, .comma, .closeBrace] fuel
        let v ← if ← took .value then nodeUnless .flow [.comma, .closeBrace] fuel else addAbsent
        pure (k, v)
      else do
        let k ← node .flow fuel
        pure (k, ← addAbsent)
    return pair :: (← flowPairs false fuel)

end

/-- Skips the tokens of one kind; `fuel` bounds their number. -/
def dropAll (t : Token) : Nat → Parse Unit
  | 0 => return ()
  | fuel + 1 => do if ← took t then dropAll t fuel

/-- The directives before a document: whether they give a version, and the handles that they
declare. `fuel` bounds their number. -/
def directives (hasVersion : Bool) (handles : List (String × String)) :
    Nat → Parse (List (String × String))
  | 0 => return handles
  | fuel + 1 => do
    match ← peek with
    | some (.directive d) =>
      drop
      match d with
      | .version major _ =>
        if hasVersion then refuse "found duplicate YAML directive"
        if major != 1 then refuse "found incompatible YAML document"
        directives true handles fuel
      | .handle name text =>
        if (handles.lookup name).isSome then refuse s!"duplicate tag handle '{name}'"
        directives hasVersion (handles ++ [(name, text)]) fuel
      | .other => directives hasVersion handles fuel
    | _ => return handles

/-- Whether a token starts or ends a document, or says something about it. -/
def isMark : Token → Bool
  | .directive _ | .documentStart | .documentEnd => true
  | _ => false

/-- The only document of a text, if there is one. -/
def document (fuel : Nat) : Parse (Option Nat) := do
  let found ← match ← peek with
    | none => pure none
    | some .documentEnd => refuse "expected the node content"
    | some t => if isMark t then some <$> start else some <$> node .block fuel
  dropAll .documentEnd fuel
  if (← peek).isSome then refuse "expected a single document in the stream"
  return found
where
  /-- A document after its directives and its mark. -/
  start : Parse Nat := do
    let handles ← directives false [] fuel
    modify fun r => { r with handles := handles ++ usualHandles }
    expect .documentStart "expected '<document start>'"
    if (← peek).all isMark then return ← addAbsent
    node .block fuel

end Parse

/-- The nodes that a scanned text spells, with the number of the first one of all if there is one,
and the tokens left when the reading ended. -/
def Graph.ofScanned (s : Scanned) : Except Fault (Option Nat) × Graph × Nat :=
  let r : Reader := ⟨s.tokens, s.fault, #[], [], usualHandles⟩
  let (result, r) := (Parse.document (4 * s.tokens.length + 4)).run r
  (result, r.nodes, r.tokens.length)

end Yaml

end DocFilter
