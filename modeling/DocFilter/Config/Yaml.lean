import DocFilter.Config.YamlNode
import DocFilter.Decimal.Reading
import DocFilter.Json.Table
import DocFilter.Moment
import DocFilter.Text.Base64

/-!
# YAML values

What a YAML text stands for. The tag of a node says what kind of value it is. A text without one
that was written plain may be a truth value, a number, a moment or null; any other text is a text. A
key may merge another mapping into its own.
-/

namespace DocFilter

namespace Yaml

/-- The kinds of value that tags name. -/
inductive Kind where
  | null
  | bool
  | int
  | float
  | moment
  | text
  | bytes
  | list
  | ordered
  | mapping
  | set
  | merge
  | own
  | unknown (name : String)
deriving DecidableEq

namespace Kind

def ofName (name : String) : Kind :=
  match name.dropPrefix? "tag:yaml.org,2002:" with
  | none => .unknown name
  | some rest =>
    match rest.toString with
    | "null" => .null
    | "bool" => .bool
    | "int" => .int
    | "float" => .float
    | "timestamp" => .moment
    | "str" => .text
    | "binary" => .bytes
    | "seq" => .list
    | "omap" | "pairs" => .ordered
    | "map" => .mapping
    | "set" => .set
    | "merge" => .merge
    | "value" => .own
    | _ => .unknown name

end Kind

/-! ### The kinds of plain texts -/

def truthValue? : String → Option Bool
  | "yes" | "true" | "on" => some true
  | "no" | "false" | "off" => some false
  | _ => none

/-- Whether a text is a truth value in one of its usual spellings. -/
def isTruthWord (text : String) : Bool :=
  let lower := lowerCase text
  let usual := match lower.toList with
    | c :: cs => [lower, upperAscii lower, String.ofList (c.toUpper :: cs)]
    | [] => []
  (truthValue? lower).isSome && usual.contains text

def isNullWord (text : String) : Bool := ["", "~", "null", "Null", "NULL"].contains text

def isDigitOr (other : Char) (c : Char) : Bool := c.isDigit || c = other

/-- Whether a text starts with a digit and holds nothing but digits and underscores. -/
def isGrouped : List Char → Bool
  | [] => false
  | c :: cs => c.isDigit && cs.all (isDigitOr '_')

/-- Whether a text is a number below sixty, of one or two digits. -/
def isSixtieth : List Char → Bool
  | [c] => c.isDigit
  | [c, d] => '0' ≤ c && c ≤ '5' && d.isDigit
  | _ => false

/-- Whether a text holds nothing but some characters and underscores, of which there is one. -/
def isBased (allowed : Char → Bool) (cs : List Char) : Bool :=
  !cs.isEmpty && cs.all fun c => allowed c || c = '_'

/-- Whether a text is the size of a whole number. -/
def isWhole : List Char → Bool
  | '0' :: 'b' :: r => isBased (fun c => c = '0' || c = '1') r
  | '0' :: 'x' :: r => isBased (fun c => (hexValue? c).isSome) r
  | '0' :: r => r.isEmpty || isBased (fun c => '0' ≤ c && c ≤ '7') r
  | cs =>
    match splitChars ':' cs with
    | first :: rest => isGrouped first && rest.all isSixtieth
    | [] => false

/-- Whether a text is the exponent that ends a number: a letter, a sign and digits, or nothing. -/
def isExponent : List Char → Bool
  | [] => true
  | e :: s :: ds =>
    (e = 'e' || e = 'E') && (s = '+' || s = '-') && !ds.isEmpty && ds.all Char.isDigit
  | _ => false

/-- Whether a text is a number with a point. -/
def isFractional (cs : List Char) : Bool :=
  let (_, r) := splitSign cs
  let isSigned := r.length != cs.length
  let word := String.ofList r
  if [".inf", ".Inf", ".INF"].contains word then true
  else if !isSigned && [".nan", ".NaN", ".NAN"].contains word then true
  else
    let whole := r.takeWhile (· ≠ '.')
    match r.dropWhile (· ≠ '.') with
    | _ :: tail =>
      let fraction := tail.takeWhile (isDigitOr '_')
      let ending := tail.drop fraction.length
      match splitChars ':' whole with
      | [[]] => !isSigned && isGrouped fraction && isExponent ending
      | [first] => isGrouped first && isExponent ending
      | first :: rest => isGrouped first && rest.all isSixtieth && ending.isEmpty
      | [] => false
    | [] => false

/-! ### Moments -/

/-- A number of at least `least` digits and at most `most`, as many as there are. -/
def readNumber (least most : Nat) (cs : List Char) : Option (Nat × List Char) :=
  let ds := (cs.take most).takeWhile Char.isDigit
  if ds.length < least then none
  else some (ofDigits 10 (ds.filterMap asciiDigit?), cs.drop ds.length)

def after (c : Char) : List Char → Option (List Char)
  | d :: r => if d = c then some r else none
  | [] => none

/-- An offset from universal time, in minutes, that ends a text; nothing is none. -/
def readOffset (cs : List Char) : Option (Option Int) := do
  match cs.dropWhile fun c => c = ' ' || c = '\t' with
  | [] => if cs.isEmpty then return none else none
  | ['Z'] => return some 0
  | c :: r =>
    if c != '+' && c != '-' then none
    let (hours, r) ← readNumber 1 2 r
    let minutes ← match r with
      | [] => pure 0
      | _ => do
        let (minutes, r) ← readNumber 2 2 (← after ':' r)
        if r.isEmpty then pure minutes else none
    return some (signedInt (c = '-') (60 * hours + minutes))

/-- The moment that a text writes: a day, or a day with a time. -/
def readMoment (cs : List Char) : Option Moment := do
  let (year, r) ← readNumber 4 4 cs
  let (month, r) ← readNumber 1 2 (← after '-' r)
  let (day, r) ← readNumber 1 2 (← after '-' r)
  let d : Day := ⟨year, month, day⟩
  match r with
  | [] => return .day d
  | c :: rest =>
    let isSpace (c : Char) : Bool := c = ' ' || c = '\t'
    if !(c = 'T' || c = 't' || isSpace c) then none
    let r := if isSpace c then rest.dropWhile isSpace else rest
    let (hour, r) ← readNumber 1 2 r
    let (minute, r) ← readNumber 2 2 (← after ':' r)
    let (second, r) ← readNumber 2 2 (← after ':' r)
    let fraction := ((after '.' r).map fun r => r.takeWhile Char.isDigit)
    let r := match fraction with
      | none => r
      | some ds => r.drop (ds.length + 1)
    let digits := ((fraction.getD [] ++ List.replicate 6 '0').take 6).filterMap asciiDigit?
    return .both d ⟨hour, minute, second, ofDigits 10 digits⟩ (← readOffset r)

/-- Whether a text is a moment: a day in ten characters, or a day with a time. -/
def isMoment (cs : List Char) : Bool :=
  match readMoment cs with
  | some (.day _) => cs.length = 10
  | some _ => true
  | none => false

def openText (cs : List Char) : List Char :=
  if 1 < cs.length && cs.getLast? = some '\n' then cs.dropLast else cs

/-- The kind of a text that was written plain, or that is to be taken as if it were. An end of line
that closes it is of no consequence. -/
def kindOfPlain (text : String) : Kind :=
  let cs := openText text.toList
  let text := String.ofList cs
  if isTruthWord text then .bool
  else if isFractional cs then .float
  else if isWhole (splitSign cs).2 then .int
  else if text = "<<" then .merge
  else if isNullWord text then .null
  else if isMoment cs then .moment
  else if text = "=" then .own
  else .text

/-! ### Values of texts -/

def wholeIn (base : Nat) (digits : List Char) : Except Fault Int :=
  let text := String.ofList digits
  match wholeNumber? base text with
  | some n => .ok n
  | none =>
    let shown := quoted text
    .error (.bad (.badValue s!"invalid literal for int() with base {base}: {shown}"))

def realOf (digits : List Char) : Except Fault Binary64 :=
  let text := String.ofList digits
  match Decimal.real? text with
  | some x => .ok x
  | none =>
    let shown := quoted text
    .error (.bad (.badValue s!"could not convert string to float: {shown}"))

/-- The whole number that a text writes: in base two, eight or sixteen after a zero, or as parts of
which each counts sixty of the next. -/
def intOf (text : String) : Except Fault Int :=
  let cs := text.toList.filter (· ≠ '_')
  let (isNegative, r) := splitSign cs
  let size : Except Fault Int :=
    match r with
    | [] => .error (.bad .outOfRange)
    | ['0'] => .ok 0
    | '0' :: 'b' :: ds => wholeIn 2 ds
    | '0' :: 'x' :: ds => wholeIn 16 ds
    | '0' :: _ => wholeIn 8 r
    | _ =>
      match splitChars ':' r with
      | [ds] => wholeIn 10 ds
      | parts => do
        return (← parts.mapM (wholeIn 10)).foldl (fun n d => 60 * n + d) 0
  size.map fun n => if isNegative then -n else n

/-- The number that a text writes, which may be made of parts of which each counts sixty of the
next. -/
def floatOf (text : String) : Except Fault Binary64 :=
  let cs := (lowerCase text).toList.filter (· ≠ '_')
  let (isNegative, r) := splitSign cs
  let size : Except Fault Binary64 :=
    if r.isEmpty then .error (.bad .outOfRange)
    else if r = ".inf".toList then .ok Binary64.infinity
    else if r = ".nan".toList then .ok Binary64.nan
    else match splitChars ':' r with
      | [ds] => realOf ds
      | parts => do
        let weigh (total : Binary64 × Nat) (x : Binary64) : Binary64 × Nat :=
          (total.1 + x * Binary64.ofInt total.2, 60 * total.2)
        return ((← parts.mapM realOf).reverse.foldl weigh (Binary64.ofInt 0, 1)).1
  size.map fun x => if isNegative && !x.isNaN then x.negate else x

/-- The quads of a text of base sixty-four, without what is no part of it; `owed` are the characters
of the quad under way, last first. -/
def quads (owed : List Char) : List Char → Option (List Char)
  | [] => if owed.isEmpty then some [] else none
  | c :: cs =>
    if (Base64.value? c).isSome then
      if owed.length = 3 then (quads [] cs).map (owed.reverse ++ c :: ·)
      else quads (c :: owed) cs
    else if c = '=' && owed.length = 3 then some (owed.reverse ++ ['='])
    else if c = '=' && owed.length = 2 && cs.contains '=' then some (owed.reverse ++ ['=', '='])
    else quads owed cs

def bytesOf? (text : String) : Option (List UInt8) :=
  if text.toList.all fun c => c.toNat < 128 then (quads [] text.toList).bind Base64.decode? else none

/-- What a text stands for as a value of a kind. -/
def ofText (kind : Kind) (text : String) : Except Fault Json :=
  match kind with
  | .null => .ok .null
  | .text => .ok (.str text)
  | .bool =>
    match truthValue? (lowerCase text) with
    | some b => .ok (.bool b)
    | none => .error (.bad (.missingKey (lowerCase text)))
  | .int => (intOf text).map .int
  | .float => (floatOf text).map .float
  | .moment =>
    match readMoment (openText text.toList) with
    | none => .error (.bad (.noAttribute "'NoneType' object has no attribute 'groupdict'"))
    | some m =>
      match m.fault? with
      | some fault => .error (.bad (.badValue fault))
      | none => .ok m.toJson
  | .bytes =>
    match bytesOf? text with
    | some bytes => .ok (.foreign ⟨"bytes", "bytes", text, bytes.isEmpty, true⟩)
    | none => .error (.malformed "failed to decode base64 data")
  | .unknown name => .error (.malformed s!"could not determine a constructor for '{name}'")
  | _ => .error (.malformed s!"could not determine a constructor for '{text}'")

/-! ### Nodes -/

namespace Node

/-- The kind of a node: that of its tag, or else the one that its form shows. -/
def kind : Node → Kind
  | .scalar (.given name) _ | .sequence (.given name) _ | .mapping (.given name) _ => .ofName name
  | .scalar (.byForm true) text => kindOfPlain text
  | .scalar (.byForm false) _ => .text
  | .sequence (.byForm _) _ => .list
  | .mapping (.byForm _) _ => .mapping

/-- Whether the parts of a node are looked at only after the nodes beside it. A node like that
cannot be a key. -/
def isLate (n : Node) : Bool := [.list, .ordered, .mapping, .set].contains n.kind

/-- A node as if its tag said that it is a text. -/
def asText : Node → Node
  | .scalar _ text => .scalar (.given "tag:yaml.org,2002:str") text
  | .sequence _ items => .sequence (.given "tag:yaml.org,2002:str") items
  | .mapping _ pairs => .mapping (.given "tag:yaml.org,2002:str") pairs

end Node

namespace Graph

def pairs? (g : Graph) (id : Nat) : Option (List (Nat × Nat)) :=
  match g.node id with
  | .mapping _ pairs => some pairs
  | _ => none

def putPairs (g : Graph) (id : Nat) (pairs : List (Nat × Nat)) : Graph :=
  match g.node id with
  | .mapping tag _ => g.put id (.mapping tag pairs)
  | _ => g

/-- The text of a node; a mapping may have one under a key of its own. `fuel` bounds the depth. -/
def textOf (g : Graph) : Nat → Nat → Except Fault String
  | 0, _ => .error (.malformed "too many nodes")
  | fuel + 1, id =>
    match g.node id with
    | .scalar _ text => .ok text
    | .mapping _ pairs =>
      match pairs.find? fun (k, _) => (g.node k).kind = .own with
      | some (_, v) => textOf g fuel v
      | none => .error (.malformed "expected a scalar node")
    | .sequence .. => .error (.malformed "expected a scalar node")

/-- The value of a node that is not late. -/
def plainValue (g : Graph) (id : Nat) : Except Fault Json := do
  match (g.node id).kind with
  | .unknown name => throw (.malformed s!"could not determine a constructor for '{name}'")
  | kind => ofText kind (← g.textOf (g.size + 1) id)

/-- The number of keys of all mappings, and of nodes. -/
def size (g : Graph) : Nat :=
  g.foldl (fun n node => n + 1 + match node with
    | .mapping _ pairs => pairs.length
    | _ => 0) 0

/-- Merges into a mapping what it says is to be merged, before its own keys; `at_` is the number of
its keys that are done, and `found` is what has been found so far. Of several mappings an earlier
one counts more. What a key merges has its own merging done first, and as the key is taken away
before that, a mapping can even be merged into itself. `fuel` bounds the number of steps. -/
def mergeFrom (id : Nat) : Nat → Nat → List (Nat × Nat) → Graph → Except Fault Graph
  | 0, _, _, _ => .error (.malformed "too many nodes")
  | fuel + 1, at_, found, g => do
    let pairs := (g.pairs? id).getD []
    match pairs[at_]? with
    | none => return if found.isEmpty then g else g.putPairs id (found ++ pairs)
    | some (k, v) =>
      match (g.node k).kind with
      | .merge =>
        let g := g.putPairs id (pairs.eraseIdx at_)
        match g.node v with
        | .mapping .. =>
          let g ← mergeFrom v fuel 0 [] g
          mergeFrom id fuel at_ (found ++ (g.pairs? v).getD []) g
        | .sequence _ items =>
          let (each, g) ← items.foldlM (fun (each, g) item => do
            match g.node item with
            | .mapping .. =>
              let g ← mergeFrom item fuel 0 [] g
              return ((g.pairs? item).getD [] :: each, g)
            | _ => throw (.malformed "expected a mapping for merging"))
            (([], g) : List (List (Nat × Nat)) × Graph)
          mergeFrom id fuel at_ (found ++ each.flatten) g
        | .scalar .. =>
          throw (.malformed "expected a mapping or list of mappings for merging")
      | .own => mergeFrom id fuel (at_ + 1) found (g.put k (g.node k).asText)
      | _ => mergeFrom id fuel (at_ + 1) found g

def merge (g : Graph) (id : Nat) : Except Fault Graph :=
  mergeFrom id (2 * g.size + 2) 0 [] g

end Graph

/-- Nodes on the way to be values: those that have been begun, and the late ones among them whose
parts have not been looked at, latest first. -/
structure Progress where
  graph : Graph
  begun : List Nat
  owed : List Nat

namespace Progress

/-- Begins a node, unless that has been done. One that is not late is done at once. -/
def begin (p : Progress) (id : Nat) : Except Fault Progress := do
  if p.begun.contains id then return p
  let p := { p with begun := id :: p.begun }
  if (p.graph.node id).isLate then return { p with owed := id :: p.owed }
  let _ ← p.graph.plainValue id
  return p

def beginPairs (p : Progress) : List (Nat × Nat) → Except Fault Progress
  | [] => .ok p
  | (k, v) :: rest => do
    let p ← p.begin k
    if (p.graph.node k).isLate then throw (.malformed "found unhashable key")
    let p ← p.begin v
    beginPairs p rest

def finish (p : Progress) (id : Nat) : Except Fault Progress := do
  match (p.graph.node id).kind, p.graph.node id with
  | .list, .sequence _ items => items.foldlM begin p
  | .ordered, .sequence _ items => items.foldlM entry p
  | .mapping, .mapping .. | .set, .mapping .. =>
    let g ← p.graph.merge id
    beginPairs { p with graph := g } ((g.pairs? id).getD [])
  | _, _ => throw (.malformed "unexpected node")
where
  /-- Begins the key and value of a mapping that has no others. -/
  entry (p : Progress) (id : Nat) : Except Fault Progress := do
    match p.graph.pairs? id with
    | some [(k, v)] => (← p.begin k).begin v
    | _ => throw (.malformed "expected a mapping of length 1")

/-- Finishes the late nodes, those that were begun first first; `fuel` bounds the number of
rounds. -/
def finishAll : Nat → Progress → Except Fault Graph
  | 0, p => .ok p.graph
  | fuel + 1, p =>
    if p.owed.isEmpty then .ok p.graph
    else do finishAll fuel (← p.owed.reverse.foldlM finish { p with owed := [] })

end Progress

namespace Graph

/-- The value of a node without faults. A node inside itself, one of those that are `open_` already,
is left out; `fuel` bounds the depth. -/
def valueFrom (g : Graph) : Nat → List Nat → Nat → Except Fault Json
  | 0, _, _ => .error (.malformed "too many nodes")
  | fuel + 1, open_, id => do
    let n := g.node id
    if open_.contains id then
      return .foreign <|
        if n.kind = .mapping then ⟨"dict", "dict", "\x7b...\x7d", false, false⟩
        else ⟨"list", "list", "[...]", false, false⟩
    let part := valueFrom g fuel (id :: open_)
    match n.kind, n with
    | .list, .sequence _ items => return .arr (← items.mapM part)
    | .ordered, .sequence _ items =>
      return .arr (← items.flatMapM fun item =>
        ((g.pairs? item).getD []).mapM fun (k, v) => return .pair (← part k) (← part v))
    | .mapping, .mapping _ pairs =>
      return Table.ofAssignments (← pairs.mapM fun (k, v) => return (← part k, ← part v))
    | .set, .mapping _ pairs =>
      let members ← pairs.mapM fun (k, _) => return (← part k, Json.null)
      let keys := ((Table.ofAssignments members).entries?.getD []).map fun (k, _) => k.shownInside
      let text := if keys.isEmpty then "set()" else "\x7b" ++ joinWith ", " keys ++ "\x7d"
      return .foreign ⟨"set", "set", text, pairs.isEmpty, false⟩
    | _, _ => g.plainValue id

/-- The value of a node. The first fault counts: a node is begun before its parts, and the parts of
one level before those of the next. -/
def value (g : Graph) (id : Nat) : Except Fault Json := do
  let p ← (⟨g, [], []⟩ : Progress).begin id
  let g ← p.finishAll (g.size + 1)
  g.valueFrom (g.size + 1) [] id

end Graph

/-- What a text stands for; a text without a document is null. -/
def parse (text : String) : Except Fault Json := do
  let (root, g, _) := Graph.ofScanned (scan text.toList)
  match ← root with
  | none => return .null
  | some id => g.value id

/-- The fault that the start of a text shows whatever follows it. -/
def faultOfStart? (start : List Char) : Option Fault :=
  let s := scan start
  let (result, _, left) := Graph.ofScanned s
  match result with
  | .error fault => if 1 < s.left || 1 < left then some fault else none
  | .ok _ => none

end Yaml

end DocFilter
