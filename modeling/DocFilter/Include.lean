import DocFilter.Converter
import DocFilter.Filter

/-!
# Including files

A code block of class `include` names a file and is replaced by what the file holds: its blocks, its
text as code, or its text as it is. Blocks from a file may include further files, down to a greatest
depth. Which files are being included is kept in a context that is never changed but extended, so
that a file including itself is found, and siblings do not see each other's files. Whatever goes
wrong with a block is shown in its place.
-/

namespace DocFilter

namespace Include

def logName : String := "docweave.filters.include"

/-- How deep includes are expanded: the number of levels, and the number as messages show it. -/
structure DepthLimit where
  levels : Int
  text : String

/-- More levels than any nesting of files has. -/
def endless : Int := twoPow 64

/-- The limit that an option stands for. A fraction counts as the next whole number. -/
def DepthLimit.ofOption (v : Json) : Except Failure DepthLimit :=
  let negative : Except Failure DepthLimit :=
    let shown := v.shown
    .error (.badValue s!"max_depth must be non-negative, got {shown}")
  match v with
  | .bool b => .ok ⟨if b then 1 else 0, v.shown⟩
  | .int n => if n < 0 then negative else .ok ⟨n, v.shown⟩
  | .float x =>
    if x.isNaN then .ok ⟨endless, v.shown⟩
    else if x.isNegative && !x.isZero then negative
    else if x.isInfinite then .ok ⟨endless, v.shown⟩
    else .ok ⟨x.ceiling, v.shown⟩
  | v =>
    let kind := v.typeName
    .error (.wrongType s!"'<' not supported between instances of '{kind}' and 'int'")

/-- What is known in one pass: the directory that references are taken from, the files being
included (outermost first), the number of levels above, and the greatest depth. -/
structure Context where
  baseDir : String
  stack : List String
  depth : Int
  limit : DepthLimit

namespace Context

def isExhausted (c : Context) : Bool := c.limit.levels ≤ c.depth

def descend (c : Context) (path : String) : Context :=
  { c with baseDir := Path.directory path, stack := c.stack ++ [path], depth := c.depth + 1 }

def remaining (c : Context) : Nat := (c.limit.levels - c.depth).toNat

end Context

def isCycle (path : String) (stack : List String) : Bool := stack.contains path

def errorBlock (requested message : String) : Json :=
  CodeBlock.toNode
    ⟨s!"ERROR including file: {requested}\n{message}", Attr.ofClasses ["include-error"]⟩

def referenceBase (b : CodeBlock) (c : Context) : String :=
  match b.attr.given? "base" with
  | some base => Path.join c.baseDir base
  | none => c.baseDir

inductive FileMode where
  | parse
  | code
  | raw
deriving DecidableEq

def FileMode.name : FileMode → String
  | .parse => "parse"
  | .code => "code"
  | .raw => "raw"

def FileMode.ofName? : String → Option FileMode
  | "parse" => some .parse
  | "code" => some .code
  | "raw" => some .raw
  | _ => none

/-- Why an include block cannot be replaced by what it asks for. -/
inductive Problem where
  | noPath
  | cycle (chain : List String)
  | unknownMode (name : String)
  | notFound (path : String)
  | unreadable (path explanation : String)
  | unparsed (path explanation : String)

namespace Problem

def message : Problem → String
  | .noPath => "Empty include path"
  | .cycle chain => "Include cycle detected: " ++ joinWith " -> " chain
  | .unknownMode name => s!"Unknown include mode: {name}"
  | .notFound path => s!"File not found: {path}"
  | .unreadable _ explanation => s!"Error reading file: {explanation}"
  | .unparsed _ explanation => explanation

def warning? (requested : String) : Problem → Option String
  | .noPath => none
  | .cycle chain => some ("Include cycle detected: " ++ joinWith " -> " chain)
  | .unknownMode name => some s!"Unknown include mode '{name}' for {requested}"
  | .notFound path => some s!"Included file not found: {path}"
  | .unreadable path explanation => some s!"Could not read included file {path}: {explanation}"
  | .unparsed path explanation => some s!"Could not parse included file {path}: {explanation}"

def report (requested : String) (p : Problem) : Run Json := do
  if let some text := p.warning? requested then Run.warn logName text
  return errorBlock requested p.message

end Problem

/-- What an include block asks for. -/
structure Request where
  path : String
  mode : FileMode

/-- The file that a block asks for and how it is to be included, as far as that can be told without
looking at any file. -/
def request (cwd : String) (b : CodeBlock) (c : Context) : Except Problem Request :=
  let requested := strip b.text
  if requested = "" then .error .noPath
  else
    let path := Path.resolve cwd requested (some (referenceBase b c))
    if isCycle path c.stack then .error (.cycle (c.stack ++ [path]))
    else
      let name := (b.attr.given? "mode").getD "parse"
      match FileMode.ofName? name with
      | none => .error (.unknownMode name)
      | some mode => .ok ⟨path, mode⟩

def fileText (path : String) : Run (Except Problem String) := do
  match ← (Run.readText path).attempt with
  | .ok content => return .ok content
  | .error (.os fault) =>
    if fault.refusal.code = 2 then return .error (.notFound path)
    else return .error (.unreadable path fault.message)
  | .error (.undecodable fault) => return .error (.unreadable path fault.message)
  | .error failure => throw failure

def fileBlocks (convert : Converter) (path content : String) : Run (Except Problem Json) := do
  match ← (convert content).attempt with
  | .ok blocks => return .ok blocks
  | .error failure =>
    if failure.isConversion then return .error (.unparsed path failure.message)
    else throw failure

def included (path : String) (blocks : Json) : Except Failure Json :=
  match blocks.listed? with
  | some items => .ok (Node.div items ⟨"", [.str "included"], [("source", path)]⟩)
  | none =>
    let kind := blocks.kindName
    .error (.wrongType s!"'{kind}' object is not iterable")

def codeOf (b : CodeBlock) (content : String) : Json :=
  let classes := match b.attr.given? "lang" with
    | some language => [language]
    | none => []
  Node.codeBlock (.str content) (Attr.ofClasses classes)

def rawOf (b : CodeBlock) (content : String) : Json :=
  let format := (b.attr.given? "format").getD "markdown"
  Node.rawBlock (.str format) (.str content)

def accepts (node : Json) : Option CodeBlock :=
  match CodeBlock.ofNode? node with
  | some b => if b.attr.hasAnyClass ["include"] then some b else none
  | none => none

section Pass
variable {m : Type → Type} [Monad m] [MonadLiftT Run m]

/-- The block for the content of a file that is parsed; `expand` expands the includes in it. -/
def parsed (convert : Converter) (expand : Json → Context → m Json)
    (requested path content : String) (c : Context) : m Json := do
  match ← fileBlocks convert path content with
  | .error problem => problem.report requested
  | .ok blocks =>
    let nested ← expand blocks (c.descend path)
    (MonadExcept.ofExcept (included path nested) : Run Json)

/-- What takes the place of an include block; `load` reads a file, and `expand` expands the includes
in one that is parsed. -/
def replacement (load : String → m (Except Problem String)) (convert : Converter)
    (expand : Json → Context → m Json) (b : CodeBlock) (c : Context) : m Json := do
  let requested := strip b.text
  match request (← Run.cwd) b c with
  | .error problem => problem.report requested
  | .ok r =>
    match ← load r.path with
    | .error problem => problem.report requested
    | .ok content =>
      Run.debug logName s!"Including {r.path} (mode={r.mode.name}, depth={c.depth})"
      match r.mode with
      | .code => return codeOf b content
      | .raw => return rawOf b content
      | .parse => parsed convert expand requested r.path content c

/-- One pass over a value: each include block in it gives way to its replacement. -/
def pass (load : String → m (Except Problem String)) (convert : Converter)
    (expand : Json → Context → m Json) (v : Json) (c : Context) : m Json :=
  walk (fun node => match accepts node with
    | some b => replacement load convert expand b c
    | none => pure node) v

end Pass

/-- A value left as it is, because its context may not expand anything. -/
def leave (v : Json) (c : Context) : Run Json := do
  Run.debug logName
    s!"Include depth {c.depth} reached limit {c.limit.text}; not expanding further"
  return v

/-- A value with its includes expanded down to a number of further levels. -/
def expandWithin (convert : Converter) : Nat → Json → Context → Run Json
  | 0, v, c => leave v c
  | levels + 1, v, c => pass fileText convert (expandWithin convert levels) v c

def expand (convert : Converter) (v : Json) (c : Context) : Run Json :=
  expandWithin convert c.remaining v c

/-- The settings of the filter. The directory and the source may be anything that an option can
hold; only texts can be used. -/
structure Settings where
  baseDir : Json
  source : Json
  limit : DepthLimit
  convert : Converter

def pathOption : Json → Except Failure String
  | .str s => .ok s
  | v =>
    let kind := v.typeName
    .error (.wrongType s!"expected str, bytes or os.PathLike object, not {kind}")

namespace Settings

/-- The path of the document being filtered, if a source is given. -/
def sourcePath (s : Settings) (cwd : String) : Except Failure (Option String) :=
  if s.source.isTruthy then do return some (Path.resolve cwd (← pathOption s.source) none)
  else .ok none

/-- The directory that the references of the document are taken from; without one of its own it is
that of the source, if there is one. -/
def rootBase (s : Settings) (source : Option String) : Except Failure String :=
  let baseDir := match source with
    | some path => if s.baseDir.isNull then .str (Path.directory path) else s.baseDir
    | none => s.baseDir
  if baseDir.isTruthy then pathOption baseDir else .ok "."

/-- The context of a pass over a whole document, in a working directory. -/
def contextIn (s : Settings) (cwd : String) : Except Failure Context := do
  let source ← s.sourcePath cwd
  let base ← s.rootBase source
  return ⟨Path.absolute cwd base, source.toList, 0, s.limit⟩

def rootContext (s : Settings) : Run Context := do
  MonadExcept.ofExcept (s.contextIn (← Run.cwd))

def applyTo (s : Settings) (doc : Json) : Run Json := do expand s.convert doc (← s.rootContext)

/-- The filter as one that rewrites single blocks, each as if it stood at the top of a document. -/
def blockFilter (s : Settings) : BlockFilter Unit where
  name := "include"
  classes := ["include"]
  rewrite b := do
    let c ← s.rootContext
    (replacement fileText s.convert (expand s.convert) b c : Run Json)

end Settings

end Include

end DocFilter
