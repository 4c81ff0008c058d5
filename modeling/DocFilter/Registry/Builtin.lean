import DocFilter.Diagram
import DocFilter.Include
import DocFilter.Registry.Registry
import DocFilter.Script.Filter
import DocFilter.Sql.Filter

/-!
# The built-in filters

The filters that every registry starts with, their metadata, and how each is made of options.
-/

namespace DocFilter

inductive Builtin where
  | files
  | script
  | sql
  | diagram
deriving DecidableEq

namespace Builtin

def all : List Builtin := [.files, .script, .sql, .diagram]

def name : Builtin → String
  | .files => "include"
  | .script => "python-exec"
  | .sql => "sqlite-exec"
  | .diagram => "plantuml"

def typeName : Builtin → String
  | .files => "IncludeFilter"
  | .script => "PythonExecFilter"
  | .sql => "SqliteExecFilter"
  | .diagram => "PlantUmlFilter"

def description : Builtin → String
  | .files => "Splice external files into the document (parse, code or raw mode)"
  | .script => "Execute python-exec code blocks and show their output"
  | .sql => "Run sqlite-exec code blocks as SQL and show the results"
  | .diagram => "Render plantuml code blocks to images with the plantuml tool"

def options : Builtin → List (String × String)
  | .files =>
    [("base_dir", "Directory relative includes resolve against (default: source directory or cwd)"),
      ("max_depth", "Maximum include nesting that is expanded (default: 10)"),
      ("source", "Path of the document being filtered; seeds cycle detection"),
      ("converter", "Callable turning markup text into Pandoc blocks"),
      ("pandoc", "Pandoc executable for parse mode (default: pandoc)")]
  | .script => []
  | .sql => [("db", "Database for blocks without a db attribute (default: in-memory)")]
  | .diagram =>
    [("executable", "PlantUML binary (default: plantuml)"),
      ("default_format", "Output format for blocks without a format attribute (default: svg)")]

def aliases : Builtin → List String
  | .files => []
  | .script => ["py-exec"]
  | .sql => ["sqlite"]
  | .diagram => ["uml"]

def tags : Builtin → List String
  | .files => ["composition"]
  | .script => ["execution"]
  | .sql => ["execution", "query"]
  | .diagram => ["diagram"]

/-- The metadata of a filter, for a registry whose factories are of any type. -/
def metadata {φ : Type} (embed : Builtin → φ) (b : Builtin) : Metadata φ where
  identity := (all.idxOf? b).getD 0
  name := b.name
  description := b.description
  factory := embed b
  options := b.options.map fun (k, v) => (k, .str v)
  aliases := b.aliases
  tags := b.tags
  version := "1.0.0"

/-- A filter as one that keeps no state between passes. -/
def asFilter {σ : Type} (b : Builtin) (f : BlockFilter σ) (start : σ)
    (apply : Json → Run Json) : Filter where
  name := f.name
  label := none
  apply := apply
  stages := []
  guarded := none
  settings := []
  command := none
  description := some (b.typeName ++ "()")
  trial := some (f.trial start)

end Builtin

def optionOr (options : Fields) (key : String) (default : Json) : Json :=
  (options.get? key).getD default

/-- The settings of the include filter with the given options, and the command line of its converter
if that is pandoc. A converter given apart is used in place of an option. -/
def Include.Settings.ofOptions (options : Fields) (given : Option Converter) :
    Except Failure (Include.Settings × Option (List Json)) := do
  let limit ← DepthLimit.ofOption (optionOr options "max_depth" (.int 10))
  let baseDir := optionOr options "base_dir" .null
  let source := optionOr options "source" .null
  match given, optionOr options "converter" .null with
  | some convert, _ => return (⟨baseDir, source, limit, convert⟩, none)
  | none, .null =>
    let pandoc := Pandoc.ofExecutable (optionOr options "pandoc" (.str "pandoc"))
    return (⟨baseDir, source, limit, pandoc.blocks⟩, some pandoc.command)
  | none, v =>
    let kind := v.typeName
    let convert : Converter := fun _ => throw (.wrongType s!"'{kind}' object is not callable")
    return (⟨baseDir, source, limit, convert⟩, none)

def Include.filter (options : Fields) (given : Option Converter) : Except Failure Filter := do
  let (s, command) ← Settings.ofOptions options given
  let base := s.baseDir.shownInside
  let depth := s.limit.text
  return { Builtin.asFilter .files s.blockFilter () s.applyTo with
    settings := [("base_dir", s.baseDir), ("max_depth", optionOr options "max_depth" (.int 10)),
      ("source", s.source)]
    command := command
    description := some s!"IncludeFilter(base_dir={base}, max_depth={depth})" }

def Script.Interpreter.filter (I : Script.Interpreter) : Filter :=
  Builtin.asFilter .script I.blockFilter I.empty fun doc => do
    MonadExcept.ofExcept (← Act.startingAt I.empty (I.pass doc)).1

def Script.filter : Filter := Script.language.filter

def Sql.filter (options : Fields) : Filter :=
  let db := optionOr options "db" .null
  let s : Settings := ⟨if db.isTruthy then db else .str ":memory:"⟩
  { Builtin.asFilter .sql s.blockFilter [] fun doc => do
      MonadExcept.ofExcept (← Act.startingAt [] (s.pass doc)).1 with
    settings := [("db", s.db)] }

def Diagram.filter (options : Fields) : Run Filter := do
  let executable := optionOr options "executable" (.str "plantuml")
  let format ← match optionOr options "default_format" (.str "svg") with
    | .str name => chooseFormat (some name)
    | v =>
      if v.isTruthy then
        let kind := v.kindName
        throw (.noAttribute s!"'{kind}' object has no attribute 'lower'")
      else chooseFormat none
  let s : Settings := ⟨executable, format⟩
  return { Builtin.asFilter .diagram s.blockFilter () fun doc => do
      MonadExcept.ofExcept (← Act.startingAt () (s.blockFilter.sweep doc)).1 with
    settings := [("executable", executable), ("default_format", .str format.name)] }

namespace Builtin

/-- Makes a filter of options, each of which must be one of its own. Scripts are run by the given
interpreter. -/
def makeWith (I : Script.Interpreter) (b : Builtin) (options : Fields) : Run Filter := do
  let known := b.options.map (·.1)
  match (Dictionary.keys options).find? (!known.contains ·) with
  | some key =>
    let type := b.typeName
    throw (.wrongType s!"{type}.__init__() got an unexpected keyword argument '{key}'")
  | none =>
    match b with
    | .files => MonadExcept.ofExcept (Include.filter options none)
    | .script => return I.filter
    | .sql => return Sql.filter options
    | .diagram => Diagram.filter options

/-- Makes a filter of options, with the interpreter of this library. -/
def make (b : Builtin) (options : Fields) : Run Filter := b.makeWith Script.language options

end Builtin

end DocFilter
