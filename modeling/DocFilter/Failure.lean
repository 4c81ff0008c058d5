import DocFilter.Disk
import DocFilter.Json.Display

/-!
# Failures

Everything that can stop an operation, by cause. The wording of a failure is in `Failure.message`,
and the exit code of the command line that it leads to in `Failure.exitCode`. An exception of foreign
code may have no wording, because its own attempt at one fails; see `Failure.text`.
-/

namespace DocFilter

/-- The kinds of failure that this library reports of its own. -/
inductive Category where
  | general
  | validation
  | filter
  | file
  | input
  | output
  | parsing
  | conversion
deriving DecidableEq

namespace Category

/-- A category with the wider ones that it belongs to, widest first. -/
def lineage : Category → List Category
  | .general => [.general]
  | .validation => [.general, .validation]
  | .filter => [.general, .validation, .filter]
  | .file => [.general, .file]
  | .input => [.general, .file, .input]
  | .output => [.general, .file, .output]
  | .parsing => [.general, .parsing]
  | .conversion => [.general, .conversion]

/-- The exit code of a category: 3 for validation, 4 for files, 6 for parsing, else 1. -/
def exitCode (c : Category) : Nat :=
  if .validation ∈ c.lineage then 3
  else if .file ∈ c.lineage then 4
  else if .parsing ∈ c.lineage then 6
  else 1

/-- The names of the details that a report of a category gives after its message. -/
def detailNames : Category → List String
  | .general => []
  | .validation => ["parameter_name", "parameter_value"]
  | .filter => ["filter_name"]
  | .file | .input | .output => ["file_path"]
  | .parsing => ["source"]
  | .conversion => ["command", "stderr"]

end Category

/-- A failure described by whoever reports it: a category, a message, and details by name. -/
structure Report where
  category : Category
  message : Json
  details : Fields

/-- A report from a message and its details in order; details left out are null. A report about a
filter also names the filter as the parameter at fault. -/
def Report.ofParts (category : Category) (message : Json) (parts : List Json) : Report :=
  let names := category.detailNames
  let given := names.zip (parts ++ List.replicate names.length .null)
  let named := match category, given with
    | .filter, (_, v) :: _ => [("parameter_name", .str "filter"), ("parameter_value", v)]
    | _, _ => []
  ⟨category, message, named ++ given⟩

/-- A refusal of the operating system, with the quoted name of what was asked for. -/
structure OsFault where
  refusal : Refusal
  subject : Option String

def OsFault.message (f : OsFault) : String :=
  let base := s!"[Errno {f.refusal.code}] {f.refusal.text}"
  match f.subject with
  | some s => base ++ ": " ++ s
  | none => base

inductive DatabaseFault where
  | operational
  | integrity
  | general
  | notSupported
  | programming
  | warning
deriving DecidableEq

inductive ConfigFormat where
  | toml
  | yaml
  | json
deriving DecidableEq

def ConfigFormat.name : ConfigFormat → String
  | .toml => "TOML"
  | .yaml => "YAML"
  | .json => "JSON"

/-- What is wrong with a configuration, or with an argument of the command line. -/
inductive ConfigProblem where
  | missing (path : String)
  | notFile (path : String)
  | unreadable (path explanation : String)
  | malformed (format : ConfigFormat) (path explanation : String)
  | notMapping (format : ConfigFormat) (path kind : String)
  | projectUnreadable (path explanation : String)
  | projectMalformed (path explanation : String)
  | sectionNotTable (path kind : String)
  | unknownFormat (extension : String)
  | filtersNotNames
  | optionsNotTable
  | filterOptionsNotTable (name kind : String)
  | notInteger (text : String)
  | negative (n : Int)

namespace ConfigProblem

def message : ConfigProblem → String
  | .missing path => s!"Configuration file does not exist: {path}"
  | .notFile path => s!"Configuration path is not a file: {path}"
  | .unreadable path explanation => s!"Error reading config file {path}: {explanation}"
  | .malformed format path explanation =>
    s!"Invalid {format.name} in config file {path}: {explanation}"
  | .notMapping format path kind =>
    s!"{format.name} config file {path} must contain a mapping at root level, got {kind}"
  | .projectUnreadable path explanation => s!"Error reading pyproject.toml {path}: {explanation}"
  | .projectMalformed path explanation => s!"Invalid TOML in pyproject.toml {path}: {explanation}"
  | .sectionNotTable path kind => s!"[tool.docweave] section in {path} must be a table, got {kind}"
  | .unknownFormat extension =>
    s!"Unsupported config file format: {extension}. Use .toml, .yaml or .json"
  | .filtersNotNames => "'filters' in config must be a list of filter names"
  | .optionsNotTable => "'filter' in config must be a table of filter options"
  | .filterOptionsNotTable name kind => s!"Options for filter '{name}' must be a table, got {kind}"
  | .notInteger text => s!"Expected an integer, got '{text}'"
  | .negative n => s!"Value must be non-negative, got {n}"

end ConfigProblem

/-- The cause of a failure. -/
inductive Failure where
  | unknownFilter (name : String) (available : List String)
  | filterNotMade (name : String) (cause : Failure)
  | inputMissing (path : String) (fault : OsFault)
  | inputUnreadable (path : String) (cause : Failure)
  | outputUnwritable (path : String) (fault : OsFault)
  | notJson (place : String) (source : Option String) (explanation : String)
  | notDocument (place : String) (source : Option String)
  | converterNotStarted (command : List Json) (fault : OsFault)
  | converterFailed (command : List Json) (diagnostics : String)
  | converterOutput (command : List Json) (cause : Failure)
  | reported (report : Report)
  | configuration (problem : ConfigProblem)
  | os (fault : OsFault)
  | malformedJson (explanation : String)
  | undecodable (fault : Utf8.Fault)
  | unencodable (message : String)
  | badValue (message : String)
  | tooLarge (message : String)
  | wrongType (message : String)
  | noAttribute (message : String)
  | missingKey (key : String)
  | outOfRange
  | runtime (message : String)
  | importing (message : String)
  | database (fault : DatabaseFault) (message : String)
  | thrown (kind message : String)
  | interrupted (kind message : String)
  | wordless (kind : String) (fault : Failure)

namespace Failure

/-- A failure in words, or what stands for them where a failure is shown that has none. -/
def message : Failure → String
  | .unknownFilter name available =>
    s!"Unknown filter '{name}'. Available filters: " ++ joinWith ", " available
  | .filterNotMade name cause => s!"Cannot create filter '{name}': " ++ message cause
  | .inputMissing path _ => s!"Input file not found: {path}"
  | .inputUnreadable path cause => s!"Cannot read input file {path}: " ++ message cause
  | .outputUnwritable path fault => s!"Cannot write output file {path}: " ++ fault.message
  | .notJson place _ explanation => s!"Invalid JSON in {place}: {explanation}"
  | .notDocument place _ =>
    s!"{place} is not a Pandoc JSON document (expected an object with a 'blocks' list)"
  | .converterNotStarted _ fault => "Error running pandoc: " ++ fault.message
  | .converterFailed _ diagnostics => s!"Pandoc failed: {diagnostics}"
  | .converterOutput _ cause => message cause
  | .reported report => report.message.shown
  | .configuration problem => problem.message
  | .os fault => fault.message
  | .malformedJson explanation => explanation
  | .undecodable fault => fault.message
  | .unencodable text => text
  | .badValue text => text
  | .tooLarge text => text
  | .wrongType text => text
  | .noAttribute text => text
  | .missingKey key => quoted key
  | .outOfRange => "list index out of range"
  | .runtime text => text
  | .importing text => text
  | .database _ text => text
  | .thrown _ text => text
  | .interrupted _ text => text
  | .wordless _ _ => "<exception str() failed>"

/-- The words of a failure, or the failure that asking for them ends in. -/
def text : Failure → Except Failure String
  | .wordless _ fault => .error fault
  | failure => .ok failure.message

def category? : Failure → Option Category
  | .unknownFilter .. | .filterNotMade .. => some .filter
  | .inputMissing .. | .inputUnreadable .. => some .input
  | .outputUnwritable .. => some .output
  | .notJson .. | .notDocument .. => some .parsing
  | .converterNotStarted .. | .converterFailed .. | .converterOutput .. => some .conversion
  | .reported report => some report.category
  | _ => none

def cause? : Failure → Option Failure
  | .filterNotMade _ cause | .inputUnreadable _ cause | .converterOutput _ cause => some cause
  | .inputMissing _ fault | .outputUnwritable _ fault | .converterNotStarted _ fault =>
    some (.os fault)
  | .notJson _ _ explanation => some (.malformedJson explanation)
  | _ => none

def exitCode (f : Failure) : Nat := (f.category?.map Category.exitCode).getD 1

/-- Whether a failure boundary may hold a failure. An interruption passes through all of them. -/
def isContained : Failure → Bool
  | .interrupted .. => false
  | _ => true

/-- The words under which a failure boundary reports a failure, or what gets through the boundary
instead. -/
def held (f : Failure) : Except Failure String := if f.isContained then f.text else .error f

def isConversion (f : Failure) : Bool := f.category? == some .conversion

end Failure

/-- A failure that has words. -/
structure Failure.Worded where
  failure : Failure
  words : String
  text_eq : failure.text = .ok words

end DocFilter
