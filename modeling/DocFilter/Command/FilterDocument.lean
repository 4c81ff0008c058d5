import DocFilter.Command.Logging
import DocFilter.Command.Request
import DocFilter.Config.Load
import DocFilter.Config.Merge
import DocFilter.Config.Settings
import DocFilter.Document.Source
import DocFilter.Registry.Pipeline

/-!
# Filtering a document on request

The command that reads a document, runs a chain of filters over it and writes the result. What goes
wrong is reported on the error stream, and the exit code tells what kind of thing it was.
-/

namespace DocFilter

namespace Command

namespace Request

def logName : String := "docweave.cli.commands.filter"

def logThreshold (r : Request) : Nat :=
  if r.isTraced || (r.isVerbose && r.logLevel = "WARNING") then Log.Level.debug.number
  else (Log.levelNumber? r.logLevel).getD Log.Level.info.number

def config (r : Request) : Run Json := do
  if r.isConfigured then
    Config.loadFor r.configPath ((← get).environment.lookup "DOCWEAVE_CONFIG")
  else return .obj []

/-- The names of the filters to run, and the options of each filter by name. -/
def chain (r : Request) : Run (List String × Fields) := do
  let config ← r.config
  let names ←
    if r.filters.isEmpty then MonadExcept.ofExcept (Config.filterNames config) else pure r.filters
  return (names, ← MonadExcept.ofExcept (Config.filterOptions config))

/-- A text as an option; an empty one counts as none. -/
def textOption (key : String) (v : Option String) : Fields :=
  match v with
  | none | some "" => []
  | some s => [(key, .str s)]

def includeOptions (r : Request) : Fields :=
  (r.maxDepth.map fun n => ("max_depth", Json.int n)).toList ++ textOption "base_dir" r.baseDir ++
    textOption "source" r.source ++ textOption "pandoc" r.pandoc

def withIncludeOptions (r : Request) (options : Fields) : Fields :=
  let own := r.includeOptions
  if own.isEmpty then options else Config.mergeFields options [("include", .obj own)]

variable {φ : Type}

/-- Makes the chain, reads the document, runs the chain over it and writes the result. -/
def process (make : φ → Fields → Act (Host φ) Filter) (r : Request) (names : List String)
    (options : Fields) : Act (Host φ) Unit := do
  let f ← Pipeline.build make names options r.isSafe
  let doc ← (Document.read (.ofPath r.input) : Run Json)
  let result ← (f.apply doc : Run Json)
  let spacing := if r.isPretty then some 2 else none
  let _ ← (Document.write result spacing (.ofPath r.output) : Run String)

/-- Reports a failure, and answers the exit code that it leads to. An interruption is not held, and
neither is the failure to put one into words. -/
def report (failure : Failure) : Run Nat := do
  if !failure.isContained then throw failure
  match failure.category? with
  | some _ =>
    let text ← MonadExcept.ofExcept failure.text
    Run.printError s!"Error: {text}\n"
  | none =>
    Run.log .debug logName "Filter traceback" (some failure.message)
    let text ← MonadExcept.ofExcept failure.text
    Run.printError s!"Error: Unexpected error: {text}\n"
  return failure.exitCode

/-- Does what is requested; the answer is the exit code. -/
def run (make : φ → Fields → Act (Host φ) Filter) (r : Request) : Act (Host φ) Nat := do
  match ← (r.chain.attempt : Run _) with
  | .error (.configuration problem) =>
    let text := problem.message
    (Run.printError s!"Error: {text}\n" : Run Unit)
    return 3
  | .error failure => throw failure
  | .ok ([], _) =>
    let advice := "Use -t NAME or set 'filters' in a configuration file."
    (Run.printError s!"Error: No filters given. {advice}\n" : Run Unit)
    return 3
  | .ok (names, options) =>
    match r.targetFormat with
    | none | some "" => pure ()
    | some format => (Run.debug logName s!"Target format: {format}" : Run Unit)
    let list := joinWith ", " names
    (Run.info logName s!"Applying filters: {list}" : Run Unit)
    match ← (r.process make names (r.withIncludeOptions options)).attempt with
    | .ok () => return 0
    | .error failure => (report failure : Run Nat)

end Request

end Command

end DocFilter
