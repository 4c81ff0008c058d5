import DocFilter.Config.Toml
import DocFilter.Config.Yaml
import DocFilter.Json.Parser
import DocFilter.Text.Stream
import DocFilter.World

/-!
# Configuration files

Where configuration is found and how it is read. A file is read by the format that its name shows;
the name `pyproject.toml` stands for a file of which one section counts. Without a file named, the
working directory and those above it are searched, and then the home directory.
-/

namespace DocFilter

namespace Config

/-- The names of files that hold nothing but configuration, in the order in which they are tried. -/
def dedicatedNames : List String :=
  [".docweave.toml", ".docweave.yaml", ".docweave.yml", ".docweave.json"]

def readExactText (path : String) : Run String := do
  match Utf8.decode (← Run.readBytes path) with
  | .ok text => return text
  | .error fault => throw (.undecodable fault)

def sectionOf (path : String) (fields : Fields) : Except Failure Json :=
  match (fields.get? "tool").getD (.obj []) with
  | .obj tools =>
    match (Fields.get? tools "docweave").getD .null with
    | .null => .ok (.obj [])
    | .obj config => .ok (.obj config)
    | v => .error (.configuration (.sectionNotTable path v.kindName))
  | v =>
    let kind := v.kindName
    .error (.noAttribute s!"'{kind}' object has no attribute 'get'")

/-- The configuration section of a project file; a file without one gives no settings. -/
def loadSection (path : String) : Run Json := do
  match ← (readExactText path).attempt with
  | .error (.os fault) => throw (.configuration (.projectUnreadable path fault.message))
  | .error failure => throw failure
  | .ok text =>
    match Toml.parse text with
    | .error explanation => throw (.configuration (.projectMalformed path explanation))
    | .ok fields => MonadExcept.ofExcept (sectionOf path fields)

/-- The value of a YAML file, which is read in parts. Where it is no text, what comes before may be
malformed and end the reading first; two requests are made before anything is looked at. -/
def readYaml (path : String) : Run (Except Yaml.Fault Json) := do
  let bytes ← Run.readBytes path
  match Utf8.decode bytes with
  | .ok text => return Yaml.parse (String.ofList (unifyLineEnds text.toList))
  | .error fault =>
    match Utf8.readUntilFault bytes with
    | none => throw (.undecodable fault)
    | some (start, requests, fault) =>
      match if requests < 2 then none else Yaml.faultOfStart? start with
      | some malformed => return .error malformed
      | none => throw (.undecodable fault)

def readValue (format : ConfigFormat) (path : String) : Run Json := do
  let malformed (explanation : String) : Failure :=
    .configuration (.malformed format path explanation)
  match format with
  | .toml =>
    match Toml.parse (← readExactText path) with
    | .ok fields => return .obj fields
    | .error explanation => throw (malformed explanation)
  | .yaml =>
    match ← readYaml path with
    | .ok v => return v
    | .error (.malformed explanation) => throw (malformed explanation)
    | .error (.bad failure) => throw failure
  | .json =>
    let text ← Run.readText path
    match Json.parse text with
    | .ok v => return v
    | .error fault => throw (malformed (fault.message text))

def loadMapping (format : ConfigFormat) (path : String) : Run Json := do
  let v ← readValue format path
  if v.isObject then return v
  else if v.isNull then return .obj []
  else throw (.configuration (.notMapping format path v.kindName))

def formatOf? (extension : String) : Option ConfigFormat :=
  match extension with
  | ".toml" => some .toml
  | ".yaml" | ".yml" => some .yaml
  | ".json" => some .json
  | _ => none

/-- The settings of the file at a path, by the format that its name shows. -/
def load (p : String) : Run Json := do
  let path := Path.tidy p
  match ← Run.entryAt? path with
  | none => throw (.configuration (.missing path))
  | some .directory => throw (.configuration (.notFile path))
  | some (.file _) =>
    let extension := lowerCase (Path.suffix (Path.fileName path))
    let reading : Run Json :=
      if lowerCase (Path.fileName path) = "pyproject.toml" then loadSection path
      else match formatOf? extension with
        | some format => loadMapping format path
        | none => throw (.configuration (.unknownFormat extension))
    match ← reading.attempt with
    | .ok config => return config
    | .error (.os fault) => throw (.configuration (.unreadable path fault.message))
    | .error (.undecodable fault) => throw (.configuration (.unreadable path fault.message))
    | .error failure => throw failure

/-! ### Finding a file -/

def firstFile : List String → Run (Option String)
  | [] => return none
  | p :: rest => do if ← Run.isFile p then return some p else firstFile rest

/-- Whether a project file has settings for this program. One that cannot be used has none. -/
def hasSection (path : String) : Run Bool := do
  if !(← Run.isFile path) then return false
  match ← (loadSection path).attempt with
  | .ok config => return config.isTruthy
  | .error (.configuration _) => return false
  | .error failure => throw failure

/-- A file of configuration in a directory. -/
def findIn (directory : String) : Run (Option String) := do
  match ← firstFile (dedicatedNames.map (Path.join directory)) with
  | some p => return some p
  | none =>
    let project := Path.join directory "pyproject.toml"
    return if ← hasSection project then some project else none

/-- An absolute path and the directories above it, innermost first. -/
def withParents (path : String) : List String :=
  let parts := Path.steps path
  (List.range (parts.length + 1)).reverse.map fun n => Path.spell (Path.root path) (parts.take n)

def findFirst : List String → Run (Option String)
  | [] => return none
  | directory :: rest => do
    match ← findIn directory with
    | some p => return some p
    | none => findFirst rest

/-- The file of configuration nearest to a directory, in it or above it. -/
def find (start : Option String) : Run (Option String) := do
  let start := start.getD "."
  Run.checkPath start
  findFirst (withParents (Path.real (← get).cwd start))

/-- The home directory: the one that the environment gives, or else that of the account. One given
by a tilde is not known. -/
def home : Run String := do
  let w ← get
  let given := ((w.environment.lookup "HOME").or w.account).getD "~"
  let path := String.ofList (given.toList.reverse.dropWhile (· = '/')).reverse
  if path.startsWith "~" then throw (.runtime "Could not determine home directory.")
  return Path.tidy (if path = "" then "/" else path)

/-- The file of configuration nearest to the working directory, or else in the home directory. -/
def discover : Run (Option String) := do
  match ← find none with
  | some p => return some p
  | none =>
    let directory ← home
    firstFile (dedicatedNames.map fun name => Path.tidy (Path.join directory name))

/-- The settings that apply: of the file named, or else of the one that the environment names, or
else of the one that is found. An empty name counts as none. -/
def loadFor (named fromEnvironment : Option String) : Run Json := do
  match (named.filter (· ≠ "")).or (fromEnvironment.filter (· ≠ "")) with
  | some p => load p
  | none =>
    match ← discover with
    | some p => load p
    | none => return .obj []

end Config

end DocFilter
