import DocFilter.Failure
import DocFilter.Log
import DocFilter.Sql.Tables

/-!
# The world around a run

What a run can see and change: files, streams, variables, programs, databases and the log. A run is
a computation that may fail; what it changed before a failure stays changed.
-/

namespace DocFilter

/-- How the next launch of a program ends: with an exit code and what it wrote, or refused. -/
inductive ProgramOutcome where
  | exited (code : Int) (stdout stderr : List UInt8)
  | refused (code : Nat) (text : String)

/-- A launch of a program: its command line, and the text sent to it. -/
structure Launch where
  command : List Json
  input : String

/-- The outcomes of the launches to come, and the launches so far. -/
structure Programs where
  outcomes : List ProgramOutcome
  launches : List Launch

/-- A call of a database, naming the database. -/
inductive DatabaseCall where
  | connect (db : String)
  | execute (db sql : String)
  | commit (db : String)
  | rollback (db : String)
  | close (db : String)
deriving DecidableEq

inductive DatabaseAnswer where
  | done
  | rows (result : Sql.ResultSet)
  | fails (failure : Failure)

/-- Databases that answer by a script, which knows all calls so far, the one to be answered being
the last: the fault and message with which a connection is refused, if it is, and what an execution
does. -/
structure DatabaseScript where
  refusal? : List DatabaseCall → Option (DatabaseFault × String)
  answer : List DatabaseCall → DatabaseAnswer

def DatabaseCall.isExecution : DatabaseCall → Bool
  | .execute .. => true
  | _ => false

/-- The script that refuses databases by name, each with its own message, and answers executions in
turn. -/
def DatabaseScript.ofLists (refusals : List (String × String)) (answers : List DatabaseAnswer) :
    DatabaseScript where
  refusal? calls :=
    match calls.getLast? with
    | some (.connect db) => (refusals.lookup db).map ((.operational, ·))
    | _ => none
  answer calls := (answers[calls.countP DatabaseCall.isExecution - 1]?).getD .done

/-- The databases: their script, if they follow one, the saved content of database files, and the
calls so far. -/
structure Databases where
  script : Option DatabaseScript
  saved : List (Place × Sql.Tables)
  calls : List DatabaseCall

/-- What is around a run. `account` is the home directory of the account that runs it, as far as one
is known. -/
structure World where
  disk : Disk
  cwd : String
  environment : List (String × String)
  account : Option String
  stdin : String
  stdout : String
  stderr : String
  programs : Programs
  databases : Databases
  setup : Log.Setup
  records : List Log.Record
  opened : List String
  clock : String

abbrev Run := ExceptT Failure (StateM World)

namespace World

/-- A world with nothing in it but a disk and a working directory. -/
def initial (disk : Disk) (cwd : String) : World where
  disk := disk
  cwd := cwd
  environment := []
  account := none
  stdin := ""
  stdout := ""
  stderr := ""
  programs := ⟨[], []⟩
  databases := ⟨none, [], []⟩
  setup := .initial
  records := []
  opened := []
  clock := ""

def here (w : World) : Place := Path.steps w.cwd

/-- The world after a record was logged. Records below the threshold are only remembered. -/
def log (w : World) (r : Log.Record) : World :=
  let w := { w with records := w.records ++ [r] }
  if (r.level.number : Int) < w.setup.threshold then w
  else
    let line := r.text w.setup.style w.clock
    let disk := match w.setup.file with
      | none => w.disk
      | some file => (w.disk.append [] file (Utf8.encode line)).toOption.getD w.disk
    { w with stderr := w.stderr ++ line, disk := disk }

end World

namespace Run

def record (r : Log.Record) : Run Unit := modify (·.log r)

/-- Logs what is put together to a record, which may carry the words of a failure. -/
def log (level : Log.Level) (origin message : String) (failure : Option String) : Run Unit :=
  record ⟨level, origin, message, failure⟩

def debug (origin message : String) : Run Unit := log .debug origin message none
def info (origin message : String) : Run Unit := log .info origin message none
def warn (origin message : String) : Run Unit := log .warning origin message none

def cwd : Run String := return (← get).cwd

def print (text : String) : Run Unit := modify fun w => { w with stdout := w.stdout ++ text }

def printError (text : String) : Run Unit := modify fun w => { w with stderr := w.stderr ++ text }

def readInput : Run String := do
  let w ← get
  set { w with stdin := "" }
  return w.stdin

def attempt {α : Type} (x : Run α) : Run (Except Failure α) := fun w =>
  let (result, w) := x.run w
  (.ok result, w)

/-- Refuses text that no path can hold. -/
def checkPath (p : String) : Run Unit := do
  if p.toList.contains '\x00' then throw (.badValue "embedded null byte")

/-- What stands at a path, if anything does. Only a name that no file can have is a failure. -/
def entryAt? (p : String) : Run (Option Entry) := do
  if p.toList.contains '\x00' then return none
  let w ← get
  match w.disk.locate w.here p with
  | .ok place => return w.disk.find? place
  | .error .missing | .error .notDirectory => return none
  | .error refusal => throw (.os ⟨refusal, some (quoted p)⟩)

def isFile (p : String) : Run Bool := do
  match ← entryAt? p with
  | some (.file _) => return true
  | _ => return false

def readBytes (p : String) : Run (List UInt8) := do
  checkPath p
  let w ← get
  match w.disk.read w.here p with
  | .ok bytes =>
    set { w with opened := w.opened ++ [p] }
    return bytes
  | .error refusal => throw (.os ⟨refusal, some (quoted p)⟩)

/-- The text of the file at a path, with every end of line as a single line feed. -/
def readText (p : String) : Run String := do
  match Utf8.decode (← readBytes p) with
  | .ok text => return String.ofList (unifyLineEnds text.toList)
  | .error fault => throw (.undecodable fault)

def writeText (p text : String) : Run Unit := do
  checkPath p
  let w ← get
  match w.disk.write w.here p (Utf8.encode text) with
  | .ok disk => set { w with disk := disk }
  | .error refusal => throw (.os ⟨refusal, some (quoted p)⟩)

/-- Whether every word of a command line is one that an argument can hold. -/
def isLaunchable (command : List Json) : Bool :=
  (command.filterMap Json.text?).all fun word => !word.toList.contains '\x00'

/-- Launches a program with a text as its input. Without an outcome prepared for it, no program is
found. -/
def launch (command : List Json) (input : String) : Run (Int × List UInt8 × List UInt8) := do
  if !isLaunchable command then throw (.badValue "embedded null byte")
  let w ← get
  let subject := command.head?.map Json.shownInside
  let launched := { w.programs with launches := w.programs.launches ++ [⟨command, input⟩] }
  match w.programs.outcomes with
  | [] =>
    set { w with programs := launched }
    throw (.os ⟨.missing, subject⟩)
  | outcome :: rest =>
    set { w with programs := { launched with outcomes := rest } }
    match outcome with
    | .exited code stdout stderr => return (code, stdout, stderr)
    | .refused code text => throw (.os ⟨.other code text, subject⟩)

end Run

/-- A computation that also changes a state of its own, which survives a failure. -/
abbrev Act (σ : Type) := ExceptT Failure (StateT σ (StateM World))

namespace Act

def ofRun {σ α : Type} (x : Run α) : Act σ α := fun s w =>
  let (result, w) := x.run w
  ((result, s), w)

instance {σ : Type} : MonadLift Run (Act σ) := ⟨ofRun⟩

def getState {σ : Type} : Act σ σ := fun s w => ((.ok s, s), w)
def setState {σ : Type} (s : σ) : Act σ Unit := fun _ w => ((.ok (), s), w)

def attempt {σ α : Type} (x : Act σ α) : Act σ (Except Failure α) := fun s w =>
  let ((result, s), w) := x.run s w
  ((.ok result, s), w)

/-- A computation from a given state, with the state that it ends in. -/
def startingAt {σ α : Type} (s : σ) (x : Act σ α) : Run (Except Failure α × σ) := fun w =>
  let (result, w) := x.run s w
  (.ok result, w)

end Act

end DocFilter
