import DocFilter.Sql.Splitting
import DocFilter.World

/-!
# Database connections

A connection runs statements one at a time. Before rows are changed a transaction is opened, unless
one is open; every other statement outside a transaction takes effect at once. Committing saves what
the open transaction did, rolling back forgets it.
-/

namespace DocFilter

namespace Sql

/-- Where the content of a database is kept: with the connection, or in a file. -/
inductive Store where
  | memory (tables : Tables)
  | file (place : Place)

/-- An open connection: the name of its database, the store, and the tables as the open transaction
sees them, if one is open. -/
structure Connection where
  name : String
  store : Store
  transaction : Option Tables

def note (call : DatabaseCall) : Run Unit :=
  modify fun w => { w with databases := { w.databases with calls := w.databases.calls ++ [call] } }

def operational (message : String) : Failure := .database .operational message

/-- One step on the way to the file of a database. What is missing can be stepped through, and `..`
goes back by a step, whatever stands there. -/
def stepToFile (d : Disk) (here : Place) (name : String) : Except Refusal Place :=
  if name = "" || name = "." then .ok here
  else if name = ".." then .ok here.dropLast
  else
    match (here ++ [name]).foldlM d.step [] with
    | .ok _ | .error .missing => .ok (here ++ [name])
    | .error refusal => .error refusal

def pathLimit : Nat := 504

/-- The place of the file of a database: a file, or a name in a directory. -/
def filePlace? (d : Disk) (here : Place) (db : String) : Option Place := do
  let start := if Path.isAbsolute db then [] else here
  let place ← ((splitAtChar '/' db).foldlM (stepToFile d) start).toOption
  if pathLimit < place.foldl (fun size name => size + name.utf8ByteSize + 1) 0 then none
  match d.find? place, d.find? place.dropLast with
  | some .directory, _ => none
  | some (.file _), _ | none, some .directory => some place
  | none, _ => none

/-- Opens the file of a database, which is made if it is missing. -/
def openFile (db : String) : Run Store := do
  if db.toList.contains '\x00' then throw (.badValue "embedded null byte")
  let w ← get
  match filePlace? w.disk w.here db with
  | some place => return .file place
  | none => throw (operational "unable to open database file")

/-- Opens a scripted connection whose database is known by no name, and so is refused by none. -/
def connectUnnamed (shown : String) : Run Connection := do
  note (.connect shown)
  return ⟨shown, .memory [], none⟩

def connect (db : String) : Run Connection := do
  note (.connect db)
  let w ← get
  match w.databases.script with
  | some script =>
    match script.refusal? w.databases.calls with
    | some (fault, message) => throw (.database fault message)
    | none => return ⟨db, .memory [], none⟩
  | none =>
    if db = ":memory:" || db = "" then return ⟨db, .memory [], none⟩
    else return ⟨db, ← openFile db, none⟩

namespace Connection

/-- The tables that are saved. A file of at most one byte holds none. -/
def saved (c : Connection) : Run Tables := do
  match c.store with
  | .memory tables => return tables
  | .file place =>
    let w ← get
    match w.databases.saved.lookup place with
    | some tables => return tables
    | none =>
      match w.disk.find? place with
      | some (.file (_ :: _ :: _)) => throw (.database .general "file is not a database")
      | _ => return []

def current (c : Connection) : Run Tables :=
  match c.transaction with
  | some tables => pure tables
  | none => c.saved

def save (c : Connection) (tables : Tables) : Run Connection := do
  match c.store with
  | .memory _ => return { c with store := .memory tables }
  | .file place =>
    modify fun w =>
      let kept := w.databases.saved.filter (·.1 != place)
      { w with databases := { w.databases with saved := (place, tables) :: kept } }
    return c

def perform (c : Connection) (sql : String) : Run (Connection × Option ResultSet) := do
  if sql.toList.contains '\x00' then
    throw (.database .programming "the query contains a null character")
  match Statement.read sql with
  | .error fault => throw (operational fault.message)
  | .ok statement =>
    let tables ← if statement.namesTable then c.current else pure []
    match statement.run tables with
    | .error message => throw (operational message)
    | .ok (tables, result) =>
      if result.isSome || !statement.namesTable then return (c, result)
      else if c.transaction.isSome || statement.changesRows then
        return ({ c with transaction := some tables }, none)
      else return (← c.save tables, none)

/-- Runs a statement, by the script if there is one. -/
def execute (c : Connection) (sql : String) : Run (Connection × Option ResultSet) := do
  note (.execute c.name sql)
  let w ← get
  match w.databases.script with
  | none => c.perform sql
  | some script =>
    match script.answer w.databases.calls with
    | .done => return (c, none)
    | .rows result => return (c, some result)
    | .fails failure => throw failure

def commit (c : Connection) : Run Connection := do
  note (.commit c.name)
  match c.transaction with
  | some tables => return { ← c.save tables with transaction := none }
  | none => return c

def rollback (c : Connection) : Run Connection := do
  note (.rollback c.name)
  return { c with transaction := none }

def close (c : Connection) : Run Unit := note (.close c.name)

end Connection

end Sql

end DocFilter
