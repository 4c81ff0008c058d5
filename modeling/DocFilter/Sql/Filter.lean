import DocFilter.Filter
import DocFilter.Json.Table
import DocFilter.Sql.Connection
import DocFilter.Sql.ResultSet

/-!
# SQL in documents

A code block of class `sqlite-exec` is run as SQL, statement by statement, and replaced by the rows
of the last statement that gave some. A pass keeps one connection for each database, opened when a
block first needs it; all are closed when the pass ends. A block whose statements fail is rolled
back and shown with the failure.
-/

namespace DocFilter

namespace Sql

def logName : String := "docweave.filters.sqlite_exec"

def execute (sql : String) : Act Connection (Option ResultSet) := do
  let c ← Act.getState
  let (c, result) ← (c.execute sql : Run (Connection × Option ResultSet))
  Act.setState c
  return result

/-- Runs statements in turn; the result is that of the last one that has a result set. -/
def executeEach : List String → ResultSet → Act Connection ResultSet
  | [], last => pure last
  | sql :: rest, last => do
    let result ← execute sql
    executeEach rest (result.getD last)

/-- Runs the statements of a text. All that they did is saved if all succeed, and rolled back if the
database refuses one. -/
def executeAll (sql : String) : Act Connection ResultSet := do
  let work : Act Connection ResultSet :=
    match statements? sql with
    | some statements => executeEach statements ⟨[], []⟩
    | none => throw (.badValue "embedded null character")
  match ← work.attempt with
  | .ok result =>
    Act.setState (← ((← Act.getState).commit : Run Connection))
    return result
  | .error (.database fault message) =>
    Act.setState (← ((← Act.getState).rollback : Run Connection))
    throw (.database fault message)
  | .error failure => throw failure

/-- The open connections of a pass by the names of their databases, in the order of opening. -/
abbrev Connections := List (String × Connection)

/-- Opens the connection to a database unless it is open. -/
def ensureOpen (db : String) (connect : Run Connection) : Act Connections Unit := do
  let connections ← Act.getState
  if (connections.lookup db).isNone then
    (Run.debug logName s!"Opening SQLite database {db}" : Run Unit)
    let c ← (connect : Run Connection)
    Act.setState (connections ++ [(db, c)])

def replace (db : String) (c : Connection) (connections : Connections) : Connections :=
  connections.map fun (name, old) => if name = db then (name, c) else (name, old)

def withConnection {α : Type} (db : String) (work : Act Connection α) : Act Connections α :=
  fun connections w =>
    match connections.lookup db with
    | none => ((.error (operational "Cannot operate on a closed database."), connections), w)
    | some c =>
      let ((result, c), w) := work.run c w
      ((result, replace db c connections), w)

/-- The database of blocks that name none. It may be anything that an option can hold; only texts
can be opened. -/
structure Settings where
  db : Json

def errorNode (b : CodeBlock) (message : String) : Json :=
  let sql := b.text
  CodeBlock.toNode ⟨s!"-- SQL Query:\n{sql}\n\n-- ERROR:\n{message}", b.attr⟩

def resultNode (b : CodeBlock) (grid : String) : Json :=
  let sql := b.text
  CodeBlock.toNode ⟨s!"-- SQL Query:\n{sql}\n\n-- Results:\n{grid}", b.attr⟩

namespace Settings

/-- The name of the database of a block, and how it is opened. -/
def target (s : Settings) (b : CodeBlock) : Except Failure (String × Run Connection) :=
  match b.attr.given? "db", s.db with
  | some db, _ => .ok (db, connect db)
  | none, .str db => .ok (db, connect db)
  | none, v =>
    let name := v.shown
    let kind := v.typeName
    if !v.isKey then .error (.wrongType s!"unhashable type: '{kind}'")
    else .ok (name, do
      if (← get).databases.script.isSome then connectUnnamed name
      else throw (.wrongType s!"expected str, bytes or os.PathLike object, not {kind}"))

/-- What takes the place of a block. -/
def replacement (s : Settings) (b : CodeBlock) : Act Connections Json := do
  let (db, open_) ← MonadExcept.ofExcept (s.target b)
  let work : Act Connections ResultSet := do
    ensureOpen db open_
    withConnection db (executeAll b.text)
  match ← work.attempt with
  | .error (.database _ message) =>
    (Run.info logName s!"sqlite-exec query against {db} failed: {message}" : Run Unit)
    return errorNode b message
  | .error failure => throw failure
  | .ok result =>
    if (b.attr.given? "format").getD "table" = "table" then return result.table
    else match result.grid? with
      | some grid => return resultNode b grid
      | none => throw .outOfRange

def blockFilter (s : Settings) : BlockFilter Connections where
  name := "sqlite-exec"
  classes := ["sqlite-exec", "sqlite"]
  rewrite := s.replacement

def closeAll : Connections → Run Unit
  | [] => pure ()
  | (_, c) :: rest => do
    c.close
    closeAll rest

/-- A pass over a document from the connections open before it; all are closed at its end, whether
it fails or not. -/
def pass (s : Settings) (doc : Json) : Act Connections Json := do
  let result ← (s.blockFilter.sweep doc).attempt
  (closeAll (← Act.getState) : Run Unit)
  Act.setState []
  MonadExcept.ofExcept result

end Settings

end Sql

end DocFilter
