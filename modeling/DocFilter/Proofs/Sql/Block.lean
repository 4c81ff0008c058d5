import DocFilter.Proofs.Walk.Sweep
import DocFilter.Proofs.World
import DocFilter.Sql.Filter

/-!
# Runs of SQL blocks

How a block runs, put together from how its statements run: what becomes of its connection, what
takes its place, and how a pass ends. Nothing is said here of what statements do.
-/

namespace DocFilter

def World.noting (w : World) (calls : List DatabaseCall) : World :=
  { w with databases := { w.databases with calls := w.databases.calls ++ calls } }

def World.saving (w : World) (place : Place) (tables : Sql.Tables) : World :=
  let kept := w.databases.saved.filter (·.1 != place)
  { w with databases := { w.databases with saved := (place, tables) :: kept } }

@[simp] theorem World.noting_nil (w : World) : w.noting [] = w := by
  rw [World.noting, List.append_nil]

@[simp] theorem World.noting_noting (w : World) (calls more : List DatabaseCall) :
    (w.noting calls).noting more = w.noting (calls ++ more) := by
  simp only [World.noting, List.append_assoc]

namespace Sql

theorem run_note (call : DatabaseCall) (w : World) :
    (note call).run w = (.ok (), w.noting [call]) := rfl

/-! ### The statements of a block -/

theorem run_executeEach_of_ok {sql : String} {c c' : Connection} {w w' : World}
    {result : Option ResultSet} (h : (c.execute sql).run w = (.ok (c', result), w'))
    (rest : List String) (last : ResultSet) :
    (merged (executeEach (sql :: rest) last)).run (c, w) =
      (merged (executeEach rest (result.getD last))).run (c', w') := by
  have hexecute : (merged (execute sql)).run (c, w) = (.ok result, (c', w')) := by
    unfold execute
    rw [merged_bind, run_bind_of_ok (run_merged_getState _), merged_bind,
      run_bind_of_ok (run_merged_lift h)]
    rfl
  rw [executeEach, merged_bind, run_bind_of_ok hexecute]

theorem run_executeEach_of_error {sql : String} {c : Connection} {w w' : World}
    {failure : Failure} (h : (c.execute sql).run w = (.error failure, w')) (rest : List String)
    (last : ResultSet) :
    (merged (executeEach (sql :: rest) last)).run (c, w) = (.error failure, (c, w')) := by
  have hexecute : (merged (execute sql)).run (c, w) = (.error failure, (c, w')) := by
    unfold execute
    rw [merged_bind, run_bind_of_ok (run_merged_getState _), merged_bind,
      run_bind_of_error (run_merged_lift h)]
  rw [executeEach, merged_bind, run_bind_of_error hexecute]

def statementsRun (sql : String) : Act Connection ResultSet :=
  match statements? sql with
  | some statements => executeEach statements ⟨[], []⟩
  | none => throw (.badValue "embedded null character")

def Connection.saving (c : Connection) (tables : Tables) (w : World) : Connection × World :=
  match c.store with
  | .memory _ => ({ c with store := .memory tables }, w)
  | .file place => (c, w.saving place tables)

def Connection.committed (c : Connection) (w : World) : Connection × World :=
  let w := w.noting [.commit c.name]
  match c.transaction with
  | none => (c, w)
  | some tables => ({ (c.saving tables w).1 with transaction := none }, (c.saving tables w).2)

def Connection.rolledBack (c : Connection) (w : World) : Connection × World :=
  ({ c with transaction := none }, w.noting [.rollback c.name])

theorem run_save (c : Connection) (tables : Tables) (w : World) :
    (c.save tables).run w = (.ok (c.saving tables w).1, (c.saving tables w).2) := by
  obtain ⟨name, store, transaction⟩ := c
  cases store <;> rfl

theorem run_commit (c : Connection) (w : World) :
    c.commit.run w = (.ok (c.committed w).1, (c.committed w).2) := by
  obtain ⟨name, store, transaction⟩ := c
  cases transaction with
  | none => rfl
  | some tables => cases store <;> rfl

/-- What happens to a connection after the statements of a block: if they succeed, everything is
saved; if the database refuses one, everything is forgotten; any other failure leaves it alone. -/
def settled : Except Failure ResultSet → Connection × World → Connection × World
  | .ok _, t => t.1.committed t.2
  | .error (.database _ _), t => t.1.rolledBack t.2
  | .error _, t => t

theorem run_executeAll (sql : String) (t : Connection × World) :
    (merged (executeAll sql)).run t = (((merged (statementsRun sql)).run t).1,
      settled ((merged (statementsRun sql)).run t).1 ((merged (statementsRun sql)).run t).2) := by
  unfold executeAll
  change (merged ((statementsRun sql).attempt >>= _)).run t = _
  rw [merged_bind, run_bind_of_ok (run_merged_attempt _ t)]
  obtain ⟨outcome, c, w⟩ := (merged (statementsRun sql)).run t
  cases outcome with
  | ok result =>
    dsimp only
    rw [merged_bind, run_bind_of_ok (run_merged_getState _), merged_bind,
      run_bind_of_ok (run_merged_lift (run_commit c w))]
    rfl
  | error failure =>
    cases failure <;> rfl

/-! ### The connection of a block -/

def opening (db : String) : Log.Record :=
  ⟨.debug, logName, s!"Opening SQLite database {db}", none⟩

section Connections
variable {db : String} {cs : Connections} {w : World}

theorem run_ensureOpen_of_open (connect : Run Connection) {c : Connection}
    (h : cs.lookup db = some c) :
    (merged (ensureOpen db connect)).run (cs, w) = (.ok (), (cs, w)) := by
  unfold ensureOpen
  rw [merged_bind, run_bind_of_ok (run_merged_getState _), h]
  rfl

theorem run_ensureOpen_of_closed {connect : Run Connection} {outcome : Except Failure Connection}
    {w' : World} (h : cs.lookup db = none)
    (hconnect : connect.run (w.log (opening db)) = (outcome, w')) :
    (merged (ensureOpen db connect)).run (cs, w) =
      (outcome.map fun _ => (), (cs ++ (outcome.toOption.map (db, ·)).toList, w')) := by
  have hrecord : (Run.debug logName s!"Opening SQLite database {db}").run w =
      (.ok (), w.log (opening db)) := rfl
  unfold ensureOpen
  rw [merged_bind, run_bind_of_ok (run_merged_getState _), h]
  change (merged (_ >>= _)).run _ = _
  rw [merged_bind, run_bind_of_ok (run_merged_lift hrecord), merged_bind]
  cases outcome with
  | ok c =>
    rw [run_bind_of_ok (run_merged_lift hconnect)]
    rfl
  | error failure =>
    rw [run_bind_of_error (run_merged_lift hconnect)]
    simp [Except.map, Except.toOption]

theorem run_withConnection {α : Type} (work : Act Connection α) {c : Connection}
    (h : cs.lookup db = some c) :
    (merged (withConnection db work)).run (cs, w) = (((merged work).run (c, w)).1,
      (replace db ((merged work).run (c, w)).2.1 cs, ((merged work).run (c, w)).2.2)) := by
  unfold withConnection merged ExceptT.run
  dsimp only
  rw [h]
  rfl

theorem run_withConnection_of_closed {α : Type} (work : Act Connection α)
    (h : cs.lookup db = none) :
    (merged (withConnection db work)).run (cs, w) =
      (.error (operational "Cannot operate on a closed database."), (cs, w)) := by
  unfold withConnection merged ExceptT.run
  dsimp only
  rw [h]

end Connections

/-! ### What takes the place of a block -/

/-- The name of the database of a block; `default` is the database of blocks that name none. -/
def databaseOf (default : String) (b : CodeBlock) : String := (b.attr.given? "db").getD default

def blockRun (db : String) (connect : Run Connection) (sql : String) :
    Act Connections ResultSet := do
  ensureOpen db connect
  withConnection db (executeAll sql)

/-- What is logged when a database refuses a block. -/
def refusing (db message : String) : Log.Record :=
  ⟨.info, logName, s!"sqlite-exec query against {db} failed: {message}", none⟩

def shown (b : CodeBlock) (result : ResultSet) : Except Failure Json :=
  if (b.attr.given? "format").getD "table" = "table" then .ok result.table
  else match result.grid? with
    | some grid => .ok (resultNode b grid)
    | none => .error .outOfRange

/-- What takes the place of a block, by how it ran. -/
def rendered (b : CodeBlock) : Except Failure ResultSet → Except Failure Json
  | .ok result => shown b result
  | .error (.database _ message) => .ok (errorNode b message)
  | .error failure => .error failure

/-- What is logged about a block, by how it ran. -/
def reported (db : String) : Except Failure ResultSet → World → World
  | .error (.database _ message), w => w.log (refusing db message)
  | _, w => w

theorem outline_shown {b : CodeBlock} {result : ResultSet} {a : Json}
    (h : shown b result = .ok a) : outline a = .obj [] := by
  unfold shown ResultSet.table at h
  split at h
  · cases h
    split <;> rfl
  · split at h
    · cases h
      rfl
    · cases h

theorem outline_rendered {b : CodeBlock} {outcome : Except Failure ResultSet} {a : Json}
    (h : rendered b outcome = .ok a) : outline a = .obj [] := by
  cases outcome with
  | ok result => exact outline_shown h
  | error failure =>
    cases failure with
    | database fault message =>
      cases h
      rfl
    | _ => cases h

namespace Settings
variable {s : Settings} {b : CodeBlock}

theorem target_eq {default : String} (h : s.db = .str default) :
    s.target b = .ok (databaseOf default b, connect (databaseOf default b)) := by
  unfold target databaseOf
  rw [h]
  cases b.attr.given? "db" <;> rfl

theorem run_replacement {db : String} {connect : Run Connection}
    (h : s.target b = .ok (db, connect)) (t : Connections × World) :
    (merged (s.replacement b)).run t =
      let outcome := ((merged (blockRun db connect b.text)).run t).1
      let u := ((merged (blockRun db connect b.text)).run t).2
      (rendered b outcome, (u.1, reported db outcome u.2)) := by
  unfold replacement
  rw [h, merged_bind, run_bind_of_ok (run_merged_ofExcept _ t)]
  dsimp only
  change (merged ((blockRun db connect b.text).attempt >>= _)).run t = _
  rw [merged_bind, run_bind_of_ok (run_merged_attempt _ t)]
  obtain ⟨outcome, u⟩ := (merged (blockRun db connect b.text)).run t
  cases outcome with
  | ok result =>
    unfold rendered shown
    dsimp only
    split
    · rfl
    · cases result.grid? <;> rfl
  | error failure => cases failure <;> rfl

theorem givesObjects_blockFilter (s : Settings) : s.blockFilter.GivesObjects := by
  intro b t a h
  change ((merged (s.replacement b)).run t).1 = .ok a at h
  cases htarget : s.target b with
  | error failure =>
    unfold replacement at h
    rw [htarget, merged_bind, run_bind_of_error (run_merged_ofExcept _ t)] at h
    cases h
  | ok target =>
    rw [run_replacement htarget] at h
    exact outline_rendered h

theorem run_closeAll (cs : Connections) (w : World) :
    (closeAll cs).run w = (.ok (), w.noting (cs.map fun c => .close c.2.name)) := by
  induction cs generalizing w with
  | nil => rw [List.map_nil, World.noting_nil, closeAll, run_pure]
  | cons c cs ih =>
    have hclose : c.2.close.run w = (.ok (), w.noting [.close c.2.name]) := rfl
    rw [closeAll, run_bind_of_ok hclose, ih, World.noting_noting]
    rfl

def closed (t : Connections × World) : Connections × World :=
  ([], t.2.noting (t.1.map fun c => .close c.2.name))

theorem run_pass (s : Settings) (doc : Json) (t : Connections × World) :
    (merged (s.pass doc)).run t = (((merged (s.blockFilter.sweep doc)).run t).1,
      closed ((merged (s.blockFilter.sweep doc)).run t).2) := by
  unfold pass
  rw [merged_bind, run_bind_of_ok (run_merged_attempt _ t)]
  obtain ⟨outcome, cs, w⟩ := (merged (s.blockFilter.sweep doc)).run t
  dsimp only
  rw [merged_bind, run_bind_of_ok (run_merged_getState _), merged_bind,
    run_bind_of_ok (run_merged_lift (run_closeAll cs w)), merged_bind,
    run_bind_of_ok (run_merged_setState _ _), run_merged_ofExcept]
  rfl

end Settings

def blockFor (db sql : String) : Json :=
  CodeBlock.toNode ⟨sql, ⟨"", [.str "sqlite-exec"], [("db", db)]⟩⟩

end Sql

end DocFilter
