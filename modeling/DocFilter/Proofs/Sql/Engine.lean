import DocFilter.Proofs.Sql.Protocol
import Mathlib.Logic.Function.Basic

/-!
# Databases with transactions

What blocks of statements do to a database file, whatever the statements are. An engine says what a
statement makes of a content; what is left to say is when a content is saved. Outside a transaction
a statement takes effect at once or opens a transaction, and before rows are changed one is opened.
Inside a transaction nothing is saved before it ends. So a block that fails leaves behind what its
statements have saved themselves, which is nothing if they begin a transaction first and stay in it.
-/

namespace DocFilter

namespace Sql

/-! ### Engines -/

/-- What a statement does outside a transaction: it leaves a content that is saved at once, or it
opens a transaction. -/
inductive Alone (α : Type) where
  | saves (content : α)
  | opens

/-- What a statement does inside a transaction: the transaction goes on with a content, or it ends
with or without being saved. -/
inductive Within (α : Type) where
  | keeps (content : α)
  | saves
  | forgets

/-- How a statement ends, what the connection keeps to itself afterwards, and what the statement
does. -/
structure Reaction (κ ε : Type) where
  answer : Except (DatabaseFault × String) (Option ResultSet)
  kept : κ
  effect : ε

/-- A database engine: the contents of its files, and what a connection keeps to itself, such as its
settings and the tables of its own. Before a statement that changes rows a transaction is opened,
unless one is open; what a statement does depends on whether it runs alone or within a transaction.
What is kept changes with a commit or a rollback, and begins as `opened`. -/
structure Engine where
  Content : Type
  Kept : Type
  opened : Kept
  changesRows : String → Bool
  alone : String → Kept → Content → Reaction Kept (Alone Content)
  within : String → Kept → Content → Reaction Kept (Within Content)
  committed : Kept → Kept
  rolledBack : Kept → Kept

namespace Engine

/-- What a connection works on: the content that is saved, what it keeps to itself, and the content
as the open transaction sees it, if one is open. -/
structure Ledger (E : Engine) where
  saved : E.Content
  kept : E.Kept
  transaction : Option E.Content

variable {E : Engine}

namespace Ledger

def fresh (content : E.Content) : E.Ledger := ⟨content, E.opened, none⟩

/-- A statement on a connection. A transaction is opened before it if it changes rows. -/
def execute (sql : String) (l : E.Ledger) :
    Except (DatabaseFault × String) (Option ResultSet) × E.Ledger :=
  match l.transaction.or (if E.changesRows sql then some l.saved else none) with
  | none =>
    let r := E.alone sql l.kept l.saved
    (r.answer, match r.effect with
      | .saves content => ⟨content, r.kept, none⟩
      | .opens => ⟨l.saved, r.kept, some l.saved⟩)
  | some content =>
    let r := E.within sql l.kept content
    (r.answer, match r.effect with
      | .keeps content => ⟨l.saved, r.kept, some content⟩
      | .saves => ⟨content, r.kept, none⟩
      | .forgets => ⟨l.saved, r.kept, none⟩)

def commit (l : E.Ledger) : E.Ledger :=
  match l.transaction with
  | none => l
  | some content => ⟨content, E.committed l.kept, none⟩

def rollback (l : E.Ledger) : E.Ledger :=
  match l.transaction with
  | none => l
  | some _ => ⟨l.saved, E.rolledBack l.kept, none⟩

/-- Statements in turn, up to the first that fails. -/
def performEach : List String → ResultSet → E.Ledger → Except Failure ResultSet × E.Ledger
  | [], last, l => (.ok last, l)
  | sql :: rest, last, l =>
    match l.execute sql with
    | (.error (fault, message), l) => (.error (.database fault message), l)
    | (.ok result, l) => performEach rest (result.getD last) l

def performText (sql : String) (l : E.Ledger) : Except Failure ResultSet × E.Ledger :=
  match statements? sql with
  | some statements => performEach statements ⟨[], []⟩ l
  | none => (.error (.badValue "embedded null character"), l)

/-- What the end of a block makes of a connection. -/
def settle : Except Failure ResultSet → E.Ledger → E.Ledger
  | .ok _, l => l.commit
  | .error (.database _ _), l => l.rollback
  | .error _, l => l

def block (sql : String) (l : E.Ledger) : Except Failure ResultSet × E.Ledger :=
  let ending := l.performText sql
  (ending.1, settle ending.1 ending.2)

/-- What a call makes of the connection that it is made on. -/
def called (l : E.Ledger) : DatabaseCall → E.Ledger
  | .connect _ | .close _ => .fresh l.saved
  | .execute _ sql => (l.execute sql).2
  | .commit _ => l.commit
  | .rollback _ => l.rollback

@[simp] theorem transaction_commit (l : E.Ledger) : l.commit.transaction = none := by
  unfold commit
  split
  · assumption
  · rfl

@[simp] theorem transaction_rollback (l : E.Ledger) : l.rollback.transaction = none := by
  unfold rollback
  split
  · assumption
  · rfl

@[simp] theorem saved_rollback (l : E.Ledger) : l.rollback.saved = l.saved := by
  unfold rollback
  split <;> rfl

/-- Only the engine fails a statement. -/
theorem performEach_error {statements : List String} {last : ResultSet} {l : E.Ledger}
    {failure : Failure} (h : (performEach statements last l).1 = .error failure) :
    ∃ fault message, failure = .database fault message := by
  induction statements generalizing last l with
  | nil => cases h
  | cons sql rest ih =>
    rw [performEach] at h
    split at h
    · cases h
      exact ⟨_, _, rfl⟩
    · exact ih h

/-- A block without an open transaction ends without one. -/
theorem transaction_block {l : E.Ledger} (h : l.transaction = none) (sql : String) :
    (l.block sql).2.transaction = none := by
  unfold block performText
  cases statements? sql with
  | none => exact h
  | some statements =>
    dsimp only
    cases hended : (performEach statements ⟨[], []⟩ l).1 with
    | ok result => exact transaction_commit _
    | error failure =>
      obtain ⟨fault, message, rfl⟩ := performEach_error hended
      exact transaction_rollback _

/-- A block that fails leaves what its statements have saved themselves. -/
theorem saved_block_of_error {l : E.Ledger} {sql : String} {failure : Failure}
    (h : (l.block sql).1 = .error failure) :
    (l.block sql).2.saved = (l.performText sql).2.saved := by
  change (l.performText sql).1 = .error failure at h
  unfold block
  dsimp only
  rw [h]
  cases failure with
  | database fault message => exact saved_rollback _
  | _ => rfl

end Ledger

/-! ### Blocks that save nothing themselves -/

/-- A statement leaves a content as it is outside a transaction. -/
def Spares (E : Engine) (sql : String) : Prop :=
  E.changesRows sql = false ∧ ∀ kept content, (E.alone sql kept content).effect = .saves content

/-- A statement ends no transaction. -/
def Stays (E : Engine) (sql : String) : Prop :=
  ∀ kept content, ∃ content', (E.within sql kept content).effect = .keeps content'

/-- A statement begins a transaction, unless one is open. -/
def Begins (E : Engine) (sql : String) : Prop :=
  if E.changesRows sql then E.Stays sql
  else ∀ kept content, (E.alone sql kept content).effect = .opens

/-- Statements of which none changes a content before a transaction begins and none ends the
transaction. -/
inductive Guarded (E : Engine) : List String → Prop
  | nil : Guarded E []
  | spares {sql : String} {rest : List String} :
    E.Spares sql → Guarded E rest → Guarded E (sql :: rest)
  | begins {sql : String} {rest : List String} :
    E.Begins sql → (∀ later ∈ rest, E.Stays later) → Guarded E (sql :: rest)

/-- Whether the statements of a text are so. -/
def Guards (E : Engine) (sql : String) : Prop :=
  ∀ statements, statements? sql = some statements → E.Guarded statements

namespace Ledger
variable {sql : String} {statements : List String} {l : E.Ledger}

theorem execute_of_stays (h : E.Stays sql) (hopen : l.transaction.isSome = true) :
    (l.execute sql).2.saved = l.saved ∧ (l.execute sql).2.transaction.isSome = true := by
  obtain ⟨content, hcontent⟩ := Option.isSome_iff_exists.mp hopen
  obtain ⟨content', heffect⟩ := h l.kept content
  unfold execute
  rw [hcontent, Option.some_or]
  dsimp only
  rw [heffect]
  exact ⟨rfl, rfl⟩

theorem execute_of_begins (h : E.Begins sql) (hclosed : l.transaction = none) :
    (l.execute sql).2.saved = l.saved ∧ (l.execute sql).2.transaction.isSome = true := by
  unfold Begins at h
  unfold execute
  rw [hclosed, Option.none_or]
  split at h <;> rename_i hrows
  · obtain ⟨content', heffect⟩ := h l.kept l.saved
    rw [if_pos hrows]
    dsimp only
    rw [heffect]
    exact ⟨rfl, rfl⟩
  · rw [if_neg hrows]
    dsimp only
    rw [h]
    exact ⟨rfl, rfl⟩

theorem execute_of_spares (h : E.Spares sql) (hclosed : l.transaction = none) :
    (l.execute sql).2.saved = l.saved ∧ (l.execute sql).2.transaction = none := by
  unfold execute
  rw [hclosed, Option.none_or, h.1, if_neg Bool.false_ne_true]
  dsimp only
  rw [h.2]
  exact ⟨rfl, rfl⟩

theorem saved_performEach_cons {content : E.Content} {rest : List String}
    (hfirst : (l.execute sql).2.saved = content)
    (hrest : ∀ last, (performEach rest last (l.execute sql).2).2.saved = content)
    (last : ResultSet) : (performEach (sql :: rest) last l).2.saved = content := by
  rw [performEach]
  split <;> rename_i hexecute
  · rw [hexecute] at hfirst
    exact hfirst
  · rw [hexecute] at hrest
    exact hrest _

/-- Inside a transaction that no statement ends, nothing is saved. -/
theorem saved_performEach_of_stays (h : ∀ sql ∈ statements, E.Stays sql)
    (hopen : l.transaction.isSome = true) (last : ResultSet) :
    (performEach statements last l).2.saved = l.saved := by
  induction statements generalizing last l with
  | nil => rfl
  | cons sql rest ih =>
    obtain ⟨hsaved, hopen'⟩ := execute_of_stays (h sql List.mem_cons_self) hopen
    refine saved_performEach_cons hsaved (fun last => ?_) last
    rw [ih (fun later hlater => h later (List.mem_cons_of_mem sql hlater)) hopen', hsaved]

theorem saved_performEach_of_guarded (h : E.Guarded statements) (hclosed : l.transaction = none)
    (last : ResultSet) : (performEach statements last l).2.saved = l.saved := by
  induction h generalizing last l with
  | nil => rfl
  | @spares sql rest hsql _ ih =>
    obtain ⟨hsaved, hclosed'⟩ := execute_of_spares hsql hclosed
    exact saved_performEach_cons hsaved (fun last => by rw [ih hclosed', hsaved]) last
  | @begins sql rest hsql hstays =>
    obtain ⟨hsaved, hopen⟩ := execute_of_begins hsql hclosed
    refine saved_performEach_cons hsaved (fun last => ?_) last
    rw [saved_performEach_of_stays hstays hopen, hsaved]

/-- A guarded block that fails is undone as a whole. -/
theorem saved_block_of_guards (h : E.Guards sql) (hclosed : l.transaction = none)
    {failure : Failure} (hfails : (l.block sql).1 = .error failure) :
    (l.block sql).2.saved = l.saved := by
  rw [saved_block_of_error hfails]
  unfold performText
  cases hstatements : statements? sql with
  | none => rfl
  | some statements => exact saved_performEach_of_guarded (h statements hstatements) hclosed _

end Ledger

/-! ### Files -/

/-- A file as the connections to it see it: the content that is saved, and what each connection has
beside it. -/
structure Files (E : Engine) where
  saved : E.Content
  session : String → E.Kept × Option E.Content

/-- A file to which there are no connections. -/
def start (E : Engine) (content : E.Content) : E.Files := ⟨content, fun _ => (E.opened, none)⟩

namespace Files

/-- What the connection of a name works on. -/
def ledger (f : E.Files) (db : String) : E.Ledger := ⟨f.saved, (f.session db).1, (f.session db).2⟩

def put (f : E.Files) (db : String) (l : E.Ledger) : E.Files :=
  ⟨l.saved, Function.update f.session db (l.kept, l.transaction)⟩

@[simp] theorem saved_put (f : E.Files) (db : String) (l : E.Ledger) :
    (f.put db l).saved = l.saved := rfl

@[simp] theorem ledger_put (f : E.Files) (db : String) (l : E.Ledger) :
    (f.put db l).ledger db = l := by
  simp [ledger, put]

@[simp] theorem put_put (f : E.Files) (db : String) (l l' : E.Ledger) :
    (f.put db l).put db l' = f.put db l' := by
  simp [put]

@[simp] theorem put_ledger (f : E.Files) (db : String) : f.put db (f.ledger db) = f := by
  simp [put, ledger]

theorem session_put_of_ne {db name : String} (h : name ≠ db) (f : E.Files) (l : E.Ledger) :
    (f.put db l).session name = f.session name :=
  Function.update_of_ne h _ _

def call (names : String → Bool) (f : E.Files) (c : DatabaseCall) : E.Files :=
  if names c.db then f.put c.db ((f.ledger c.db).called c) else f

/-- What calls make of a file that has some names. -/
def after (names : String → Bool) (f : E.Files) (calls : List DatabaseCall) : E.Files :=
  calls.foldl (call names) f

/-- A block of statements for a database: on the connection to the file, if the database has one of
the names of the file. -/
def block (names : String → Bool) (default : String) (f : E.Files) (b : CodeBlock) : E.Files :=
  let db := databaseOf default b
  if names db then f.put db ((f.ledger db).block b.text).2 else f

def blocks (names : String → Bool) (default : String) (f : E.Files) (bs : List CodeBlock) :
    E.Files :=
  bs.foldl (block names default) f

def outcome (default : String) (f : E.Files) (b : CodeBlock) : Except Failure ResultSet :=
  ((f.ledger (databaseOf default b)).block b.text).1

/-- A block of which nothing is saved if it fails. -/
def undone (names : String → Bool) (default : String) (f : E.Files) (b : CodeBlock) : E.Files :=
  match f.outcome default b with
  | .ok _ => f.block names default b
  | .error _ => { f.block names default b with saved := f.saved }

section Blocks
variable {names : String → Bool} {default : String} {f : E.Files} {b : CodeBlock}

theorem block_of_name (h : names (databaseOf default b) = true) :
    f.block names default b =
      f.put (databaseOf default b) ((f.ledger (databaseOf default b)).block b.text).2 := if_pos h

theorem block_of_other (h : names (databaseOf default b) = false) :
    f.block names default b = f := if_neg (Bool.not_eq_true _ ▸ h)

theorem blocks_concat (f : E.Files) (bs : List CodeBlock) (b : CodeBlock) :
    f.blocks names default (bs ++ [b]) = (f.blocks names default bs).block names default b :=
  List.foldl_append

/-- Blocks leave no transaction open. -/
theorem closed_block (h : ∀ db, (f.session db).2 = none) (db : String) :
    ((f.block names default b).session db).2 = none := by
  cases hname : names (databaseOf default b) with
  | false =>
    rw [block_of_other hname]
    exact h db
  | true =>
    rw [block_of_name hname]
    by_cases hsame : db = databaseOf default b
    · rw [hsame, put]
      dsimp only
      rw [Function.update_self]
      exact Ledger.transaction_block (h (databaseOf default b)) b.text
    · rw [session_put_of_ne hsame]
      exact h db

/-- A block that fails leaves what its statements have saved themselves. -/
theorem saved_block_of_error (hname : names (databaseOf default b) = true) {failure : Failure}
    (hfails : f.outcome default b = .error failure) :
    (f.block names default b).saved =
      ((f.ledger (databaseOf default b)).performText b.text).2.saved := by
  rw [block_of_name hname]
  exact Ledger.saved_block_of_error hfails

theorem saved_block_of_guards (hguards : E.Guards b.text) (hclosed : ∀ db, (f.session db).2 = none)
    {failure : Failure} (hfails : f.outcome default b = .error failure) :
    (f.block names default b).saved = f.saved := by
  cases hname : names (databaseOf default b) with
  | false => rw [block_of_other hname]
  | true =>
    rw [block_of_name hname]
    exact Ledger.saved_block_of_guards hguards (hclosed _) hfails

/-- Guarded blocks save nothing if they fail. -/
theorem blocks_eq_undone {bs : List CodeBlock}
    (hguards : ∀ b ∈ bs, names (databaseOf default b) = true → E.Guards b.text)
    (hclosed : ∀ db, (f.session db).2 = none) :
    f.blocks names default bs = bs.foldl (undone names default) f := by
  induction bs generalizing f with
  | nil => rfl
  | cons b bs ih =>
    have hblock : f.undone names default b = f.block names default b := by
      unfold undone
      cases houtcome : f.outcome default b with
      | ok result => rfl
      | error failure =>
        cases hname : names (databaseOf default b) with
        | false => rw [block_of_other hname]
        | true =>
          have hsaved : (f.block names default b).saved = f.saved :=
            saved_block_of_guards (hguards b List.mem_cons_self hname) hclosed houtcome
          dsimp only
          rw [← hsaved]
    rw [List.foldl_cons, hblock]
    exact ih (fun b hb => hguards b (List.mem_cons_of_mem _ hb)) (closed_block hclosed)

end Blocks

end Files

/-! ### Scripts -/

def reply : Except (DatabaseFault × String) (Option ResultSet) → DatabaseAnswer
  | .ok none => .done
  | .ok (some result) => .rows result
  | .error (fault, message) => .fails (.database fault message)

/-- The script by which a file answers that has a content and some names, and never refuses a
connection; other databases answer as they like. -/
def script (E : Engine) (names : String → Bool) (content : E.Content) (others : DatabaseScript) :
    DatabaseScript where
  refusal? calls :=
    match calls.getLast? with
    | some (.connect db) => if names db then none else others.refusal? calls
    | _ => others.refusal? calls
  answer calls :=
    match calls.getLast? with
    | some (.execute db sql) =>
      if names db then
        reply ((((E.start content).after names calls.dropLast).ledger db).execute sql).1
      else others.answer calls
    | _ => others.answer calls

end Engine

end Sql

end DocFilter
