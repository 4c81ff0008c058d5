import DocFilter.Proofs.Sql.Engine

/-!
# The modelled tables as an engine

The tables that stand for a database where no script is followed are one engine. Every statement but
one that changes rows takes effect at once outside a transaction, and no statement ends a
transaction. A block on a connection to tables does to them what the block of the engine does.
-/

namespace DocFilter

/-- The tables in a database file, unless the file is no database. -/
def World.contentAt (w : World) (place : Place) : Option Sql.Tables :=
  match w.databases.saved.lookup place with
  | some tables => some tables
  | none =>
    match w.disk.find? place with
    | some (.file (_ :: _ :: _)) => none
    | _ => some []

namespace Sql

/-! ### The engine -/

/-- What a statement makes of a content, with its result set. -/
def effect (sql : String) (content : Option Tables) :
    Except (DatabaseFault × String) (Option ResultSet × Option Tables) :=
  if sql.toList.contains '\x00' then
    .error (.programming, "the query contains a null character")
  else
    match Statement.read sql with
    | .error fault => .error (.operational, fault.message)
    | .ok statement =>
      if statement.namesTable then
        match content with
        | none => .error (.general, "file is not a database")
        | some tables =>
          match statement.run tables with
          | .error message => .error (.operational, message)
          | .ok (tables, result) => .ok (result, if result.isSome then content else some tables)
      else
        match statement.run [] with
        | .error message => .error (.operational, message)
        | .ok (_, result) => .ok (result, content)

/-- Whether a transaction is opened before a statement, unless one is open. -/
def opensTransaction (sql : String) : Bool :=
  match Statement.read sql with
  | .ok statement => statement.changesRows
  | .error _ => false

/-- The engine of the modelled tables. Its connections keep nothing to themselves. -/
abbrev tablesEngine : Engine where
  Content := Option Tables
  Kept := Unit
  opened := ()
  changesRows := opensTransaction
  alone sql _ content :=
    match effect sql content with
    | .error refused => ⟨.error refused, (), .saves content⟩
    | .ok (result, content) => ⟨.ok result, (), .saves content⟩
  within sql _ content :=
    match effect sql content with
    | .error refused => ⟨.error refused, (), .keeps content⟩
    | .ok (result, content) => ⟨.ok result, (), .keeps content⟩
  committed _ := ()
  rolledBack _ := ()

/-! ### Statements -/

section Statements
variable {statement : Statement} {ts ts' : Tables}

theorem namesTable_of_changesRows (h : statement.changesRows = true) :
    statement.namesTable = true := by
  cases statement <;> first | rfl | cases h

theorem result_eq_none (h : statement.changesRows = true) {result : Option ResultSet}
    (hrun : statement.run ts = .ok (ts', result)) : result = none := by
  cases statement with
  | insert source columns rows =>
    simp only [Statement.run, bind, Except.bind] at hrun
    split at hrun
    · cases hrun
    · split at hrun
      · cases hrun
      · cases hrun
        rfl
  | delete name =>
    simp only [Statement.run, bind, Except.bind] at hrun
    split at hrun
    · cases hrun
    · cases hrun
      rfl
  | _ => cases h

theorem changesRows_of_no_table (h : statement.namesTable = false) :
    statement.changesRows = false := by
  cases hrows : statement.changesRows with
  | false => rfl
  | true => exact absurd (namesTable_of_changesRows hrows) (by simp [h])

theorem changesRows_of_result {result : ResultSet}
    (hrun : statement.run ts = .ok (ts', some result)) : statement.changesRows = false := by
  cases hrows : statement.changesRows with
  | false => rfl
  | true => cases result_eq_none hrows hrun

end Statements

/-! ### The ledger of a connection -/

/-- The file that tables are kept in, if they are kept in one. -/
def Store.place? : Store → Option Place
  | .memory _ => none
  | .file place => some place

/-- What a connection works on in a world. -/
def ledger (t : Connection × World) : tablesEngine.Ledger where
  saved := match t.1.store with
    | .memory tables => some tables
    | .file place => t.2.contentAt place
  kept := ()
  transaction := t.1.transaction.map some

/-- A connection has moved on: it keeps its place, and other places keep their content. -/
structure Moves (t t' : Connection × World) : Prop where
  script_eq : t'.2.databases.script = t.2.databases.script
  place_eq : t'.1.store.place? = t.1.store.place?
  content_eq : ∀ place, t.1.store.place? ≠ some place → t'.2.contentAt place = t.2.contentAt place

theorem Moves.refl (t : Connection × World) : Moves t t := ⟨rfl, rfl, fun _ _ => rfl⟩

theorem Moves.trans {t t' t'' : Connection × World} (h : Moves t t') (h' : Moves t' t'') :
    Moves t t'' := by
  refine ⟨h'.script_eq.trans h.script_eq, h'.place_eq.trans h.place_eq, fun place hplace => ?_⟩
  rw [h'.content_eq place (h.place_eq ▸ hplace), h.content_eq place hplace]

theorem moves_noting (c : Connection) (w : World) (calls : List DatabaseCall) :
    Moves (c, w) (c, w.noting calls) := ⟨rfl, rfl, fun _ _ => rfl⟩

theorem ledger_noting (c : Connection) (w : World) (calls : List DatabaseCall) :
    ledger (c, w.noting calls) = ledger (c, w) := rfl

theorem contentAt_saving (w : World) (place : Place) (tables : Tables) (other : Place) :
    (w.saving place tables).contentAt other =
      if other = place then some tables else w.contentAt other := by
  have herase : (w.databases.saved.filter (·.1 != place)).lookup other =
      if other == place then none else w.databases.saved.lookup other :=
    Dictionary.lookup_erase w.databases.saved place other
  unfold World.contentAt World.saving
  dsimp only
  rw [Dictionary.lookup_cons, herase]
  by_cases hother : other = place <;> simp [hother]

theorem moves_saving (c : Connection) (tables : Tables) (w : World) :
    Moves (c, w) (c.saving tables w) := by
  obtain ⟨name, store, transaction⟩ := c
  cases store with
  | memory old => exact ⟨rfl, rfl, fun _ _ => rfl⟩
  | file place =>
    refine ⟨rfl, rfl, fun other hother => ?_⟩
    refine (contentAt_saving w place tables other).trans (if_neg fun hsame => hother ?_)
    rw [hsame]
    rfl

theorem ledger_saving (c : Connection) (tables : Tables) (w : World) :
    ledger (c.saving tables w) = ⟨some tables, (), c.transaction.map some⟩ := by
  obtain ⟨name, store, transaction⟩ := c
  cases store with
  | memory old => rfl
  | file place =>
    change (⟨(w.saving place tables).contentAt place, (), _⟩ : tablesEngine.Ledger) = _
    rw [contentAt_saving, if_pos rfl]
    rfl

def seen (l : tablesEngine.Ledger) : Option Tables := l.transaction.getD l.saved

/-- The tables that a statement on a connection sees. -/
theorem run_current (c : Connection) (w : World) :
    c.current.run w = (match seen (ledger (c, w)) with
      | some tables => .ok tables
      | none => .error (.database .general "file is not a database"), w) := by
  obtain ⟨name, store, transaction⟩ := c
  cases transaction with
  | some tables => rfl
  | none =>
    cases store with
    | memory tables => rfl
    | file place =>
      unfold Connection.current Connection.saved seen ledger World.contentAt
      dsimp only
      rw [run_bind_of_ok (run_get w), Option.map_none, Option.getD_none]
      cases w.databases.saved.lookup place with
      | some tables => rfl
      | none =>
        cases w.disk.find? place with
        | none => rfl
        | some entry =>
          cases entry with
          | directory => rfl
          | file bytes =>
            match bytes with
            | [] | [_] | _ :: _ :: _ => rfl

/-! ### What calls of a connection do to its ledger -/

/-- A new content: outside a transaction it is saved at once, unless one is opened. -/
def keep (l : tablesEngine.Ledger) (opens : Bool) (content : Option Tables) :
    tablesEngine.Ledger :=
  if l.transaction.isSome || opens then ⟨l.saved, (), some content⟩ else ⟨content, (), none⟩

theorem keep_seen (l : tablesEngine.Ledger) : keep l false (seen l) = l := by
  obtain ⟨saved, kept, transaction⟩ := l
  cases transaction <;> rfl

/-- What a statement does to a ledger; one that fails saves nothing. -/
theorem execute_ledger (l : tablesEngine.Ledger) (sql : String) :
    match effect sql (seen l) with
    | .error refused => (l.execute sql).1 = .error refused ∧ (l.execute sql).2.saved = l.saved
    | .ok (result, content) =>
      l.execute sql = (.ok result, keep l (opensTransaction sql) content) := by
  obtain ⟨saved, ⟨⟩, transaction⟩ := l
  cases transaction with
  | some content =>
    cases heffect : effect sql content with
    | error refused => simp [seen, Engine.Ledger.execute, heffect]
    | ok done => simp [seen, Engine.Ledger.execute, keep, heffect]
  | none =>
    cases hopens : opensTransaction sql <;> cases heffect : effect sql saved <;>
      simp [seen, Engine.Ledger.execute, keep, heffect, hopens]

/-- Changed tables are saved at once, or kept in the transaction. -/
theorem change_ledger (c : Connection) (w : World) (ts : Tables) (opens : Bool) :
    ∃ t, (if c.transaction.isSome || opens then
        return ({ c with transaction := some ts }, none)
      else return (← c.save ts, none) : Run (Connection × Option ResultSet)).run w =
        (.ok (t.1, none), t.2) ∧
      Moves (c, w) t ∧ ledger t = keep (ledger (c, w)) opens (some ts) := by
  have htransaction : (ledger (c, w)).transaction.isSome = c.transaction.isSome :=
    Option.isSome_map
  rw [keep, htransaction]
  split
  · exact ⟨({ c with transaction := some ts }, w), rfl, ⟨rfl, rfl, fun _ _ => rfl⟩, rfl⟩
  · rename_i hclosed
    have hnone : c.transaction = none := by
      simp only [Bool.or_eq_true, not_or] at hclosed
      simpa using hclosed.1
    rw [run_bind_of_ok (run_save c ts w)]
    refine ⟨c.saving ts w, rfl, moves_saving c ts w, ?_⟩
    rw [ledger_saving, hnone]
    rfl

/-- A statement does to a connection what its effect is. -/
theorem perform_ledger (c : Connection) (sql : String) (w : World) :
    match effect sql (seen (ledger (c, w))) with
    | .error (fault, message) => (c.perform sql).run w = (.error (.database fault message), w)
    | .ok (result, content) => ∃ t, (c.perform sql).run w = (.ok (t.1, result), t.2) ∧
        Moves (c, w) t ∧ ledger t = keep (ledger (c, w)) (opensTransaction sql) content := by
  have hcurrent := run_current c w
  unfold Connection.perform effect
  cases hnull : sql.toList.contains '\x00' with
  | true => exact rfl
  | false =>
    rw [if_neg Bool.false_ne_true, if_neg Bool.false_ne_true]
    cases hread : Statement.read sql with
    | error fault => exact rfl
    | ok statement =>
      have hopens : opensTransaction sql = statement.changesRows := by
        rw [opensTransaction, hread]
      rw [hopens]
      dsimp only
      cases hnames : statement.namesTable with
      | false =>
        rw [if_neg Bool.false_ne_true, if_neg Bool.false_ne_true, run_bind_of_ok (run_pure [] w)]
        cases statement.run [] with
        | error message => exact rfl
        | ok done =>
          refine ⟨(c, w), ?_, .refl _, ?_⟩
          · simp only [Bool.not_false, Bool.or_true, if_true]
            rfl
          · rw [changesRows_of_no_table hnames, keep_seen]
      | true =>
        rw [if_pos rfl, if_pos rfl]
        cases hcontent : seen (ledger (c, w)) with
        | none =>
          rw [hcontent] at hcurrent
          exact run_bind_of_error hcurrent
        | some tables =>
          rw [hcontent] at hcurrent
          rw [run_bind_of_ok hcurrent]
          dsimp only
          cases hrun : statement.run tables with
          | error message => exact rfl
          | ok done =>
            obtain ⟨ts, result⟩ := done
            cases result with
            | some result =>
              refine ⟨(c, w), rfl, .refl _, ?_⟩
              rw [changesRows_of_result hrun, Option.isSome_some, if_pos rfl, ← hcontent, keep_seen]
            | none => exact change_ledger c w ts statement.changesRows

/-- Without a script, an execution does what the statement does. -/
theorem run_execute_unscripted {w : World} (h : w.databases.script = none) (c : Connection)
    (sql : String) :
    (c.execute sql).run w = (c.perform sql).run (w.noting [.execute c.name sql]) := by
  have hnoted : (w.noting [.execute c.name sql]).databases.script = none := h
  unfold Connection.execute
  rw [run_bind_of_ok (run_note _ w), run_bind_of_ok (run_get _), hnoted]

/-- Statements end as they do on the ledger, and save what they save there. The engine has a
transaction open after a change of rows that is refused, so that the ledgers may differ then. -/
theorem executeEach_ledger {w : World} (h : w.databases.script = none) (c : Connection)
    (statements : List String) (last : ResultSet) :
    let ending := (merged (executeEach statements last)).run (c, w)
    let performed := (ledger (c, w)).performEach statements last
    Moves (c, w) ending.2 ∧ ending.1 = performed.1 ∧
      (ledger ending.2).saved = performed.2.saved ∧
      ((∀ fault message, ending.1 ≠ .error (.database fault message)) →
        ledger ending.2 = performed.2) := by
  induction statements generalizing c w last with
  | nil => exact ⟨.refl _, rfl, rfl, fun _ => rfl⟩
  | cons sql rest ih =>
    have hnoted := moves_noting c w [.execute c.name sql]
    have hexecute := run_execute_unscripted h c sql
    have hperform := perform_ledger c sql (w.noting [.execute c.name sql])
    have hstep := execute_ledger (ledger (c, w)) sql
    rw [ledger_noting] at hperform
    dsimp only
    rw [Engine.Ledger.performEach]
    cases heffect : effect sql (seen (ledger (c, w))) with
    | error refused =>
      rw [heffect] at hperform hstep
      obtain ⟨hanswer, hsaved⟩ := hstep
      rw [run_executeEach_of_error (hexecute.trans hperform)]
      generalize (ledger (c, w)).execute sql = step at hanswer hsaved
      obtain ⟨answer, l⟩ := step
      obtain rfl : answer = .error refused := hanswer
      exact ⟨hnoted, rfl, hsaved.symm, fun hother => absurd rfl (hother _ _)⟩
    | ok done =>
      obtain ⟨result, content⟩ := done
      rw [heffect] at hperform hstep
      obtain ⟨⟨c', w'⟩, hrun, hmoves, hledger⟩ := hperform
      have hmoved := hnoted.trans hmoves
      rw [run_executeEach_of_ok (hexecute.trans hrun), hstep, ← hledger]
      obtain ⟨hrest, hending⟩ := ih (hmoved.script_eq.trans h) c' (result.getD last)
      exact ⟨hmoved.trans hrest, hending⟩

theorem statementsRun_ledger {w : World} (h : w.databases.script = none) (c : Connection)
    (sql : String) :
    let ending := (merged (statementsRun sql)).run (c, w)
    let performed := (ledger (c, w)).performText sql
    Moves (c, w) ending.2 ∧ ending.1 = performed.1 ∧
      (ledger ending.2).saved = performed.2.saved ∧
      ((∀ fault message, ending.1 ≠ .error (.database fault message)) →
        ledger ending.2 = performed.2) := by
  unfold statementsRun Engine.Ledger.performText
  cases statements? sql with
  | some statements => exact executeEach_ledger h c statements _
  | none => exact ⟨.refl _, rfl, rfl, fun _ => rfl⟩

theorem committed_ledger (c : Connection) (w : World) :
    Moves (c, w) (c.committed w) ∧ ledger (c.committed w) = (ledger (c, w)).commit := by
  obtain ⟨name, store, transaction⟩ := c
  cases transaction with
  | none => exact ⟨moves_noting _ w _, rfl⟩
  | some tables =>
    let c : Connection := ⟨name, store, some tables⟩
    have hnoted := moves_noting c w [.commit name]
    have hmoved := hnoted.trans (moves_saving c tables (w.noting [.commit name]))
    have hledger := ledger_saving c tables (w.noting [.commit name])
    have hsaved := congrArg Engine.Ledger.saved hledger
    exact ⟨⟨hmoved.script_eq, hmoved.place_eq, hmoved.content_eq⟩,
      congrArg (fun saved => (⟨saved, (), none⟩ : tablesEngine.Ledger)) hsaved⟩

/-- The end of a block moves its connection on. -/
theorem moves_settled (outcome : Except Failure ResultSet) (t : Connection × World) :
    Moves t (settled outcome t) := by
  obtain ⟨c, w⟩ := t
  cases outcome with
  | ok result => exact (committed_ledger c w).1
  | error failure =>
    cases failure with
    | database fault message => exact ⟨rfl, rfl, fun _ _ => rfl⟩
    | _ => exact .refl _

theorem rollback_ledger (l : tablesEngine.Ledger) : l.rollback = ⟨l.saved, (), none⟩ := by
  obtain ⟨saved, ⟨⟩, transaction⟩ := l
  cases transaction <;> rfl

/-- A block on a connection to tables ends as it does on the ledger, and leaves what it leaves
there. -/
theorem executeAll_ledger {w : World} (h : w.databases.script = none) (c : Connection)
    (sql : String) :
    let ending := (merged (executeAll sql)).run (c, w)
    Moves (c, w) ending.2 ∧ ending.1 = ((ledger (c, w)).block sql).1 ∧
      ledger ending.2 = ((ledger (c, w)).block sql).2 := by
  obtain ⟨hmoves, houtcome, hsaved, hother⟩ := statementsRun_ledger h c sql
  rw [run_executeAll, Engine.Ledger.block]
  dsimp only
  refine ⟨hmoves.trans (moves_settled _ _), houtcome, ?_⟩
  rw [← houtcome]
  generalize (merged (statementsRun sql)).run (c, w) = ending at hsaved hother
  obtain ⟨outcome, c', w'⟩ := ending
  cases outcome with
  | ok result =>
    rw [← hother nofun]
    exact (committed_ledger c' w').2
  | error failure =>
    cases failure with
    | database fault message =>
      refine Eq.trans ?_ (rollback_ledger _).symm
      rw [← hsaved]
      rfl
    | _ => exact hother nofun

/-! ### Blocks that leave nothing if they fail -/

/-- Whether a statement makes or drops a table. -/
def Statement.changesSchema : Statement → Bool
  | .create _ | .drop _ _ => true
  | _ => false

/-- Whether a text is a statement that makes or drops a table. -/
def changesTables (sql : String) : Bool :=
  match Statement.read sql with
  | .ok statement => statement.changesSchema
  | .error _ => false

/-- The statements before the first that opens a transaction. -/
def leading (statements : List String) : List String :=
  statements.takeWhile (!opensTransaction ·)

/-- A statement that names a table gives a result if it changes none. -/
theorem isSome_result {statement : Statement} (hrows : statement.changesRows = false)
    (hschema : statement.changesSchema = false)
    (hnames : statement.namesTable = true) {ts ts' : Tables} {result : Option ResultSet}
    (hrun : statement.run ts = .ok (ts', result)) : result.isSome = true := by
  cases statement with
  | query selected table sorting =>
    cases table with
    | none => cases hnames
    | some source =>
      simp only [Statement.run, bind, Except.bind] at hrun
      split at hrun
      · cases hrun
      · split at hrun
        · cases hrun
        · cases hrun
          rfl
  | empty => cases hnames
  | create c => cases hschema
  | drop table ifExists => cases hschema
  | insert table columns rows => cases hrows
  | delete table => cases hrows

theorem effect_eq_self {sql : String} {content content' : Option Tables}
    {result : Option ResultSet} (h : effect sql content = .ok (result, content'))
    (hopens : opensTransaction sql = false) (htables : changesTables sql = false) :
    content' = content := by
  unfold effect at h
  unfold opensTransaction at hopens
  unfold changesTables at htables
  split at h
  · cases h
  · split at h
    · cases h
    · rename_i statement hread
      rw [hread] at hopens htables
      split at h
      · split at h
        · cases h
        · rename_i tables
          split at h
          · cases h
          · rename_i hrun
            cases h
            rw [if_pos (isSome_result hopens htables ‹_› hrun)]
      · split at h
        · cases h
        · cases h
          rfl

theorem stays_tablesEngine (sql : String) : tablesEngine.Stays sql := by
  intro kept content
  dsimp only
  cases effect sql content with
  | error refused => exact ⟨content, rfl⟩
  | ok done => exact ⟨done.2, rfl⟩

theorem spares_tablesEngine {sql : String} (hopens : opensTransaction sql = false)
    (htables : changesTables sql = false) : tablesEngine.Spares sql := by
  refine ⟨hopens, fun kept content => ?_⟩
  dsimp only
  cases heffect : effect sql content with
  | error refused => rfl
  | ok done =>
    obtain ⟨result, content'⟩ := done
    exact congrArg Alone.saves (effect_eq_self heffect hopens htables)

/-- A block of which no statement makes or drops a table before a transaction is opened is undone as
a whole if it fails. -/
theorem guards_tablesEngine {sql : String} (h : ∀ statements, statements? sql = some statements →
    ∀ statement ∈ leading statements, changesTables statement = false) :
    tablesEngine.Guards sql := by
  intro statements hstatements
  have hleading := h statements hstatements
  clear h hstatements
  induction statements with
  | nil => exact .nil
  | cons sql rest ih =>
    cases hopens : opensTransaction sql with
    | true =>
      have hbegins : tablesEngine.Begins sql := by
        unfold Engine.Begins
        rw [if_pos hopens]
        exact stays_tablesEngine sql
      exact .begins hbegins fun later _ => stays_tablesEngine later
    | false =>
      rw [leading, List.takeWhile_cons_of_pos (by simp [hopens])] at hleading
      exact .spares (spares_tablesEngine hopens (hleading sql List.mem_cons_self))
        (ih fun statement hmem => hleading statement (List.mem_cons_of_mem sql hmem))

end Sql

end DocFilter
