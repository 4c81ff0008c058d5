import DocFilter.Proofs.Sql.Block
import DocFilter.Proofs.Walk.Sweep

/-!
# The calls of a pass

Which calls of databases a pass makes, and in which order, whatever the databases answer. A session
is what the blocks of a document ask for, played against a script; the pass makes the calls of the
session and then closes what the session has opened.
-/

namespace DocFilter

/-- The script that is left of a script after some calls. -/
def DatabaseScript.after (script : DatabaseScript) (earlier : List DatabaseCall) :
    DatabaseScript where
  refusal? calls := script.refusal? (earlier ++ calls)
  answer calls := script.answer (earlier ++ calls)

def DatabaseCall.db : DatabaseCall → String
  | .connect db | .execute db _ | .commit db | .rollback db | .close db => db

def failureOf {α : Type} : Except Failure α → Option Failure
  | .ok _ => none
  | .error failure => some failure

namespace Sql

/-! ### Sessions -/

/-- What a block asks of the databases: the name of its database, and its statements, unless its
text cannot be split. The result is shown as a table or as text. -/
structure Turn where
  db : String
  statements : Option (List String)
  asText : Bool

/-- What a block asks for; `default` is the database of blocks that name none. -/
def turnOf (default : String) (b : CodeBlock) : Turn where
  db := databaseOf default b
  statements := statements? b.text
  asText := (b.attr.given? "format").getD "table" ≠ "table"

/-- A text without NUL can be split. -/
theorem isSome_statements? {sql : String} (h : '\x00' ∉ sql.toList) :
    (statements? sql).isSome = true := by
  suffices hsplit : ∀ cs buffer, '\x00' ∉ buffer → '\x00' ∉ cs →
      (splitFrom buffer cs).isSome = true from hsplit _ [] (by simp) h
  intro cs
  induction cs with
  | nil => exact fun _ _ _ => rfl
  | cons c cs ih =>
    intro buffer hbuffer hcs
    obtain ⟨hc, hrest⟩ : '\x00' ≠ c ∧ '\x00' ∉ cs := by simpa using hcs
    have hread : '\x00' ∉ c :: buffer := by simpa using ⟨hc, hbuffer⟩
    rw [splitFrom]
    split
    · rw [if_neg (by simpa using hread)]
      split
      · rw [Option.isSome_map]
        exact ih [] (by simp) hrest
      · exact ih _ hread hrest
    · exact ih _ hread hrest

/-- A session so far: its calls, the databases that it has opened, in the order of opening, and the
failure of its last turn, if that is to end it. -/
structure Session where
  calls : List DatabaseCall
  opened : List String
  failure : Option Failure

/-- Statements executed in turn, up to the first that fails: the last result set, or the failure,
and all calls with those before. -/
def executed (script : DatabaseScript) (db : String) :
    List String → ResultSet → List DatabaseCall → Except Failure ResultSet × List DatabaseCall
  | [], last, calls => (.ok last, calls)
  | sql :: rest, last, calls =>
    let calls := calls ++ [.execute db sql]
    match script.answer calls with
    | .done => executed script db rest last calls
    | .rows result => executed script db rest result calls
    | .fails failure => (.error failure, calls)

namespace Session

def start : Session := ⟨[], [], none⟩

/-- A database is connected to unless a connection has been opened. -/
def connect (script : DatabaseScript) (s : Session) (db : String) : Session :=
  if db ∈ s.opened then ⟨s.calls, s.opened, none⟩
  else
    let calls := s.calls ++ [.connect db]
    ⟨calls, if (script.refusal? calls).isNone then s.opened ++ [db] else s.opened, none⟩

theorem failure_connect (script : DatabaseScript) (s : Session) (db : String) :
    (s.connect script db).failure = none := by
  unfold connect
  split <;> rfl

section Connect
variable {script : DatabaseScript} {s : Session} {db : String}

theorem connect_of_open (h : db ∈ s.opened) :
    s.connect script db = ⟨s.calls, s.opened, none⟩ := if_pos h

theorem connect_of_refused (h : db ∉ s.opened)
    (hrefused : (script.refusal? (s.calls ++ [.connect db])).isNone = false) :
    s.connect script db = ⟨s.calls ++ [.connect db], s.opened, none⟩ := by
  rw [connect, if_neg h]
  simp [hrefused]

theorem connect_of_accepted (h : db ∉ s.opened)
    (haccepted : (script.refusal? (s.calls ++ [.connect db])).isNone = true) :
    s.connect script db = ⟨s.calls ++ [.connect db], s.opened ++ [db], none⟩ := by
  rw [connect, if_neg h]
  simp [haccepted]

end Connect

def execute (script : DatabaseScript) (s : Session) (turn : Turn) :
    Except Failure ResultSet × List DatabaseCall :=
  match turn.statements with
  | some statements => executed script turn.db statements ⟨[], []⟩ s.calls
  | none => (.error (.badValue "embedded null character"), s.calls)

/-- The end of a turn: a commit if all statements have succeeded, and a rollback if the database has
refused one. Any other failure ends the session, and so does a result that cannot be shown. -/
def conclude (s : Session) (turn : Turn) :
    Except Failure ResultSet × List DatabaseCall → Session
  | (.ok result, calls) =>
    let unshown := turn.asText && result.grid?.isNone
    ⟨calls ++ [.commit turn.db], s.opened, if unshown then some .outOfRange else none⟩
  | (.error (.database _ _), calls) => ⟨calls ++ [.rollback turn.db], s.opened, none⟩
  | (.error failure, calls) => ⟨calls, s.opened, some failure⟩

/-- A turn: nothing is executed without a connection. -/
def turn (script : DatabaseScript) (s : Session) (turn : Turn) : Session :=
  let s := s.connect script turn.db
  if turn.db ∈ s.opened then s.conclude turn (s.execute script turn) else s

def finished (s : Session) : List DatabaseCall := s.calls ++ s.opened.map .close

end Session

/-! ### Passes and sessions -/

def scripted (db : String) : Connection := ⟨db, .memory [], none⟩

section Answers
variable {script : DatabaseScript} {earlier calls : List DatabaseCall} {w : World}

/-- A world in which databases answer by a script, with calls made after earlier ones. -/
structure Answers (script : DatabaseScript) (earlier calls : List DatabaseCall) (w : World) :
    Prop where
  script_eq : w.databases.script = some script
  calls_eq : w.databases.calls = earlier ++ calls

theorem Answers.log (h : Answers script earlier calls w) (r : Log.Record) :
    Answers script earlier calls (w.log r) := by
  constructor
  · rw [World.databases_log, h.script_eq]
  · rw [World.databases_log, h.calls_eq]

theorem Answers.noting (h : Answers script earlier calls w) (more : List DatabaseCall) :
    Answers script earlier (calls ++ more) (w.noting more) :=
  ⟨h.script_eq, by rw [← List.append_assoc, ← h.calls_eq]; rfl⟩

theorem run_connect (h : Answers script earlier calls w) (db : String) :
    (Sql.connect db).run w = (match (script.after earlier).refusal? (calls ++ [.connect db]) with
      | some (fault, message) => .error (.database fault message)
      | none => .ok (scripted db), w.noting [.connect db]) := by
  have hnoted := h.noting [.connect db]
  unfold Sql.connect DatabaseScript.after
  rw [run_bind_of_ok (run_note _ w), run_bind_of_ok (run_get _), hnoted.script_eq]
  dsimp only
  rw [hnoted.calls_eq]
  cases script.refusal? (earlier ++ (calls ++ [.connect db])) <;> rfl

theorem run_execute (h : Answers script earlier calls w) (db sql : String) :
    ((scripted db).execute sql).run w =
      (match (script.after earlier).answer (calls ++ [.execute db sql]) with
      | .done => .ok (scripted db, none)
      | .rows result => .ok (scripted db, some result)
      | .fails failure => .error failure, w.noting [.execute db sql]) := by
  have hnoted := h.noting [.execute db sql]
  have hnote : (note (.execute (scripted db).name sql)).run w =
      (.ok (), w.noting [.execute db sql]) := rfl
  unfold Connection.execute DatabaseScript.after
  rw [run_bind_of_ok hnote, run_bind_of_ok (run_get _), hnoted.script_eq]
  dsimp only
  rw [hnoted.calls_eq]
  cases script.answer (earlier ++ (calls ++ [.execute db sql])) <;> rfl

/-- Statements are executed on a connection as in a session. -/
theorem run_executeEach (h : Answers script earlier calls w) (db : String)
    (statements : List String) (last : ResultSet) :
    ∃ w', (merged (executeEach statements last)).run (scripted db, w) =
        ((executed (script.after earlier) db statements last calls).1, (scripted db, w')) ∧
      Answers script earlier (executed (script.after earlier) db statements last calls).2 w' := by
  induction statements generalizing last calls w with
  | nil => exact ⟨w, rfl, h⟩
  | cons sql rest ih =>
    have hrun := run_execute h db sql
    have hnoted := h.noting [.execute db sql]
    rw [executed]
    cases hanswer : (script.after earlier).answer (calls ++ [.execute db sql]) with
    | done =>
      rw [hanswer] at hrun
      rw [run_executeEach_of_ok hrun]
      exact ih hnoted last
    | rows result =>
      rw [hanswer] at hrun
      rw [run_executeEach_of_ok hrun]
      exact ih hnoted result
    | fails failure =>
      rw [hanswer] at hrun
      rw [run_executeEach_of_error hrun]
      exact ⟨_, rfl, hnoted⟩

/-- The pass has made the calls of a session, and keeps the connections that the session has
opened. -/
structure Follows (script : DatabaseScript) (earlier : List DatabaseCall) (s : Session)
    (t : Connections × World) : Prop where
  answers : Answers script earlier s.calls t.2
  connections_eq : t.1 = s.opened.map fun db => (db, scripted db)

theorem lookup_scripted (dbs : List String) (db : String) :
    (dbs.map fun db => (db, scripted db)).lookup db =
      if db ∈ dbs then some (scripted db) else none := by
  induction dbs with
  | nil => rfl
  | cons name dbs ih =>
    rw [List.map_cons, Dictionary.lookup_cons, ih]
    by_cases hname : db = name <;> simp [hname]

theorem replace_scripted (dbs : List String) (db : String) :
    replace db (scripted db) (dbs.map fun db => (db, scripted db)) =
      dbs.map fun db => (db, scripted db) := by
  rw [replace, List.map_map]
  refine List.map_congr_left fun name _ => ?_
  dsimp only [Function.comp_apply]
  split
  · rename_i hname
    rw [hname]
  · rfl

theorem follows_ensureOpen {s : Session} {t : Connections × World}
    (h : Follows script earlier s t) (db : String) :
    Follows script earlier (s.connect (script.after earlier) db)
      ((merged (ensureOpen db (Sql.connect db))).run t).2 ∧
    (((merged (ensureOpen db (Sql.connect db))).run t).1 = .ok () ∧
        db ∈ (s.connect (script.after earlier) db).opened ∨
      (∃ fault message, ((merged (ensureOpen db (Sql.connect db))).run t).1 =
        .error (.database fault message)) ∧ db ∉ (s.connect (script.after earlier) db).opened) := by
  obtain ⟨cs, w⟩ := t
  have hlookup := lookup_scripted s.opened db
  rw [← h.connections_eq] at hlookup
  split at hlookup
  · rename_i hopen
    rw [run_ensureOpen_of_open _ hlookup, Session.connect_of_open hopen]
    exact ⟨⟨h.answers, h.connections_eq⟩, .inl ⟨rfl, hopen⟩⟩
  · rename_i hclosed
    have hanswers := (h.answers.log (opening db)).noting [.connect db]
    have hconnect := run_connect (h.answers.log (opening db)) db
    cases hrefusal : (script.after earlier).refusal? (s.calls ++ [.connect db]) with
    | some refusal =>
      rw [hrefusal] at hconnect
      rw [run_ensureOpen_of_closed hlookup hconnect,
        Session.connect_of_refused hclosed (by rw [hrefusal]; rfl)]
      refine ⟨⟨hanswers, ?_⟩, .inr ⟨⟨refusal.1, refusal.2, rfl⟩, hclosed⟩⟩
      exact (List.append_nil cs).trans h.connections_eq
    | none =>
      rw [hrefusal] at hconnect
      rw [run_ensureOpen_of_closed hlookup hconnect,
        Session.connect_of_accepted hclosed (by rw [hrefusal]; rfl)]
      refine ⟨⟨hanswers, ?_⟩, .inl ⟨rfl, by simp⟩⟩
      rw [List.map_append, ← h.connections_eq]
      rfl

/-- The statements of a block are executed as in a session. -/
theorem run_statementsRun {session : Session} (h : Answers script earlier session.calls w)
    (default : String) (b : CodeBlock) :
    ∃ w', (merged (statementsRun b.text)).run (scripted (turnOf default b).db, w) =
        ((session.execute (script.after earlier) (turnOf default b)).1,
          (scripted (turnOf default b).db, w')) ∧
      Answers script earlier (session.execute (script.after earlier) (turnOf default b)).2 w' := by
  unfold statementsRun Session.execute
  have hstatements : (turnOf default b).statements = statements? b.text := rfl
  rw [hstatements]
  cases statements? b.text with
  | some statements => exact run_executeEach h _ statements _
  | none => exact ⟨w, rfl, h⟩

theorem failureOf_shown (default : String) (b : CodeBlock) (result : ResultSet) :
    failureOf (shown b result) =
      if (turnOf default b).asText && result.grid?.isNone then some .outOfRange else none := by
  unfold shown turnOf
  dsimp only
  split
  · rename_i htable
    simp [htable, failureOf]
  · rename_i htext
    cases result.grid? <;> simp [htext, failureOf]

/-- A block ends as its turn does. -/
theorem follows_conclude {session : Session} {default : String} {b : CodeBlock}
    {outcome : Except Failure ResultSet} (h : Answers script earlier calls w) :
    let turn := turnOf default b
    let cs := session.opened.map fun db => (db, scripted db)
    let u := settled outcome (scripted turn.db, w)
    Follows script earlier (session.conclude turn (outcome, calls))
        (replace turn.db u.1 cs, reported turn.db outcome u.2) ∧
      failureOf (rendered b outcome) = (session.conclude turn (outcome, calls)).failure := by
  have hreplace := replace_scripted session.opened (turnOf default b).db
  cases outcome with
  | ok result => exact ⟨⟨h.noting _, hreplace⟩, failureOf_shown default b result⟩
  | error failure =>
    cases failure with
    | database fault message => exact ⟨⟨(h.noting _).log _, hreplace⟩, rfl⟩
    | _ => exact ⟨⟨h, hreplace⟩, rfl⟩

/-- A block does what its turn in the session does, and shows how the statements end, if they are
executed. -/
theorem follows_replacement {s : Settings} {default : String} (hdb : s.db = .str default)
    {session : Session} {t : Connections × World} (h : Follows script earlier session t)
    (b : CodeBlock) :
    let turn := turnOf default b
    let connected := session.connect (script.after earlier) turn.db
    Follows script earlier (session.turn (script.after earlier) turn)
        ((merged (s.replacement b)).run t).2 ∧
      failureOf ((merged (s.replacement b)).run t).1 =
        (session.turn (script.after earlier) turn).failure ∧
      (turn.db ∈ connected.opened → ((merged (s.replacement b)).run t).1 =
        rendered b (connected.execute (script.after earlier) turn).1) := by
  intro turn connected
  have htarget : s.target b = .ok ((turnOf default b).db, Sql.connect (turnOf default b).db) :=
    Settings.target_eq hdb
  rw [Settings.run_replacement htarget, blockRun, merged_bind, Session.turn]
  obtain ⟨hfollows, hopen⟩ := follows_ensureOpen h (turnOf default b).db
  generalize hconnect : (merged (ensureOpen (turnOf default b).db _)).run t = ending
    at hfollows hopen
  obtain ⟨outcome, cs, w⟩ := ending
  rcases hopen with ⟨houtcome, hopen⟩ | ⟨⟨fault, message, houtcome⟩, hclosed⟩
  · obtain rfl : outcome = .ok () := houtcome
    obtain ⟨hanswers, hcs⟩ := hfollows
    obtain rfl : cs = _ := hcs
    have hlookup := (lookup_scripted _ (turnOf default b).db).trans (if_pos hopen)
    obtain ⟨w', hrun, hanswers'⟩ := run_statementsRun hanswers default b
    rw [run_bind_of_ok hconnect, run_withConnection _ hlookup, run_executeAll, hrun, if_pos hopen]
    obtain ⟨hconcluded, hfailure⟩ := follows_conclude hanswers'
    exact ⟨hconcluded, hfailure, fun _ => rfl⟩
  · obtain rfl : outcome = .error (.database fault message) := houtcome
    rw [run_bind_of_error hconnect, if_neg hclosed]
    refine ⟨⟨hfollows.answers.log _, hfollows.connections_eq⟩, ?_, fun hopen => absurd hopen hclosed⟩
    exact (Session.failure_connect _ _ _).symm

def sessionOf (script : DatabaseScript) (default : String) (blocks : List CodeBlock) : Session :=
  (blocks.map (turnOf default)).foldl (Session.turn script) .start

theorem sessionOf_append (script : DatabaseScript) (default : String) (blocks : List CodeBlock)
    (b : CodeBlock) : sessionOf script default (blocks ++ [b]) =
      (sessionOf script default blocks).turn script (turnOf default b) := by
  simp only [sessionOf, List.map_append, List.foldl_append, List.map_cons, List.map_nil,
    List.foldl_cons, List.foldl_nil]

/-- Blocks do, one after the other, what their session does, and each shows how its statements end
in the session that the blocks before it make. -/
theorem follows_rewrites {s : Settings} {default : String} (hdb : s.db = .str default)
    {t u : Connections × World} {rewritings : List BlockFilter.Rewriting}
    (h : Follows script earlier .start t) (hrewrites : s.blockFilter.Rewrites t rewritings u) :
    let session := sessionOf (script.after earlier) default (rewritings.map (·.block))
    Follows script earlier session u ∧
      (session.failure = rewritings.getLast?.bind fun r => failureOf r.outcome) ∧
      ∀ (i : Nat) (r : BlockFilter.Rewriting), rewritings[i]? = some r →
        let turn := turnOf default r.block
        let connected := (sessionOf (script.after earlier) default
          ((rewritings.take i).map (·.block))).connect (script.after earlier) turn.db
        turn.db ∈ connected.opened → r.outcome =
          rendered r.block (connected.execute (script.after earlier) turn).1 := by
  induction hrewrites with
  | start => exact ⟨h, rfl, nofun⟩
  | @block done u b _ ih =>
    obtain ⟨hdone, -, hshown⟩ := ih
    obtain ⟨hfollows, hfailure, hlast⟩ := follows_replacement hdb hdone b
    rw [List.map_append, List.map_singleton, sessionOf_append, List.getLast?_concat]
    refine ⟨hfollows, hfailure.symm, fun i r hr => ?_⟩
    rcases Nat.lt_or_ge i done.length with hi | hi
    · rw [List.getElem?_append_left hi] at hr
      rw [List.take_append_of_le_length (Nat.le_of_lt hi)]
      exact hshown i r hr
    · rw [List.getElem?_append_right hi, List.getElem?_singleton] at hr
      split at hr
      · obtain rfl : i = done.length := by omega
        cases hr
        rw [List.take_left]
        exact hlast
      · cases hr

end Answers

/-! ### Order in a session -/

/-- By a place in a list of calls a database has been connected to, and the script did not refuse
it. -/
def ConnectedBy (script : DatabaseScript) (calls : List DatabaseCall) (i : Nat) (db : String) :
    Prop :=
  ∃ j < i, calls[j]? = some (.connect db) ∧ (script.refusal? (calls.take (j + 1))).isNone = true

section Order
variable {script : DatabaseScript} {calls : List DatabaseCall} {opened : List String}
variable {i : Nat} {db : String}

theorem ConnectedBy.append (h : ConnectedBy script calls i db) (hi : i ≤ calls.length)
    (more : List DatabaseCall) {k : Nat} (hk : i ≤ k) :
    ConnectedBy script (calls ++ more) k db := by
  obtain ⟨j, hj, hcall, haccepted⟩ := h
  refine ⟨j, by omega, ?_, ?_⟩
  · rw [List.getElem?_append_left (by omega), hcall]
  · rw [List.take_append_of_le_length (by omega), haccepted]

/-- Calls that open the databases of a list and close none. None is opened twice, and none is called
before it is opened, but to connect to it. -/
structure Orderly (script : DatabaseScript) (calls : List DatabaseCall) (opened : List String) :
    Prop where
  nodup : opened.Nodup
  connected : ∀ db ∈ opened, ConnectedBy script calls calls.length db
  unclosed : ∀ db, DatabaseCall.close db ∉ calls
  called : ∀ i call, calls[i]? = some call →
    call = .connect call.db ∨ ConnectedBy script calls i call.db

theorem Orderly.append (h : Orderly script calls opened) {call : DatabaseCall}
    (hclose : ∀ db, call ≠ .close db) (hcall : call = .connect call.db ∨ call.db ∈ opened) :
    Orderly script (calls ++ [call]) opened where
  nodup := h.nodup
  connected db hdb := (h.connected db hdb).append (Nat.le_refl _) _ (by simp)
  unclosed db hdb := by
    rcases List.mem_append.mp hdb with hdb | hdb
    · exact h.unclosed db hdb
    · exact hclose db (List.mem_singleton.mp hdb).symm
  called i call' hi := by
    by_cases hlt : i < calls.length
    · rw [List.getElem?_append_left hlt] at hi
      exact (h.called i call' hi).imp id fun hconnected => hconnected.append (by omega) _ (by omega)
    · obtain ⟨rfl, rfl⟩ : i = calls.length ∧ call = call' := by
        rw [List.getElem?_append_right (by omega), List.getElem?_singleton] at hi
        split at hi
        · exact ⟨by omega, Option.some.inj hi⟩
        · cases hi
      exact hcall.imp id fun hopen => (h.connected _ hopen).append (by omega) _ (by omega)

theorem Orderly.connect {s : Session} (h : Orderly script s.calls s.opened) (db : String) :
    Orderly script (s.connect script db).calls (s.connect script db).opened := by
  by_cases hopen : db ∈ s.opened
  · rw [Session.connect_of_open hopen]
    exact h
  · have happended : Orderly script (s.calls ++ [.connect db]) s.opened :=
      h.append (fun _ => nofun) (.inl rfl)
    cases haccepted : (script.refusal? (s.calls ++ [.connect db])).isNone with
    | false =>
      rw [Session.connect_of_refused hopen haccepted]
      exact happended
    | true =>
      rw [Session.connect_of_accepted hopen haccepted]
      refine ⟨?_, fun db' hdb' => ?_, happended.unclosed, happended.called⟩
      · refine List.nodup_append.mpr ⟨h.nodup, by simp, fun name hname db' hdb' hsame => hopen ?_⟩
        rw [← List.mem_singleton.mp hdb', ← hsame]
        exact hname
      · rcases List.mem_append.mp hdb' with hdb' | hdb'
        · exact happended.connected db' hdb'
        · rw [List.mem_singleton.mp hdb']
          refine ⟨s.calls.length, by simp, by simp, ?_⟩
          rw [List.take_of_length_le (by simp), haccepted]

theorem Orderly.executed (h : Orderly script calls opened) (hopen : db ∈ opened)
    (statements : List String) (last : ResultSet) :
    Orderly script (executed script db statements last calls).2 opened := by
  induction statements generalizing last calls with
  | nil => exact h
  | cons sql rest ih =>
    have happended : Orderly script (calls ++ [.execute db sql]) opened :=
      h.append (fun _ => nofun) (.inr hopen)
    rw [Sql.executed]
    cases script.answer (calls ++ [.execute db sql]) with
    | done => exact ih happended last
    | rows result => exact ih happended result
    | fails failure => exact happended

theorem Orderly.turn {s : Session} (h : Orderly script s.calls s.opened) (turn : Turn) :
    Orderly script (s.turn script turn).calls (s.turn script turn).opened := by
  have hconnect := h.connect turn.db
  rw [Session.turn]
  split
  · rename_i hopen
    have hexecute : Orderly script ((s.connect script turn.db).execute script turn).2
        (s.connect script turn.db).opened := by
      unfold Session.execute
      cases turn.statements with
      | some statements => exact hconnect.executed hopen statements _
      | none => exact hconnect
    generalize (s.connect script turn.db).execute script turn = ending at hexecute ⊢
    obtain ⟨outcome, calls⟩ := ending
    have hcommit : Orderly script (calls ++ [.commit turn.db]) _ :=
      hexecute.append (fun _ => nofun) (.inr hopen)
    have hrollback : Orderly script (calls ++ [.rollback turn.db]) _ :=
      hexecute.append (fun _ => nofun) (.inr hopen)
    cases outcome with
    | ok result => exact hcommit
    | error failure =>
      cases failure with
      | database fault message => exact hrollback
      | _ => exact hexecute
  · exact hconnect

theorem orderly_sessionOf (script : DatabaseScript) (default : String) (blocks : List CodeBlock) :
    Orderly script (sessionOf script default blocks).calls
      (sessionOf script default blocks).opened := by
  suffices h : ∀ (turns : List Turn) (s : Session), Orderly script s.calls s.opened →
      Orderly script (turns.foldl (Session.turn script) s).calls
        (turns.foldl (Session.turn script) s).opened from
    h _ .start ⟨List.nodup_nil, nofun, fun _ => nofun, fun _ _ => nofun⟩
  intro turns
  induction turns with
  | nil => exact fun s hs => hs
  | cons turn turns ih => exact fun s hs => ih (s.turn script turn) (hs.turn turn)

/-- In a session that has come to its end, every call but one to connect is made on an open
connection. -/
theorem Orderly.open_when_called {s : Session} (h : Orderly script s.calls s.opened) {i : Nat}
    {call : DatabaseCall} (hi : s.finished[i]? = some call) :
    call = .connect call.db ∨ ConnectedBy script s.finished i call.db ∧
      DatabaseCall.close call.db ∉ s.finished.take i := by
  unfold Session.finished at hi ⊢
  by_cases hlt : i < s.calls.length
  · rw [List.getElem?_append_left hlt] at hi
    refine (h.called i call hi).imp id fun hconnected => ?_
    refine ⟨hconnected.append (by omega) _ (by omega), fun hmem => ?_⟩
    rw [List.take_append_of_le_length (by omega)] at hmem
    exact h.unclosed _ (List.mem_of_mem_take hmem)
  · rw [List.getElem?_append_right (by omega), List.getElem?_map] at hi
    obtain ⟨db, hdb, rfl⟩ := Option.map_eq_some_iff.mp hi
    refine .inr ⟨(h.connected db (List.mem_of_getElem? hdb)).append (by omega) _ (by omega), ?_⟩
    rw [List.take_append, ← List.map_take]
    intro hmem
    rcases List.mem_append.mp hmem with hmem | hmem
    · exact h.unclosed _ (List.mem_of_mem_take hmem)
    · obtain ⟨db', hdb', hsame⟩ := List.mem_map.mp hmem
      obtain rfl : db' = db := by injection hsame
      obtain ⟨j, hj, hget⟩ := List.mem_take_iff_getElem.mp hdb'
      obtain ⟨hk, hget'⟩ := List.getElem?_eq_some_iff.mp hdb
      have hne := List.pairwise_iff_getElem.mp h.nodup j _ (by omega) hk (by omega)
      exact hne (hget.trans hget'.symm)

end Order

/-! ### The calls of a pass -/

/-- A pass makes the calls of the session of its blocks, and then closes what the session has
opened, in the order of opening, whatever the databases answer. It fails as the session does. Every
call but one to connect is made on an open connection. The blocks are those that the pass is handed
by the walk, and those without a NUL can be split into statements; if code blocks hold no nodes,
they are the blocks of the document in the order of its nodes, up to the one that the pass ends
with. -/
theorem pass_follows_session {s : Settings} {default : String} (hdb : s.db = .str default)
    {script : DatabaseScript} {w : World} (hscript : w.databases.script = some script)
    (doc : Json) :
    let ending := (merged (s.pass doc)).run ([], w)
    ∃ visits, Handed (nodes doc) visits ∧
      EndsAs (nodes doc) visits (fun as => patched as doc) ending.1 ∧
      let blocks := (s.blockFilter.rewritings visits).map (·.block)
      let session := sessionOf (script.after w.databases.calls) default blocks
      ending.2.2.databases.calls = w.databases.calls ++ session.finished ∧
      ending.2.1 = [] ∧
      (∀ failure, ending.1 = .error failure ↔ session.failure = some failure) ∧
      session.opened.Nodup ∧
      (∀ i call, session.finished[i]? = some call →
        call = .connect call.db ∨
          ConnectedBy (script.after w.databases.calls) session.finished i call.db ∧
          DatabaseCall.close call.db ∉ session.finished.take i) ∧
      (∀ b ∈ blocks, '\x00' ∉ b.text.toList → (turnOf default b).statements.isSome = true) ∧
      (BlockFilter.FlatBlocks doc →
        blocks = ((nodes doc).take visits.length).filterMap s.blockFilter.block?) := by
  obtain ⟨visits, hswept⟩ := s.blockFilter.sweptBy_sweep doc ([], w)
  have hstart : Follows script w.databases.calls .start ([], w) :=
    ⟨⟨hscript, (List.append_nil _).symm⟩, rfl⟩
  obtain ⟨hfollows, hfailure, -⟩ := follows_rewrites hdb hstart hswept.rewrites
  have horderly := orderly_sessionOf (script.after w.databases.calls) default
    ((s.blockFilter.rewritings visits).map (·.block))
  rw [Settings.run_pass]
  refine ⟨visits, hswept.handed, hswept.ends, ?_, rfl, fun failure => ?_, horderly.nodup,
    fun i call => horderly.open_when_called, fun b _ => isSome_statements?,
    hswept.blocks_eq s.givesObjects_blockFilter⟩
  · change _ ++ List.map _ _ = _
    rw [hfollows.connections_eq, hfollows.answers.calls_eq, List.map_map, List.append_assoc]
    rfl
  · rw [hswept.error_iff failure, hfailure]
    cases (s.blockFilter.rewritings visits).getLast? with
    | none => simp
    | some r =>
      obtain ⟨b, outcome⟩ := r
      cases outcome <;> simp [failureOf]

def retryingDoc : Json :=
  .arr [blockFor "a" "x;", blockFor "a" "y; z;", blockFor "b" "u", blockFor "a" "v;",
    blockFor "a" "w;"]

/-- The first connection is refused, `z;` is refused by the database, and `v;` fails otherwise. -/
def refusingOnce : DatabaseScript where
  refusal? calls := if calls = [.connect "a"] then some (.operational, "locked") else none
  answer calls :=
    match calls.getLast? with
    | some (.execute _ "z;") => .fails (.database .integrity "refused")
    | some (.execute _ "v;") => .fails (.runtime "stop")
    | _ => .done

def refusingWorld : World :=
  { World.initial ⟨[]⟩ "/" with databases := ⟨some refusingOnce, [], []⟩ }

/-- The refused connection is asked for again, and the last block is never reached. -/
theorem pass_follows_session_refused_once :
    Settings.db ⟨.str ":memory:"⟩ = .str ":memory:" ∧
      refusingWorld.databases.script = some refusingOnce ∧
      ∃ visits, Handed (nodes retryingDoc) visits ∧
        (sessionOf (refusingOnce.after []) ":memory:"
          (((Settings.blockFilter ⟨.str ":memory:"⟩).rewritings visits).map (·.block))).finished =
        [.connect "a", .connect "a", .execute "a" "y;", .execute "a" "z;", .rollback "a",
          .connect "b", .execute "b" "u", .commit "b", .execute "a" "v;", .close "a",
          .close "b"] := by
  obtain ⟨visits, hhanded, -, hcalls, -⟩ :=
    pass_follows_session (s := ⟨.str ":memory:"⟩) rfl (w := refusingWorld) rfl retryingDoc
  refine ⟨rfl, rfl, visits, hhanded, hcalls.symm.trans ?_⟩
  decide +kernel

end Sql

end DocFilter
