import DocFilter.Proofs.Sql.Tables

/-!
# What a pass saves

What becomes of a database file in a pass, whatever engine is behind the connections. The calls of a
session change the file block by block, and a block shows what its statements come to on the content
that the blocks before it have left. A statement that takes effect at once is not undone when its
block fails.
-/

namespace DocFilter

namespace Sql

namespace Engine
variable {E : Engine} {names : String → Bool} {content : E.Content} {others : DatabaseScript}

/-! ### Calls of a file -/

namespace Files
variable {f : E.Files} {db : String} {c : DatabaseCall}

theorem after_append (f : E.Files) (calls more : List DatabaseCall) :
    f.after names (calls ++ more) = (f.after names calls).after names more :=
  List.foldl_append

theorem after_concat (f : E.Files) (calls : List DatabaseCall) (c : DatabaseCall) :
    f.after names (calls ++ [c]) = (f.after names calls).call names c :=
  after_append f calls [c]

theorem call_of_name (h : names c.db = true) (f : E.Files) :
    f.call names c = f.put c.db ((f.ledger c.db).called c) := if_pos h

theorem call_of_other (h : names c.db = false) (f : E.Files) : f.call names c = f :=
  if_neg (Bool.not_eq_true _ ▸ h)

/-- Closing connections saves nothing. -/
theorem saved_after_closes (f : E.Files) (dbs : List String) :
    (f.after names (dbs.map .close)).saved = f.saved := by
  induction dbs generalizing f with
  | nil => rfl
  | cons db dbs ih =>
    have hclose : (f.call names (.close db)).saved = f.saved := by
      unfold call
      split <;> rfl
    exact (ih (f.call names (.close db))).trans hclose

end Files

/-! ### The session of a file -/

section Answers
variable {calls : List DatabaseCall} {db : String}

theorem refusal?_script (h : names db = true) :
    (E.script names content others).refusal? (calls ++ [.connect db]) = none := by
  simp [script, h]

theorem answer_script (h : names db = true) (sql : String) :
    (E.script names content others).answer (calls ++ [.execute db sql]) =
      reply ((((E.start content).after names calls).ledger db).execute sql).1 := by
  simp [script, h]

/-- The statements of a block are performed on the connection to the file. -/
theorem executed_script (h : names db = true) (others : DatabaseScript) {f : E.Files}
    (hf : (E.start content).after names calls = f) (statements : List String) (last : ResultSet) :
    let ending := executed (E.script names content others) db statements last calls
    let performed := (f.ledger db).performEach statements last
    ending.1 = performed.1 ∧ (E.start content).after names ending.2 = f.put db performed.2 := by
  induction statements generalizing last calls f with
  | nil => exact ⟨rfl, hf.trans (f.put_ledger db).symm⟩
  | cons sql rest ih =>
    have hanswer : (E.script names content others).answer (calls ++ [.execute db sql]) =
        reply ((f.ledger db).execute sql).1 := by
      rw [answer_script h, hf]
    have hcall : (E.start content).after names (calls ++ [.execute db sql]) =
        f.put db ((f.ledger db).execute sql).2 := by
      rw [Files.after_concat, hf, Files.call_of_name h]
      rfl
    have hrest (last : ResultSet) := ih hcall last
    simp only [Files.ledger_put, Files.put_put] at hrest
    rw [executed, Ledger.performEach]
    dsimp only
    rw [hanswer]
    generalize (f.ledger db).execute sql = step at hcall hrest
    obtain ⟨answer, l⟩ := step
    cases answer with
    | error fault => exact ⟨rfl, hcall⟩
    | ok result =>
      cases result with
      | none => exact hrest last
      | some result => exact hrest result

/-- Statements for another database leave the file alone. -/
theorem executed_of_other {script : DatabaseScript} (h : names db = false) (f : E.Files)
    (statements : List String) (last : ResultSet) :
    f.after names (executed script db statements last calls).2 = f.after names calls := by
  induction statements generalizing last calls with
  | nil => rfl
  | cons sql rest ih =>
    have hcall : f.after names (calls ++ [.execute db sql]) = f.after names calls := by
      rw [Files.after_concat, Files.call_of_other h]
    rw [executed]
    split
    · rw [ih, hcall]
    · rw [ih, hcall]
    · exact hcall

end Answers

/-- The calls of a session have made of a file what blocks make of it: no transaction is open, and
where no connection has been opened there is nothing but what a new one has. -/
structure Reflects (names : String → Bool) (content : E.Content) (s : Session) (f : E.Files) :
    Prop where
  after_eq : (E.start content).after names s.calls = f
  closed : ∀ db, (f.session db).2 = none
  unopened : ∀ db, names db = true → db ∉ s.opened → f.session db = (E.opened, none)

theorem reflects_start : Reflects names content .start (E.start content) :=
  ⟨rfl, fun _ => rfl, fun _ _ _ => rfl⟩

section Turn
variable {s : Session} {f : E.Files} {default : String} {b : CodeBlock}

/-- The connection to the file is open or is opened, and that changes nothing. -/
theorem Reflects.connect (h : Reflects names content s f) {db : String} (hdb : names db = true) :
    db ∈ (s.connect (E.script names content others) db).opened ∧
      Reflects names content (s.connect (E.script names content others) db) f := by
  by_cases hopen : db ∈ s.opened
  · rw [Session.connect_of_open hopen]
    exact ⟨hopen, h.after_eq, h.closed, h.unopened⟩
  · have haccepted : ((E.script names content others).refusal? (s.calls ++ [.connect db])).isNone =
        true := by
      rw [refusal?_script hdb]
      rfl
    have hfresh : f.ledger db = .fresh f.saved := by
      rw [Files.ledger, h.unopened db hdb hopen, Ledger.fresh]
    rw [Session.connect_of_accepted hopen haccepted]
    refine ⟨by simp, ?_, h.closed, fun name hname hnot => h.unopened name hname ?_⟩
    · rw [Files.after_concat, h.after_eq, Files.call_of_name hdb]
      exact (congrArg (f.put db) hfresh.symm).trans (f.put_ledger db)
    · exact fun hmem => hnot (List.mem_append_left _ hmem)

/-- The statements of a block in a session of the file. -/
theorem Reflects.execute (h : Reflects names content s f) (others : DatabaseScript)
    (hdb : names (databaseOf default b) = true) :
    let ending := s.execute (E.script names content others) (turnOf default b)
    let performed := (f.ledger (databaseOf default b)).performText b.text
    ending.1 = performed.1 ∧
      (E.start content).after names ending.2 = f.put (databaseOf default b) performed.2 := by
  have hstatements : (turnOf default b).statements = statements? b.text := rfl
  unfold Session.execute Ledger.performText
  rw [hstatements]
  cases statements? b.text with
  | none => exact ⟨rfl, h.after_eq.trans (f.put_ledger _).symm⟩
  | some statements => exact executed_script hdb others h.after_eq statements _

/-- The end of a block settles the connection to the file. -/
theorem after_conclude (hdb : names (databaseOf default b) = true)
    {ending : Except Failure ResultSet × List DatabaseCall} {l : E.Ledger}
    (h : (E.start content).after names ending.2 = f.put (databaseOf default b) l) :
    (E.start content).after names (s.conclude (turnOf default b) ending).calls =
      f.put (databaseOf default b) (Ledger.settle ending.1 l) := by
  have hlast (c : DatabaseCall) (hc : c.db = databaseOf default b) :
      (E.start content).after names (ending.2 ++ [c]) =
        f.put (databaseOf default b) (l.called c) := by
    rw [Files.after_concat, h, Files.call_of_name (hc ▸ hdb), hc, Files.ledger_put, Files.put_put]
  obtain ⟨outcome, calls⟩ := ending
  cases outcome with
  | ok result =>
    exact hlast (.commit _) rfl
  | error failure =>
    cases failure with
    | database fault message =>
      exact hlast (.rollback _) rfl
    | _ => exact h

/-- The end of a block for another database leaves the file alone. -/
theorem after_conclude_of_other (hdb : names (databaseOf default b) = false)
    {ending : Except Failure ResultSet × List DatabaseCall}
    (h : (E.start content).after names ending.2 = f) :
    (E.start content).after names (s.conclude (turnOf default b) ending).calls = f := by
  have hlast (c : DatabaseCall) (hc : c.db = databaseOf default b) :
      (E.start content).after names (ending.2 ++ [c]) = f := by
    rw [Files.after_concat, h, Files.call_of_other (hc ▸ hdb)]
  obtain ⟨outcome, calls⟩ := ending
  cases outcome with
  | ok result => exact hlast (.commit _) rfl
  | error failure =>
    cases failure with
    | database fault message => exact hlast (.rollback _) rfl
    | _ => exact h

theorem opened_conclude (s : Session) (turn : Turn)
    (ending : Except Failure ResultSet × List DatabaseCall) :
    (s.conclude turn ending).opened = s.opened := by
  obtain ⟨outcome, calls⟩ := ending
  cases outcome with
  | ok result => rfl
  | error failure => cases failure <;> rfl

/-- The turn of a block of the file does to the file what the block does, and shows how the block
ends. -/
theorem Reflects.turn_of_name (h : Reflects names content s f) (others : DatabaseScript)
    (hdb : names (databaseOf default b) = true) :
    let script := E.script names content others
    let connected := s.connect script (databaseOf default b)
    databaseOf default b ∈ connected.opened ∧
      (connected.execute script (turnOf default b)).1 = f.outcome default b ∧
      Reflects names content (s.turn script (turnOf default b)) (f.block names default b) := by
  intro script connected
  obtain ⟨hopen, hconnected⟩ : _ ∈ connected.opened ∧ Reflects names content connected f :=
    h.connect hdb
  obtain ⟨houtcome, hafter⟩ : (connected.execute script (turnOf default b)).1 = _ ∧
      (E.start content).after names (connected.execute script (turnOf default b)).2 = _ :=
    hconnected.execute others hdb
  have hturn : s.turn script (turnOf default b) =
      connected.conclude (turnOf default b) (connected.execute script (turnOf default b)) :=
    if_pos hopen
  have hconcluded := after_conclude (s := connected) hdb hafter
  rw [houtcome] at hconcluded
  rw [hturn]
  refine ⟨hopen, houtcome, ?_, Files.closed_block h.closed, fun name hname hnot => ?_⟩
  · rw [Files.block_of_name hdb]
    exact hconcluded
  · rw [opened_conclude] at hnot
    rw [Files.block_of_name hdb]
    have hne : name ≠ databaseOf default b := by
      rintro rfl
      exact hnot hopen
    rw [Files.session_put_of_ne hne]
    exact hconnected.unopened name hname hnot

/-- The turn of a block for another database leaves the file alone. -/
theorem Reflects.turn_of_other (h : Reflects names content s f) {script : DatabaseScript}
    (hdb : names (databaseOf default b) = false) :
    Reflects names content (s.turn script (turnOf default b)) (f.block names default b) := by
  have hconnected : Reflects names content (s.connect script (databaseOf default b)) f := by
    unfold Session.connect
    split
    · exact ⟨h.after_eq, h.closed, h.unopened⟩
    · refine ⟨?_, h.closed, fun name hname hnot => h.unopened name hname fun hmem => hnot ?_⟩
      · exact (Files.after_concat _ _ _).trans ((Files.call_of_other hdb _).trans h.after_eq)
      · dsimp only
        split
        · exact List.mem_append_left _ hmem
        · exact hmem
  rw [Files.block_of_other hdb, Session.turn]
  split
  · refine ⟨after_conclude_of_other hdb ?_, h.closed, fun name hname hnot => ?_⟩
    · unfold Session.execute
      split
      · exact (executed_of_other hdb _ _ _).trans hconnected.after_eq
      · exact hconnected.after_eq
    · rw [opened_conclude] at hnot
      exact hconnected.unopened name hname hnot
  · exact hconnected

/-- The session of a list of blocks does to the file what the blocks do. -/
theorem reflects_sessionOf (default : String) (blocks : List CodeBlock) :
    Reflects names content (sessionOf (E.script names content others) default blocks)
      ((E.start content).blocks names default blocks) := by
  suffices hrun : ∀ (s : Session) (f : E.Files), Reflects names content s f →
      Reflects names content
        ((blocks.map (turnOf default)).foldl (Session.turn (E.script names content others)) s)
        (f.blocks names default blocks) from hrun _ _ reflects_start
  induction blocks with
  | nil => exact fun s f h => h
  | cons b blocks ih =>
    intro s f h
    refine ih _ _ ?_
    cases hdb : names (databaseOf default b) with
    | true => exact (h.turn_of_name others hdb).2.2
    | false => exact h.turn_of_other hdb

end Turn

end Engine

/-! ### The content of a file after a pass -/

/-- What a pass saves in a file, whatever engine is behind it. The blocks change the file one after
the other, and each shows how its statements end on what the blocks before it have left. A block that
fails leaves what its statements have saved themselves: that is nothing if none of them changes the
content before a transaction begins, and none ends the transaction. If all blocks of the file are so,
then what is saved is what the blocks leave of which nothing is saved if they fail. -/
theorem content_after_pass {E : Engine} {names : String → Bool} {content : E.Content}
    {others : DatabaseScript} {s : Settings} {default : String} (hdb : s.db = .str default)
    {script : DatabaseScript} {w : World} (hscript : w.databases.script = some script)
    (hengine : script.after w.databases.calls = E.script names content others) (doc : Json) :
    let ending := (merged (s.pass doc)).run ([], w)
    ∃ visits calls, Handed (nodes doc) visits ∧
      EndsAs (nodes doc) visits (fun as => patched as doc) ending.1 ∧
      ending.2.2.databases.calls = w.databases.calls ++ calls ∧
      let saved := ((E.start content).after names calls).saved
      let rewritings := s.blockFilter.rewritings visits
      let blocks := rewritings.map (·.block)
      let before (i : Nat) := (E.start content).blocks names default (blocks.take i)
      saved = ((E.start content).blocks names default blocks).saved ∧
      (∀ i r, rewritings[i]? = some r → names (databaseOf default r.block) = true →
        r.outcome = rendered r.block ((before i).outcome default r.block) ∧
        ∀ failure, (before i).outcome default r.block = .error failure →
          (before (i + 1)).saved =
            (((before i).ledger (databaseOf default r.block)).performText r.block.text).2.saved ∧
          (E.Guards r.block.text → (before (i + 1)).saved = (before i).saved)) ∧
      ((∀ b ∈ blocks, names (databaseOf default b) = true → E.Guards b.text) →
        saved = (blocks.foldl (Engine.Files.undone names default) (E.start content)).saved) ∧
      (BlockFilter.FlatBlocks doc →
        blocks = ((nodes doc).take visits.length).filterMap s.blockFilter.block?) := by
  obtain ⟨visits, hswept⟩ := s.blockFilter.sweptBy_sweep doc ([], w)
  have hstart : Follows script w.databases.calls .start ([], w) :=
    ⟨⟨hscript, (List.append_nil _).symm⟩, rfl⟩
  obtain ⟨hfollows, -, hshown⟩ := follows_rewrites hdb hstart hswept.rewrites
  rw [hengine] at hfollows hshown
  have hreflects (blocks : List CodeBlock) :
      Engine.Reflects names content (sessionOf (E.script names content others) default blocks) _ :=
    Engine.reflects_sessionOf default blocks
  rw [Settings.run_pass]
  refine ⟨visits, (sessionOf (E.script names content others) default
    ((s.blockFilter.rewritings visits).map (·.block))).finished, hswept.handed, hswept.ends, ?_, ?_⟩
  · change _ ++ List.map _ _ = _
    rw [hfollows.connections_eq, hfollows.answers.calls_eq, List.map_map, List.append_assoc]
    rfl
  intro saved rewritings blocks before
  have hsaved : saved = ((E.start content).blocks names default blocks).saved := by
    change ((E.start content).after names (Session.finished _)).saved = _
    rw [Session.finished, Engine.Files.after_append, Engine.Files.saved_after_closes,
      (hreflects blocks).after_eq]
  refine ⟨hsaved, fun i r hr hname => ?_, fun hguards => ?_,
    hswept.blocks_eq s.givesObjects_blockFilter⟩
  · have hbefore := hreflects (blocks.take i)
    have hafter : before (i + 1) = (before i).block names default r.block := by
      have hblock : blocks[i]? = some r.block := by rw [List.getElem?_map, hr, Option.map_some]
      change (E.start content).blocks names default _ = _
      rw [List.take_add_one, hblock]
      exact Engine.Files.blocks_concat _ _ _
    obtain ⟨hopen, houtcome, -⟩ := hbefore.turn_of_name others hname
    have hshown := hshown i r hr
    rw [List.map_take] at hshown
    refine ⟨(hshown hopen).trans (congrArg (rendered r.block) houtcome), fun failure hfails => ?_⟩
    rw [hafter]
    exact ⟨Engine.Files.saved_block_of_error hname hfails,
      fun hguards => Engine.Files.saved_block_of_guards hguards hbefore.closed hfails⟩
  · rw [hsaved, Engine.Files.blocks_eq_undone hguards fun _ => rfl]

/-- The first block fails after it has made a table, to which the second one adds a row. -/
def leakingDoc : Json :=
  .arr [blockFor "d.db" "CREATE TABLE a (x); INSERT INTO missing VALUES (1);",
    blockFor "d.db" "INSERT INTO a VALUES (1);"]

/-- The modelled tables in a file without any, and nothing in other databases. -/
def tablesScript : DatabaseScript :=
  tablesEngine.script (· == "d.db") (some []) ⟨fun _ => none, fun _ => .done⟩

/-- The table of the failing block is saved. -/
theorem content_after_pass_failing_creation :
    let w : World := { World.initial ⟨[]⟩ "/" with databases := ⟨some tablesScript, [], []⟩ }
    Settings.db ⟨.str ":memory:"⟩ = .str ":memory:" ∧
      w.databases.script = some tablesScript ∧
      tablesScript.after w.databases.calls =
        tablesEngine.script (· == "d.db") (some []) ⟨fun _ => none, fun _ => .done⟩ ∧
      ∃ visits, Handed (nodes leakingDoc) visits ∧
        ((((tablesEngine.start (some [])).blocks (· == "d.db") ":memory:"
          (((Settings.blockFilter ⟨.str ":memory:"⟩).rewritings visits).map (·.block))).saved).map
            (·.map (·.name))) = some ["a"] := by
  intro w
  have hengine : tablesScript.after w.databases.calls =
      tablesEngine.script (· == "d.db") (some []) ⟨fun _ => none, fun _ => .done⟩ := rfl
  obtain ⟨visits, calls, hhanded, -, hcalls, hsaved, -⟩ :=
    content_after_pass (s := ⟨.str ":memory:"⟩) rfl (w := w) rfl hengine leakingDoc
  refine ⟨rfl, rfl, hengine, visits, hhanded, ?_⟩
  rw [← hsaved]
  have hnames : ((((tablesEngine.start (some [])).after (· == "d.db")
      ((merged (Settings.pass ⟨.str ":memory:"⟩ leakingDoc)).run
        ([], w)).2.2.databases.calls).saved).map (·.map (·.name))) = some ["a"] := by
    decide +kernel
  rw [hcalls] at hnames
  exact hnames

/-- The failing block is shown with its error, and yet the table that it has made is there after the
pass, which a pass over the other block alone does not leave. -/
theorem failing_creation_is_not_undone :
    let ending (doc : Json) := (merged (Settings.pass ⟨.str ":memory:"⟩ doc)).run
      ([], World.initial ⟨[]⟩ "/")
    let tables (doc : Json) := ((ending doc).2.2.contentAt ["d.db"]).map (·.map (·.name))
    let errors (doc : Json) := (ending doc).1.toOption.map fun result =>
      ((nodes result).filterMap CodeBlock.ofNode?).map (·.text)
    errors leakingDoc = some ["-- SQL Query:\nCREATE TABLE a (x); " ++
      "INSERT INTO missing VALUES (1);\n\n-- ERROR:\nno such table: missing"] ∧
    tables leakingDoc = some ["a"] ∧
    tables (.arr [blockFor "d.db" "INSERT INTO a VALUES (1);"]) = some [] := by
  decide +kernel

end Sql

end DocFilter
