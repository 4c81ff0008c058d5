import DocFilter.Proofs.Regime
import DocFilter.Proofs.Sql.Tables

/-!
# SQL failures in place

What a database refuses is shown in the place of the block, and what it gives can be shown, since no
row of a result set is longer than its header. Two refusals come from elsewhere: a text that holds a
null character where a statement may end cannot be split, and a name with a null character names no
file. They are not shown, but end the pass, and with it everything that other blocks have given.
-/

namespace DocFilter

namespace Sql

/-! ### Even result sets -/

namespace ResultSet
variable {r : ResultSet}

/-- No row is longer than the header. -/
def IsEven (r : ResultSet) : Prop := ∀ row ∈ r.rows, row.length ≤ r.columns.length

theorem exists_widen {ws : List Nat} {cells : List String} (h : cells.length ≤ ws.length) :
    ∃ ws', widen ws cells = some ws' ∧ ws'.length = ws.length := by
  induction cells generalizing ws with
  | nil => exact ⟨ws, by cases ws <;> rfl, rfl⟩
  | cons c cs ih =>
    cases ws with
    | nil => simp at h
    | cons w ws =>
      obtain ⟨ws', hws', hlength⟩ := ih (by simpa using h)
      refine ⟨max w c.length :: ws', ?_, by simp [hlength]⟩
      rw [widen, hws', Option.map_some]

theorem exists_foldlM_widen {rows : List (List String)} {ws : List Nat}
    (h : ∀ cells ∈ rows, cells.length ≤ ws.length) : ∃ ws', rows.foldlM widen ws = some ws' := by
  induction rows generalizing ws with
  | nil => exact ⟨ws, rfl⟩
  | cons cells rows ih =>
    obtain ⟨ws', hws', hlength⟩ := exists_widen (h cells List.mem_cons_self)
    obtain ⟨ws'', hws''⟩ := ih fun more hmore => by
      rw [hlength]
      exact h more (List.mem_cons_of_mem _ hmore)
    exact ⟨ws'', by rw [List.foldlM_cons, hws']; exact hws''⟩

theorem IsEven.exists_grid (h : r.IsEven) : ∃ grid, r.grid? = some grid := by
  have hcells : ∀ cells ∈ r.cells, cells.length ≤ (r.columns.map String.length).length := by
    intro cells hcells
    obtain ⟨row, hrow, rfl⟩ := List.mem_map.mp hcells
    rw [List.length_map, List.length_map]
    exact h row hrow
  obtain ⟨ws, hws⟩ := exists_foldlM_widen hcells
  unfold grid?
  split
  · exact ⟨_, rfl⟩
  · rw [widths?, hws]
    exact ⟨_, rfl⟩

end ResultSet

theorem isEven_of_resultOf {scope : Scope} {selected : List Selected} {sorting : List SortTerm}
    {r : ResultSet} (h : resultOf scope selected sorting = .ok r) : r.IsEven := by
  unfold resultOf at h
  obtain ⟨columns, -, h⟩ := bind_eq_ok h
  obtain ⟨-, -, h⟩ := bind_eq_ok h
  obtain ⟨-, -, h⟩ := bind_eq_ok h
  obtain ⟨-, -, h⟩ := bind_eq_ok h
  obtain ⟨-, -, h⟩ := bind_eq_ok h
  obtain ⟨rows, hrows, h⟩ := bind_eq_ok h
  cases h
  intro row hrow
  obtain ⟨made, hmade, rfl⟩ := List.mem_map.mp hrow
  obtain ⟨values, -, hvalues⟩ := exists_of_mem_mapM hrows (List.mem_mergeSort.mp hmade)
  obtain ⟨shown, hshown, hvalues⟩ := bind_eq_ok hvalues
  obtain ⟨keys, -, hvalues⟩ := bind_eq_ok hvalues
  cases hvalues
  have hwidth : shown.length = columns.length := length_of_mapM_eq_ok hshown
  simp [hwidth]

theorem isEven_of_run {statement : Statement} {ts ts' : Tables} {r : ResultSet}
    (h : statement.run ts = .ok (ts', some r)) : r.IsEven := by
  cases hrows : statement.changesRows with
  | true => cases result_eq_none hrows h
  | false =>
    cases statement with
    | query selected source sorting =>
      cases source with
      | none =>
        obtain ⟨result, hresult, h⟩ := bind_eq_ok h
        cases h
        exact isEven_of_resultOf hresult
      | some source =>
        obtain ⟨t, -, h⟩ := bind_eq_ok h
        obtain ⟨result, hresult, h⟩ := bind_eq_ok h
        cases h
        exact isEven_of_resultOf hresult
    | empty => cases h
    | create c =>
      simp only [Statement.run] at h
      repeat' split at h
      all_goals cases h
    | drop name ifExists =>
      simp only [Statement.run] at h
      split at h
      · split at h <;> cases h
      · cases h
    | insert source columns rows => cases hrows
    | delete name => cases hrows

theorem isEven_of_effect {sql : String} {content content' : Option Tables} {r : ResultSet}
    (h : effect sql content = .ok (some r, content')) : r.IsEven := by
  unfold effect at h
  split at h
  · cases h
  · split at h
    · cases h
    · split at h
      · split at h
        · cases h
        · split at h
          · cases h
          · next hrun =>
            cases h
            exact isEven_of_run hrun
      · split at h
        · cases h
        · next hrun =>
          cases h
          exact isEven_of_run hrun

/-! ### Databases that answer in kind -/

def IsRefusal (failure : Failure) : Prop := ∃ fault message, failure = .database fault message

end Sql

/-- A database that follows a script fails as databases do, and what it gives is even. -/
def World.AnswersInKind (w : World) : Prop :=
  ∀ script, w.databases.script = some script → ∀ calls,
    (∀ failure, script.answer calls = .fails failure → Sql.IsRefusal failure) ∧
      ∀ result, script.answer calls = .rows result → result.IsEven

theorem World.AnswersInKind.of_script_eq {w u : World} (h : w.AnswersInKind)
    (hscript : u.databases.script = w.databases.script) : u.AnswersInKind := by
  intro script hu
  exact h script (by rw [← hscript, hu])

namespace Sql

theorem note_inKind {may : Failure → Prop} (call : DatabaseCall) :
    (during World.AnswersInKind may).Holds (note call) fun _ => True := by
  refine During.of_cases fun w hw => ?_
  rw [run_note]
  exact ⟨hw.of_script_eq rfl, fun _ _ => trivial, nofun⟩

theorem record_inKind {may : Failure → Prop} (r : Log.Record) :
    (during World.AnswersInKind may).Holds (Run.record r) fun _ => True := by
  refine During.of_cases fun w hw => ?_
  have hrun : (Run.record r).run w = (.ok (), w.log r) := rfl
  rw [hrun]
  exact ⟨hw.of_script_eq (by rw [World.databases_log]), fun _ _ => trivial, nofun⟩

/-- The modelled tables answer in kind as well. -/
theorem perform_inKind (c : Connection) (sql : String) :
    (during World.AnswersInKind IsRefusal).Holds (c.perform sql)
      fun done => ∀ result, done.2 = some result → result.IsEven := by
  refine During.of_cases fun w hw => ?_
  have hperform := perform_ledger c sql w
  cases heffect : effect sql (seen (ledger (c, w))) with
  | error refused =>
    rw [heffect] at hperform
    rw [hperform]
    refine ⟨hw, nofun, ?_⟩
    rintro _ ⟨⟩
    exact ⟨refused.1, refused.2, rfl⟩
  | ok done =>
    obtain ⟨result, content⟩ := done
    rw [heffect] at hperform
    obtain ⟨t, hrun, hmoves, -⟩ := hperform
    rw [hrun]
    refine ⟨hw.of_script_eq hmoves.script_eq, ?_, nofun⟩
    rintro _ ⟨⟩ result rfl
    exact isEven_of_effect heffect

theorem execute_inKind (c : Connection) (sql : String) :
    (during World.AnswersInKind IsRefusal).Holds (c.execute sql)
      fun done => ∀ result, done.2 = some result → result.IsEven := by
  let L := during World.AnswersInKind IsRefusal
  refine L.bind (note_inKind _) fun _ _ => ?_
  refine L.bind Regime.get fun w hw => ?_
  split
  · exact perform_inKind c sql
  · next script hscript =>
    obtain ⟨hfails, hrows⟩ := hw script hscript w.databases.calls
    split
    · exact L.pure nofun
    · next given hanswer =>
      refine L.pure ?_
      rintro result ⟨⟩
      exact hrows given hanswer
    · next failure hanswer => exact During.throw (hfails failure hanswer)

/-! ### The statements of a block -/

theorem executeEach_inKind (statements : List String) {last : ResultSet} (hlast : last.IsEven) :
    (during (Beside (fun _ => True) World.AnswersInKind) IsRefusal).Holds
      (merged (executeEach statements last)) ResultSet.IsEven := by
  induction statements generalizing last with
  | nil => exact Beside.pure hlast
  | cons sql statements ih =>
    have hexecute : (during (Beside (fun _ => True) World.AnswersInKind) IsRefusal).Holds
        (merged (execute sql)) fun given => ∀ result, given = some result → result.IsEven := by
      refine Beside.bind Beside.getState fun c _ => ?_
      refine Beside.bind (Beside.lift (execute_inKind c sql)) fun done hdone => ?_
      exact Beside.bind (Beside.setState trivial) fun _ _ => Beside.pure hdone
    refine Beside.bind hexecute fun given hgiven => ih ?_
    cases given with
    | none => exact hlast
    | some result => exact hgiven result rfl

def nullInText : Failure := .badValue "embedded null character"

def nullInName : Failure := .badValue "embedded null byte"

/-- How a block may end that is not shown. -/
inductive Escapes (db sql : String) : Failure → Prop
  | text : statements? sql = none → Escapes db sql nullInText
  | name : '\x00' ∈ db.toList → Escapes db sql nullInName

/-- Neither is such an end logged. -/
theorem Escapes.unseen {db sql : String} {failure : Failure} (h : Escapes db sql failure)
    (b : CodeBlock) (w : World) :
    rendered b (.error failure) = .error failure ∧ reported db (.error failure) w = w := by
  cases h with
  | text hsplit => exact ⟨rfl, rfl⟩
  | name hnull => exact ⟨rfl, rfl⟩

theorem executeAll_inKind (db sql : String) :
    (during (Beside (fun _ => True) World.AnswersInKind)
      fun failure => IsRefusal failure ∨ Escapes db sql failure).Holds
      (merged (executeAll sql)) ResultSet.IsEven := by
  have hstatements : (during (Beside (fun _ => True) World.AnswersInKind)
      fun failure => IsRefusal failure ∨ Escapes db sql failure).Holds
      (merged (statementsRun sql)) ResultSet.IsEven := by
    unfold statementsRun
    cases hsplit : statements? sql with
    | none => exact Beside.throw (.inr (.text hsplit))
    | some statements =>
      have hempty : ResultSet.IsEven ⟨[], []⟩ := nofun
      exact During.mono (executeEach_inKind statements hempty) (fun _ => .inl) fun _ => id
  refine During.of_cases fun t ht => ?_
  obtain ⟨⟨-, hkind⟩, hok, herror⟩ := During.cases hstatements ht
  rw [run_executeAll]
  -- committing and rolling back leave the script alone
  have hmoves := moves_settled ((merged (statementsRun sql)).run t).1
    ((merged (statementsRun sql)).run t).2
  exact ⟨⟨trivial, hkind.of_script_eq hmoves.script_eq⟩, hok, herror⟩

/-! ### The connection of a block -/

theorem run_openFile (db : String) (w : World) :
    (openFile db).run w = (if db.toList.contains '\x00' then .error (.badValue "embedded null byte")
      else match filePlace? w.disk w.here db with
        | some place => .ok (.file place)
        | none => .error (operational "unable to open database file"), w) := by
  unfold openFile
  split
  · rfl
  · rw [run_bind_of_ok (run_get w)]
    cases filePlace? w.disk w.here db <;> rfl

theorem openFile_inKind (db sql : String) :
    (during World.AnswersInKind fun failure => IsRefusal failure ∨ Escapes db sql failure).Holds
      (openFile db) fun _ => True := by
  refine During.of_cases fun w hw => ?_
  rw [run_openFile]
  refine ⟨hw, fun _ _ => trivial, fun failure hfailure => ?_⟩
  dsimp only at hfailure
  split at hfailure
  · next hnull =>
    cases hfailure
    exact .inr (.name (List.contains_iff_mem.mp hnull))
  · split at hfailure
    · cases hfailure
    · cases hfailure
      exact .inl ⟨_, _, rfl⟩

theorem connect_inKind (db sql : String) :
    (during World.AnswersInKind fun failure => IsRefusal failure ∨ Escapes db sql failure).Holds
      (Sql.connect db) fun _ => True := by
  let L := during World.AnswersInKind fun failure => IsRefusal failure ∨ Escapes db sql failure
  refine L.bind (note_inKind _) fun _ _ => ?_
  refine L.bind Regime.get fun w _ => ?_
  split
  · split
    · exact During.throw (.inl ⟨_, _, rfl⟩)
    · exact L.pure trivial
  · split
    · exact L.pure trivial
    · exact L.bind (openFile_inKind db sql) fun _ _ => L.pure trivial

theorem blockRun_inKind (db sql : String) :
    (during (Beside (fun _ => True) World.AnswersInKind)
      fun failure => IsRefusal failure ∨ Escapes db sql failure).Holds
      (merged (blockRun db (Sql.connect db) sql)) ResultSet.IsEven := by
  refine Beside.bind ?_ fun _ (_ : True) => ?_
  · refine Beside.bind Beside.getState fun connections _ => ?_
    split
    · refine Beside.bind (Beside.lift (record_inKind _)) fun _ _ => ?_
      exact Beside.bind (Beside.lift (connect_inKind db sql)) fun c _ =>
        Beside.setState trivial
    · exact Beside.pure trivial
  · refine During.of_cases ?_
    rintro ⟨connections, w⟩ ⟨-, hw⟩
    cases hopen : connections.lookup db with
    | none =>
      rw [run_withConnection_of_closed _ hopen]
      refine ⟨⟨trivial, hw⟩, nofun, ?_⟩
      rintro _ ⟨⟩
      exact .inl ⟨_, _, rfl⟩
    | some c =>
      rw [run_withConnection _ hopen]
      obtain ⟨⟨-, hkind⟩, hok, herror⟩ :=
        During.cases (executeAll_inKind db sql) (t := (c, w)) ⟨trivial, hw⟩
      exact ⟨⟨trivial, hkind⟩, hok, herror⟩

/-! ### What takes the place of a block -/

/-- What may take the place of a block: a table, a paragraph that says that there is nothing to
show, or a code block with the attributes of the block. -/
def Shows (b : CodeBlock) (a : Json) : Prop :=
  Node.hasTag a "Table" = true ∨ a = Node.para [Node.str (.str "No results")] ∨
    ∃ text, a = CodeBlock.toNode ⟨text, b.attr⟩

theorem shows_table (b : CodeBlock) (result : ResultSet) : Shows b result.table := by
  unfold ResultSet.table
  split
  · exact .inr (.inl rfl)
  · exact .inl rfl

theorem exists_shown (b : CodeBlock) {result : ResultSet} (h : result.IsEven) :
    ∃ a, shown b result = .ok a ∧ Shows b a := by
  unfold shown
  split
  · exact ⟨_, rfl, shows_table b result⟩
  · obtain ⟨grid, hgrid⟩ := h.exists_grid
    rw [hgrid]
    exact ⟨_, rfl, .inr (.inr ⟨_, rfl⟩)⟩

theorem replacement_inKind {s : Settings} {default : String} (hdb : s.db = .str default)
    (b : CodeBlock) :
    (during (Beside (fun _ => True) World.AnswersInKind)
      (Escapes (databaseOf default b) b.text)).Holds (merged (s.replacement b)) (Shows b) := by
  refine During.of_cases fun t ht => ?_
  have hrun := blockRun_inKind (databaseOf default b) b.text
  obtain ⟨⟨-, hkind⟩, hok, herror⟩ := During.cases hrun ht
  rw [Settings.run_replacement (Settings.target_eq hdb)]
  dsimp only
  cases houtcome : ((merged (blockRun (databaseOf default b)
      (Sql.connect (databaseOf default b)) b.text)).run t).1 with
  | ok result =>
    obtain ⟨a, ha, hshows⟩ := exists_shown b (hok result houtcome)
    refine ⟨⟨trivial, hkind⟩, ?_, ?_⟩
    · intro a' ha'
      rw [rendered, ha] at ha'
      cases ha'
      exact hshows
    · intro failure hfailure
      rw [rendered, ha] at hfailure
      cases hfailure
  | error failure =>
    rcases herror failure houtcome with ⟨fault, message, rfl⟩ | hescapes
    · refine ⟨⟨trivial, hkind.of_script_eq (by rw [reported, World.databases_log])⟩, ?_, nofun⟩
      rintro _ ⟨⟩
      exact .inr (.inr ⟨_, rfl⟩)
    · obtain ⟨hrendered, hreported⟩ := hescapes.unseen b
        ((merged (blockRun (databaseOf default b) (Sql.connect (databaseOf default b))
          b.text)).run t).2.2
      rw [hrendered, hreported]
      refine ⟨⟨trivial, hkind⟩, nofun, ?_⟩
      rintro _ ⟨⟩
      exact hescapes

/-! ### Failures of a pass -/

section Pass
variable {s : Settings} {default : String} (hdb : s.db = .str default)
include hdb

theorem rewrites_shown {t u : Connections × World} (ht : t.2.AnswersInKind)
    {rs : List BlockFilter.Rewriting} (h : s.blockFilter.Rewrites t rs u) :
    u.2.AnswersInKind ∧ ∀ r ∈ rs,
      (∀ a, r.outcome = .ok a → Shows r.block a) ∧
        ∀ failure, r.outcome = .error failure →
          Escapes (databaseOf default r.block) r.block.text failure := by
  induction h with
  | start => exact ⟨ht, nofun⟩
  | @block done u b _ ih =>
    obtain ⟨hu, hdone⟩ := ih
    have hblock := replacement_inKind hdb b
    obtain ⟨⟨-, hkind⟩, hok, herror⟩ := During.cases hblock (t := u) ⟨trivial, hu⟩
    refine ⟨hkind, fun r hr => ?_⟩
    rcases List.mem_append.mp hr with hr | hr
    · exact hdone r hr
    · obtain rfl := List.mem_singleton.mp hr
      exact ⟨hok, herror⟩

/-- A pass that fails ends as one of the blocks does. -/
theorem escapes_of_pass {w : World} (hw : w.AnswersInKind) {doc : Json}
    (hflat : BlockFilter.FlatBlocks doc) {failure : Failure}
    (hending : ((merged (s.pass doc)).run ([], w)).1 = .error failure) :
    ∃ b ∈ (nodes doc).filterMap s.blockFilter.block?,
      Escapes (databaseOf default b) b.text failure := by
  obtain ⟨visits, hswept⟩ := s.blockFilter.sweptBy_sweep doc ([], w)
  obtain ⟨-, hrewritings⟩ := rewrites_shown hdb (t := ([], w)) hw hswept.rewrites
  rw [Settings.run_pass] at hending
  obtain ⟨b, hlast⟩ := (hswept.error_iff failure).mp hending
  have hmem := List.mem_of_getLast? hlast
  have hblock : b ∈ ((nodes doc).take visits.length).filterMap s.blockFilter.block? := by
    rw [← hswept.blocks_eq s.givesObjects_blockFilter hflat]
    exact List.mem_map.mpr ⟨_, hmem, rfl⟩
  obtain ⟨n, hn, hb⟩ := List.mem_filterMap.mp hblock
  exact ⟨b, List.mem_filterMap.mpr ⟨n, List.mem_of_mem_take hn, hb⟩,
    (hrewritings _ hmem).2 failure rfl⟩

/-- If the code blocks of a document hold no nodes, a pass over it returns the document with one
node in the place of each of its blocks, or it ends as a block does that is not shown: one whose
text cannot be split, or whose name holds a null character. Without null characters it returns. -/
theorem failures_shown_except_null_characters {w : World} (hw : w.AnswersInKind) {doc : Json}
    (hflat : BlockFilter.FlatBlocks doc) :
    let ending := ((merged (s.pass doc)).run ([], w)).1
    let blocks := (nodes doc).filterMap s.blockFilter.block?
    (∀ result, ending = .ok result → ∃ answers,
      result = patched answers doc ∧ answers.length = (nodes doc).length ∧
        ∀ (i : Nat) n b, (nodes doc)[i]? = some n → s.blockFilter.block? n = some b →
          ∃ a, answers[i]? = some a ∧ Shows b a) ∧
    (∀ failure, ending = .error failure →
      ∃ b ∈ blocks, Escapes (databaseOf default b) b.text failure) ∧
    ((∀ b ∈ blocks, '\x00' ∉ b.text.toList ∧ '\x00' ∉ (databaseOf default b).toList) →
      ∃ result, ending = .ok result) := by
  obtain ⟨visits, hswept⟩ := s.blockFilter.sweptBy_sweep doc ([], w)
  obtain ⟨-, hrewritings⟩ := rewrites_shown hdb (t := ([], w)) hw hswept.rewrites
  refine ⟨fun result hending => ?_, fun failure => escapes_of_pass hdb hw hflat, fun hclean => ?_⟩
  · have hends := hswept.ends
    rw [Settings.run_pass] at hending
    dsimp only at hending
    rw [hending] at hends
    obtain ⟨hlength, hreturned, hresult⟩ := hends
    refine ⟨answersOf visits, hresult, (length_answersOf hreturned).trans hlength, ?_⟩
    intro i n b hn hb
    obtain ⟨c, hc⟩ : ∃ c, visits[i]? = some c := by
      have hi := (List.getElem?_eq_some_iff.mp hn).1
      exact ⟨_, List.getElem?_eq_getElem (by omega)⟩
    obtain ⟨n', hn', hreceived⟩ := hswept.block?_received s.givesObjects_blockFilter hflat hc
    obtain rfl : n = n' := Option.some.inj (hn.symm.trans hn')
    obtain ⟨a, ha⟩ := hreturned c (List.mem_of_getElem? hc)
    have hmem : ⟨b, c.outcome⟩ ∈ s.blockFilter.rewritings visits :=
      List.mem_filterMap.mpr ⟨c, List.mem_of_getElem? hc,
        BlockFilter.rewriting?_of_block (hreceived.trans hb)⟩
    exact ⟨a, getElem?_answersOf hreturned hc ha, (hrewritings _ hmem).1 a ha⟩
  · cases hending : ((merged (s.pass doc)).run ([], w)).1 with
    | ok result => exact ⟨result, rfl⟩
    | error failure =>
      obtain ⟨b, hb, hescapes⟩ := escapes_of_pass hdb hw hflat hending
      obtain ⟨htext, hname⟩ := hclean b hb
      cases hescapes with
      | text hsplit =>
        have hsome := isSome_statements? htext
        rw [hsplit] at hsome
        cases hsome
      | name hnull => exact absurd hnull hname

end Pass

/-! ### Two documents -/

theorem answersInKind_of_unscripted {w : World} (h : w.databases.script = none) :
    w.AnswersInKind := by
  intro script hscript
  rw [h] at hscript
  cases hscript

theorem nodes_blockFor (db sql : String) : nodes (blockFor db sql) = [blockFor db sql] := rfl

theorem flatBlocks_of_blocks (queries : List (String × String)) :
    BlockFilter.FlatBlocks (.arr (queries.map fun q => blockFor q.1 q.2)) := by
  intro n hn _
  rw [nodes] at hn
  induction queries with
  | nil => cases hn
  | cons q queries ih =>
    rw [List.map_cons, nodesOfItems, nodes_blockFor] at hn
    rcases List.mem_cons.mp hn with rfl | hn
    · exact nodes_blockFor q.1 q.2
    · exact ih hn

/-- The database of the first block cannot be opened, the second names a table that is missing. -/
def refusedDoc : Json :=
  .arr [blockFor "missing/d.db" "SELECT 1", blockFor ":memory:" "SELECT x FROM t",
    blockFor ":memory:" "SELECT 1 AS a"]

theorem failures_shown_for_refused_blocks :
    Settings.db ⟨.str ":memory:"⟩ = .str ":memory:" ∧
      (World.initial ⟨[]⟩ "/").AnswersInKind ∧ BlockFilter.FlatBlocks refusedDoc ∧
      ∃ result, ((merged (Settings.pass ⟨.str ":memory:"⟩ refusedDoc)).run
          ([], World.initial ⟨[]⟩ "/")).1 = .ok result ∧
        ((nodes result).filterMap CodeBlock.ofNode?).map (·.text) =
          ["-- SQL Query:\nSELECT 1\n\n-- ERROR:\nunable to open database file",
            "-- SQL Query:\nSELECT x FROM t\n\n-- ERROR:\nno such table: t"] ∧
        (nodes result).any (Node.hasTag · "Table") = true := by
  have hw : (World.initial ⟨[]⟩ "/").AnswersInKind := answersInKind_of_unscripted rfl
  have hflat : BlockFilter.FlatBlocks refusedDoc :=
    flatBlocks_of_blocks [("missing/d.db", "SELECT 1"), (":memory:", "SELECT x FROM t"),
      (":memory:", "SELECT 1 AS a")]
  have hclean : ∀ b ∈ (nodes refusedDoc).filterMap (Settings.blockFilter ⟨.str ":memory:"⟩).block?,
      '\x00' ∉ b.text.toList ∧ '\x00' ∉ (databaseOf ":memory:" b).toList := by
    decide +kernel
  have hshown : (((merged (Settings.pass ⟨.str ":memory:"⟩ refusedDoc)).run
      ([], World.initial ⟨[]⟩ "/")).1.toOption.map fun result =>
        (((nodes result).filterMap CodeBlock.ofNode?).map (·.text),
          (nodes result).any (Node.hasTag · "Table"))) =
      some (["-- SQL Query:\nSELECT 1\n\n-- ERROR:\nunable to open database file",
        "-- SQL Query:\nSELECT x FROM t\n\n-- ERROR:\nno such table: t"], true) := by
    decide +kernel
  obtain ⟨-, -, hreturns⟩ :=
    failures_shown_except_null_characters (s := ⟨.str ":memory:"⟩) rfl hw hflat
  obtain ⟨result, hresult⟩ := hreturns hclean
  rw [hresult] at hshown
  have hpair := Option.some.inj hshown
  exact ⟨rfl, hw, hflat, result, hresult, congrArg Prod.fst hpair, congrArg Prod.snd hpair⟩

/-- A block whose text cannot be split, after one that has a result. -/
def unsplitDoc : Json :=
  .arr [blockFor ":memory:" "SELECT 1 AS a", blockFor ":memory:" "a\x00;"]

/-- The block is not shown with its failure, and the table before it is lost. -/
theorem null_character_ends_pass :
    let ending := (merged (Settings.pass ⟨.str ":memory:"⟩ unsplitDoc)).run
      ([], World.initial ⟨[]⟩ "/")
    BlockFilter.FlatBlocks unsplitDoc ∧ ending.1 = .error nullInText := by
  have hflat : BlockFilter.FlatBlocks unsplitDoc :=
    flatBlocks_of_blocks [(":memory:", "SELECT 1 AS a"), (":memory:", "a\x00;")]
  have hw : (World.initial ⟨[]⟩ "/").AnswersInKind := answersInKind_of_unscripted rfl
  have hends : ((merged (Settings.pass ⟨.str ":memory:"⟩ unsplitDoc)).run
      ([], World.initial ⟨[]⟩ "/")).1.toOption.isNone = true := by
    decide +kernel
  have hnames : ∀ b ∈ (nodes unsplitDoc).filterMap (Settings.blockFilter ⟨.str ":memory:"⟩).block?,
      '\x00' ∉ (databaseOf ":memory:" b).toList := by
    decide +kernel
  refine ⟨hflat, ?_⟩
  cases hending : ((merged (Settings.pass ⟨.str ":memory:"⟩ unsplitDoc)).run
      ([], World.initial ⟨[]⟩ "/")).1 with
  | ok result =>
    rw [hending] at hends
    cases hends
  | error failure =>
    obtain ⟨b, hb, hescapes⟩ := escapes_of_pass rfl hw hflat hending
    cases hescapes with
    | text hsplit => rfl
    | name hnull => exact absurd hnull (hnames b hb)

end Sql

end DocFilter
