import DocFilter.Proofs.Filter.Regime
import DocFilter.Proofs.Include.Pass
import DocFilter.Proofs.Sql.Block
import DocFilter.Registry.Builtin

/-!
# The built-in filters in a regime

The built-in filters write nothing to the standard output and no files, so they stay in every
regime. They fail with nothing that a boundary could not hold, but for scripts that are interrupted.
-/

namespace DocFilter

variable {inv : World → Prop} {may : Failure → Prop}

/-! ### Files -/

theorem Pandoc.isHeld_of_words {command : List Json} {failure : Failure}
    (h : words command = .error failure) : failure.isHeld = true := by
  unfold words at h
  generalize command.zipIdx = vs at h
  induction vs with
  | nil => cases h
  | cons v vs ih =>
    rw [List.mapM_cons] at h
    rcases bind_eq_error h with hv | ⟨s, -, h⟩
    · dsimp only at hv
      split at hv
      · cases hv
      · cases hv
        rfl
    · rcases bind_eq_error h with hvs | ⟨ss, -, h⟩
      · exact ih hvs
      · cases h

theorem Pandoc.isHeld_of_received {bytes : List UInt8} {failure : Failure}
    (h : received bytes = .error failure) : failure.isHeld = true := by
  unfold received at h
  split at h
  · cases h
  · cases h
    rfl

theorem Pandoc.during_parse (h : Regime inv may) (p : Pandoc) (markup : String) :
    (during inv may).Holds (p.parse markup) fun _ => True := by
  let L := during inv may
  refine L.bind (During.ofExcept (fun _ _ => trivial) fun failure hwords =>
    h.held failure (isHeld_of_words hwords)) fun line _ => ?_
  refine L.bind (h.record _) fun _ _ => ?_
  refine L.bind (Regime.attempt (h.launch _ markup)) fun r hr => ?_
  split
  · exact h.throw rfl
  · exact During.throw (hr.2 _ rfl)
  · -- both of what the program wrote are decoded
    iterate 2
      refine L.bind (During.ofExcept (fun _ _ => trivial) fun failure hreceived =>
        h.held failure (isHeld_of_received hreceived)) fun _ (_ : True) => ?_
    split
    · exact h.throw rfl
    · refine L.bind (Regime.attempt (h.ofText _ _)) fun r hr => ?_
      split
      · exact L.pure trivial
      · split
        · exact h.throw rfl
        · exact During.throw (hr.2 _ rfl)

theorem Pandoc.during_blocks (h : Regime inv may) (p : Pandoc) (markup : String) :
    (during inv may).Holds (p.blocks markup) fun _ => True :=
  (during inv may).bind (Pandoc.during_parse h p markup) fun _ _ => (during inv may).pure trivial

/-! ### The filter of files -/

namespace Include

theorem during_report (h : Regime inv may) (requested : String) (problem : Problem) :
    (during inv may).Holds (problem.report requested) fun _ => True := by
  let L := during inv may
  unfold Problem.report
  split
  · exact L.bind (h.record _) fun _ _ => L.pure trivial
  · exact L.pure trivial

theorem during_fileText (h : Regime inv may) (path : String) :
    (during inv may).Holds (fileText path) fun _ => True := by
  let L := during inv may
  refine L.bind (Regime.attempt (h.readText path)) fun r hr => ?_
  split
  · exact L.pure trivial
  · split <;> exact L.pure trivial
  · exact L.pure trivial
  · exact During.throw (hr.2 _ rfl)

theorem during_fileBlocks {convert : Converter}
    (hconvert : ∀ content, (during inv may).Holds (convert content) fun _ => True)
    (path content : String) :
    (during inv may).Holds (fileBlocks convert path content) fun _ => True := by
  let L := during inv may
  refine L.bind (Regime.attempt (hconvert content)) fun r hr => ?_
  split
  · exact L.pure trivial
  · split
    · exact L.pure trivial
    · exact During.throw (hr.2 _ rfl)

theorem isHeld_of_included {path : String} {v : Json} {failure : Failure}
    (h : included path v = .error failure) : failure.isHeld = true := by
  unfold included at h
  split at h
  · cases h
  · cases h
    rfl

theorem isHeld_of_pathOption {v : Json} {failure : Failure}
    (h : pathOption v = .error failure) : failure.isHeld = true := by
  unfold pathOption at h
  split at h
  · cases h
  · cases h
    rfl

theorem Settings.isHeld_of_contextIn {s : Settings} {cwd : String} {failure : Failure}
    (h : s.contextIn cwd = .error failure) : failure.isHeld = true := by
  rcases bind_eq_error h with h | ⟨source, -, h⟩
  · unfold sourcePath at h
    split at h
    · rcases bind_eq_error h with h | ⟨path, -, h⟩
      · exact isHeld_of_pathOption h
      · cases h
    · cases h
  · rcases bind_eq_error h with h | ⟨base, -, h⟩
    · have hused {v : Json} (h : (if v.isTruthy then pathOption v else .ok ".") = .error failure) :
          failure.isHeld = true := by
        split at h
        · exact isHeld_of_pathOption h
        · cases h
      unfold rootBase at h
      exact hused h
    · cases h

theorem during_passParts (h : Regime inv may) {convert : Converter}
    (hconvert : ∀ content, (during inv may).Holds (convert content) fun _ => True)
    {expand : Json → Context → Run Json}
    (hexpand : ∀ v c, (during inv may).Holds (expand v c) fun _ => True) (b : CodeBlock)
    (c : Context) :
    PassParts (during inv may) fileText convert expand b c (fun _ => True) (fun _ => True)
      (fun _ _ => True) fun _ => True where
  cwd := Regime.cwd
  debug _ := h.record _
  report := during_report h
  load path _ := During.mono (during_fileText h path) (fun _ => id) fun _ _ _ _ => trivial
  blocks path content := During.mono (during_fileBlocks hconvert path content) (fun _ => id)
    fun _ _ _ _ => trivial
  expand path v _ _ _ := hexpand v (c.descend path)
  included _ _ _ _ := During.ofExcept (fun _ _ => trivial) fun failure hfailure =>
    h.held failure (isHeld_of_included hfailure)
  code _ := trivial
  raw _ := trivial

theorem during_expandWithin (h : Regime inv may) {convert : Converter}
    (hconvert : ∀ content, (during inv may).Holds (convert content) fun _ => True) (levels : Nat)
    (v : Json) (c : Context) :
    (during inv may).Holds (expandWithin convert levels v c) fun _ => True := by
  let L := during inv may
  induction levels generalizing v c with
  | zero => exact L.bind (h.record _) fun _ _ => L.pure trivial
  | succ levels ih => exact holds_pass (fun b => during_passParts h hconvert ih b c) v

theorem Settings.during_applyTo (h : Regime inv may) {s : Settings}
    (hconvert : ∀ content, (during inv may).Holds (s.convert content) fun _ => True) (doc : Json) :
    (during inv may).Holds (s.applyTo doc) fun _ => True := by
  let L := during inv may
  have hcontext : L.Holds s.rootContext fun _ => True :=
    L.bind Regime.cwd fun cwd _ => During.ofExcept (fun _ _ => trivial) fun failure hfailure =>
      h.held failure (Settings.isHeld_of_contextIn hfailure)
  exact L.bind hcontext fun c _ => during_expandWithin h hconvert _ doc c

theorem stays_filter (h : Regime inv may) {options : Fields} {f : Filter}
    (hf : Include.filter options none = .ok f) : f.Stays inv may := by
  obtain ⟨⟨s, command⟩, hsettings, hf⟩ := bind_eq_ok hf
  cases hf
  refine Settings.during_applyTo h ?_
  intro content
  obtain ⟨limit, -, hsettings⟩ := bind_eq_ok hsettings
  dsimp only at hsettings
  split at hsettings
  · next hgiven => cases hgiven
  · cases hsettings
    exact Pandoc.during_blocks h _ content
  · cases hsettings
    exact h.throw rfl

end Include

/-! ### Scripts -/

namespace Script

theorem Interpreter.isContained_of_execute {I : Interpreter} {source : String} {space : I.Space}
    {e : Ending} (h : (I.execute source space).1 = .error e) :
    ∃ left r, I.isContained r = false ∧ e = I.ending left r := by
  unfold execute at h
  dsimp only at h
  split at h
  · cases h
  · split at h
    · cases h
    · rename_i r m hrun
      unfold Interpreter.raised at h
      dsimp only at h
      split at h
      · cases h
      · rename_i hcontained
        cases h
        exact ⟨m.space, r, by simpa using hcontained, rfl⟩

/-- Whether a failure is an exception of some script that the interpreter does not contain. -/
def Interpreter.Interrupts (I : Interpreter) (failure : Failure) : Prop :=
  ∃ source space e, (I.execute source space).1 = .error e ∧
    (∃ left r, I.isContained r = false ∧ e = I.ending left r) ∧
    failure = .interrupted e.kind e.text

theorem Interpreter.Interrupts.isContained_eq_false {I : Interpreter} {failure : Failure}
    (h : I.Interrupts failure) : failure.isContained = false := by
  obtain ⟨_, _, _, _, _, rfl⟩ := h
  rfl

namespace Interpreter
variable {I : Interpreter} (h : Regime inv may)
variable (hends : ∀ source space e, (I.execute source space).1 = .error e →
  may (.interrupted e.kind e.text))
include h hends

theorem during_replacement (b : CodeBlock) :
    (during (Beside (fun _ => True) inv) may).Holds (merged (I.replacement b))
      fun _ => True := by
  refine Beside.bind Beside.getState fun space _ => ?_
  have hblock := hends b.text space
  generalize I.execute b.text space = answer at hblock ⊢
  obtain ⟨result, left⟩ := answer
  refine Beside.bind (Beside.setState trivial) fun _ _ => ?_
  cases result with
  | error e => exact Beside.throw (hblock e rfl)
  | ok outcome =>
    dsimp only
    cases outcome.exception with
    | none => exact Beside.pure trivial
    | some e => exact Beside.bind (Beside.lift (h.record _)) fun _ _ => Beside.pure trivial

theorem during_pass (doc : Json) :
    (during (Beside (fun _ => True) inv) may).Holds (merged (I.pass doc)) fun _ => True := by
  have hsweep := I.blockFilter.during_sweep (during_replacement h hends) doc
  refine Beside.bind (Beside.setState trivial) fun _ _ => ?_
  refine Beside.bind (Beside.attempt hsweep) fun r hr => ?_
  refine Beside.bind (Beside.setState trivial) fun _ _ => ?_
  exact Beside.ofExcept (fun _ _ => trivial) hr.2

end Interpreter

theorem Interpreter.stays_filter {I : Interpreter} (h : Regime inv may)
    (hinterrupts : ∀ failure, I.Interrupts failure → may failure) : I.filter.Stays inv may := by
  intro doc
  refine Beside.startingAt trivial (Interpreter.during_pass h ?_ doc)
  intro source space e he
  exact hinterrupts _ ⟨source, space, e, he, Interpreter.isContained_of_execute he, rfl⟩

end Script

/-! ### SQL -/

namespace Sql

/-- Whether databases that follow a script fail in allowed ways only. -/
def AnswersWithin (may : Failure → Prop) (w : World) : Prop :=
  ∀ script, w.databases.script = some script → ∀ calls failure,
    script.answer calls = .fails failure → may failure

theorem during_note (h : Regime inv may) (call : DatabaseCall) :
    (during inv may).Holds (note call) fun _ => True :=
  h.changing fun _ => ⟨rfl, rfl, rfl, rfl, rfl⟩

theorem during_openFile (h : Regime inv may) (db : String) :
    (during inv may).Holds (openFile db) fun _ => True := by
  let L := during inv may
  unfold openFile
  split
  · exact h.throw rfl
  · refine L.bind Regime.get fun w _ => ?_
    split
    · exact L.pure trivial
    · exact h.throw rfl

theorem during_connectUnnamed (h : Regime inv may) (name : String) :
    (during inv may).Holds (connectUnnamed name) fun _ => True :=
  (during inv may).bind (during_note h _) fun _ _ => (during inv may).pure trivial

theorem during_connect (h : Regime inv may) (db : String) :
    (during inv may).Holds (connect db) fun _ => True := by
  let L := during inv may
  refine L.bind (during_note h _) fun _ _ => ?_
  refine L.bind Regime.get fun w _ => ?_
  split
  · split
    · exact h.throw rfl
    · exact L.pure trivial
  · split
    · exact L.pure trivial
    · exact L.bind (during_openFile h db) fun _ _ => L.pure trivial

namespace Connection

theorem during_saved (h : Regime inv may) (c : Connection) :
    (during inv may).Holds c.saved fun _ => True := by
  let L := during inv may
  unfold saved
  split
  · exact L.pure trivial
  · refine L.bind Regime.get fun w _ => ?_
    split
    · exact L.pure trivial
    · split
      · exact h.throw rfl
      · exact L.pure trivial

theorem during_current (h : Regime inv may) (c : Connection) :
    (during inv may).Holds c.current fun _ => True := by
  unfold current
  split
  · exact (during inv may).pure trivial
  · exact during_saved h c

theorem during_save (h : Regime inv may) (c : Connection) (tables : Tables) :
    (during inv may).Holds (c.save tables) fun _ => True := by
  let L := during inv may
  unfold save
  split
  · exact L.pure trivial
  · exact L.bind (h.changing fun _ => ⟨rfl, rfl, rfl, rfl, rfl⟩) fun _ _ => L.pure trivial

theorem during_perform (h : Regime inv may) (c : Connection) (sql : String) :
    (during inv may).Holds (c.perform sql) fun _ => True := by
  let L := during inv may
  unfold perform
  dsimp only
  split
  · exact L.bind (h.throw rfl) fun _ (hnever : False) => hnever.elim
  · split
    · exact h.throw rfl
    · split
      -- the statement runs on the current content, or on none if it names no table
      refine L.bind (during_current h c) fun tables _ => ?_
      rotate_left
      refine L.bind (L.pure trivial) fun tables (_ : True) => ?_
      all_goals
        split
        · exact h.throw rfl
        · split
          · exact L.pure trivial
          · split
            · exact L.pure trivial
            · exact L.bind (during_save h c _) fun _ _ => L.pure trivial

theorem during_execute (h : Regime inv may) (hanswers : ∀ w, inv w → AnswersWithin may w)
    (c : Connection) (sql : String) : (during inv may).Holds (c.execute sql) fun _ => True := by
  let L := during inv may
  refine L.bind (during_note h _) fun _ _ => ?_
  refine L.bind Regime.get fun w hw => ?_
  split
  · exact during_perform h c sql
  · next script hscript =>
    split
    · exact L.pure trivial
    · exact L.pure trivial
    · next failure hanswer => exact During.throw (hanswers w hw script hscript _ failure hanswer)

theorem during_commit (h : Regime inv may) (c : Connection) :
    (during inv may).Holds c.commit fun _ => True := by
  let L := during inv may
  refine L.bind (during_note h _) fun _ _ => ?_
  split
  · exact L.bind (during_save h c _) fun _ _ => L.pure trivial
  · exact L.pure trivial

theorem during_rollback (h : Regime inv may) (c : Connection) :
    (during inv may).Holds c.rollback fun _ => True :=
  (during inv may).bind (during_note h _) fun _ _ => (during inv may).pure trivial

end Connection

section Blocks
variable (h : Regime inv may) (hanswers : ∀ w, inv w → AnswersWithin may w)
include h hanswers

theorem during_executeEach (statements : List String) (last : ResultSet) :
    (during (Beside (fun _ => True) inv) may).Holds (merged (executeEach statements last))
      fun _ => True := by
  induction statements generalizing last with
  | nil => exact Beside.pure trivial
  | cons sql statements ih =>
    refine Beside.bind ?_ fun result (_ : True) => ih _
    refine Beside.bind Beside.getState fun c _ => ?_
    refine Beside.bind (Beside.lift (c.during_execute h hanswers sql)) fun r _ => ?_
    exact Beside.bind (Beside.setState trivial) fun _ _ => Beside.pure trivial

theorem during_executeAll (sql : String) :
    (during (Beside (fun _ => True) inv) may).Holds (merged (executeAll sql)) fun _ => True := by
  have hstatements : (during (Beside (fun _ => True) inv) may).Holds (merged (statementsRun sql))
      fun _ => True := by
    unfold statementsRun
    split
    · exact during_executeEach h hanswers _ _
    · exact Beside.throw (h.held _ rfl)
  refine Beside.bind (Beside.attempt hstatements) fun r hr => ?_
  split
  · refine Beside.bind Beside.getState fun c _ => ?_
    refine Beside.bind (Beside.lift (c.during_commit h)) fun c _ => ?_
    exact Beside.bind (Beside.setState trivial) fun _ _ => Beside.pure trivial
  · refine Beside.bind Beside.getState fun c _ => ?_
    refine Beside.bind (Beside.lift (c.during_rollback h)) fun c _ => ?_
    exact Beside.bind (Beside.setState trivial) fun _ _ => Beside.throw (h.held _ rfl)
  · exact Beside.throw (hr.2 _ rfl)

omit hanswers in
theorem during_ensureOpen (db : String) {connect : Run Connection}
    (hconnect : (during inv may).Holds connect fun _ => True) :
    (during (Beside (fun _ => True) inv) may).Holds (merged (ensureOpen db connect))
      fun _ => True := by
  refine Beside.bind Beside.getState fun connections _ => ?_
  split
  · refine Beside.bind (Beside.lift (h.record _)) fun _ _ => ?_
    exact Beside.bind (Beside.lift hconnect) fun c _ => Beside.setState trivial
  · exact Beside.pure trivial

omit hanswers in
theorem during_withConnection {α : Type} (db : String) {work : Act Connection α}
    (hwork : (during (Beside (fun _ => True) inv) may).Holds (merged work) fun _ => True) :
    (during (Beside (fun _ => True) inv) may).Holds (merged (withConnection db work))
      fun _ => True := by
  refine During.of_cases ?_
  rintro ⟨connections, w⟩ ⟨-, hw⟩
  cases hopen : connections.lookup db with
  | none =>
    rw [run_withConnection_of_closed work hopen]
    refine ⟨⟨trivial, hw⟩, by simp, ?_⟩
    rintro _ ⟨⟩
    exact h.held _ rfl
  | some c =>
    rw [run_withConnection work hopen]
    obtain ⟨hinv, -, herror⟩ := During.cases hwork (t := (c, w)) ⟨trivial, hw⟩
    exact ⟨⟨trivial, hinv.2⟩, fun _ _ => trivial, herror⟩

namespace Settings

omit hanswers in
theorem during_target (s : Settings) (b : CodeBlock) {db : String} {connect : Run Connection}
    (htarget : s.target b = .ok (db, connect)) : (during inv may).Holds connect fun _ => True := by
  unfold target at htarget
  split at htarget
  · cases htarget
    exact during_connect h _
  · cases htarget
    exact during_connect h _
  · dsimp only at htarget
    split at htarget
    · cases htarget
    · cases htarget
      refine (during inv may).bind Regime.get fun w _ => ?_
      split
      · exact during_connectUnnamed h _
      · exact h.throw rfl

omit hanswers h in
theorem isHeld_of_target {s : Settings} {b : CodeBlock} {failure : Failure}
    (htarget : s.target b = .error failure) : failure.isHeld = true := by
  unfold target at htarget
  split at htarget
  · cases htarget
  · cases htarget
  · dsimp only at htarget
    split at htarget
    · cases htarget
      rfl
    · cases htarget

theorem during_replacement (s : Settings) (b : CodeBlock) :
    (during (Beside (fun _ => True) inv) may).Holds (merged (s.replacement b)) fun _ => True := by
  unfold replacement
  refine Beside.bind (Beside.ofExcept (fun _ => id) fun failure hfailure =>
    h.held failure (isHeld_of_target hfailure)) ?_
  rintro ⟨db, connect⟩ htarget
  have hwork : (during (Beside (fun _ => True) inv) may).Holds
      (merged (do ensureOpen db connect; withConnection db (executeAll b.text))) fun _ => True :=
    Beside.bind (during_ensureOpen h db (during_target h s b htarget)) fun _ _ =>
      during_withConnection h db (during_executeAll h hanswers b.text)
  refine Beside.bind (Beside.attempt hwork) fun r hr => ?_
  split
  · exact Beside.bind (Beside.lift (h.record _)) fun _ _ => Beside.pure trivial
  · exact Beside.throw (hr.2 _ rfl)
  · split
    · exact Beside.pure trivial
    · split
      · exact Beside.pure trivial
      · exact Beside.throw (h.held _ rfl)

omit hanswers in
theorem during_closeAll (connections : Connections) :
    (during inv may).Holds (closeAll connections) fun _ => True := by
  induction connections with
  | nil => exact (during inv may).pure trivial
  | cons entry connections ih => exact (during inv may).bind (during_note h _) fun _ _ => ih

theorem during_pass (s : Settings) (doc : Json) :
    (during (Beside (fun _ => True) inv) may).Holds (merged (s.pass doc)) fun _ => True := by
  have hsweep := s.blockFilter.during_sweep (during_replacement h hanswers s) doc
  refine Beside.bind (Beside.attempt hsweep) fun r hr => ?_
  refine Beside.bind Beside.getState fun connections _ => ?_
  refine Beside.bind (Beside.lift (during_closeAll h connections)) fun _ _ => ?_
  refine Beside.bind (Beside.setState trivial) fun _ _ => ?_
  exact Beside.ofExcept (fun _ _ => trivial) hr.2

end Settings

theorem stays_filter (options : Fields) : (Sql.filter options).Stays inv may :=
  fun doc => Beside.startingAt trivial (Settings.during_pass h hanswers _ doc)

end Blocks

end Sql

/-! ### Diagrams -/

namespace Diagram

variable (h : Regime inv may)
include h

theorem during_chooseFormat (name : Option String) :
    (during inv may).Holds (chooseFormat name) fun _ => True := by
  let L := during inv may
  unfold chooseFormat
  dsimp only
  split
  · exact L.pure trivial
  · exact L.bind (h.record _) fun _ _ => L.pure trivial

theorem during_render (executable : Json) (format : Format) (source : String) :
    (during inv may).Holds (render executable format source) fun _ => True := by
  let L := during inv may
  refine L.bind (Regime.attempt (h.launch _ source)) fun r hr => ?_
  split
  · exact L.pure trivial
  · exact During.throw (hr.2 _ rfl)
  · split <;> exact L.pure trivial

theorem Settings.during_replacement (s : Settings) (b : CodeBlock) :
    (during inv may).Holds (s.replacement b) fun _ => True := by
  let L := during inv may
  refine L.bind (during_chooseFormat h _) fun format _ => ?_
  refine L.bind (during_render h _ _ _) fun r _ => ?_
  split
  · exact L.pure trivial
  · exact L.bind (h.record _) fun _ _ => L.pure trivial

theorem stays_blockFilter (s : Settings) (doc : Json) :
    (during inv may).Holds
      (do MonadExcept.ofExcept (← Act.startingAt () (s.blockFilter.sweep doc)).1 : Run Json)
      fun _ => True :=
  have hrewrite (b : CodeBlock) : (during (Beside (fun _ => True) inv) may).Holds
      (merged (s.blockFilter.rewrite b)) fun _ => True :=
    Beside.lift (s.during_replacement h b)
  Beside.startingAt trivial (s.blockFilter.during_sweep hrewrite doc)

theorem during_filter (options : Fields) :
    (during inv fun _ => True).Holds (Diagram.filter options) fun f => f.Stays inv may := by
  let L := during inv fun _ : Failure => True
  unfold Diagram.filter
  dsimp only
  split
  · exact L.bind (during_chooseFormat h.any _) fun format _ => L.pure (stays_blockFilter h _)
  · split
    · exact L.bind (During.throw trivial) fun _ (hnever : False) => hnever.elim
    · exact L.bind (during_chooseFormat h.any _) fun format _ => L.pure (stays_blockFilter h _)

end Diagram

/-! ### Making filters -/

/-- A built-in filter that is made of options stays in every regime, if databases and scripts do. -/
theorem Builtin.during_makeWith {I : Script.Interpreter} (h : Regime inv may)
    (hanswers : ∀ w, inv w → Sql.AnswersWithin may w) {b : Builtin}
    (hinterrupts : b = .script → ∀ failure, I.Interrupts failure → may failure)
    (options : Fields) :
    (during inv fun _ => True).Holds (b.makeWith I options) fun f => f.Stays inv may := by
  let L := during inv fun _ : Failure => True
  unfold makeWith
  dsimp only
  split
  · exact During.throw trivial
  · cases b with
    | files =>
      exact During.ofExcept (fun f hf => Include.stays_filter h hf) fun _ _ => trivial
    | script => exact L.pure (Script.Interpreter.stays_filter h (hinterrupts rfl))
    | sql => exact L.pure (Sql.stays_filter h hanswers options)
    | diagram => exact Diagram.during_filter h options

end DocFilter
