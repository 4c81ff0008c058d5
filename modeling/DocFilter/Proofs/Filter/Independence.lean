import DocFilter.Proofs.Include.Pass
import DocFilter.Proofs.Prospect
import DocFilter.Proofs.Script.Session
import Mathlib.Data.List.Forall2

/-!
# Passes of one filter

A filter that is kept between documents, and passes over one document after another. However a pass
ends, the filter is afterwards what it was when it was made. What a pass gives depends on the
document and on the prospect of the world, so that nothing can tell it from the first pass of
another filter made alike.
-/

namespace DocFilter

/-! ### Including files -/

namespace Include

theorem foreseen_report (requested : String) (problem : Problem) :
    Foreseen (problem.report requested) := by
  let L : Logic Run := respecting World.SameProspect
  unfold Problem.report
  cases problem.warning? requested with
  | none => exact L.pure trivial
  | some text => exact L.bind (Foreseen.record _) fun _ _ => L.pure trivial

theorem foreseen_fileText (path : String) : Foreseen (fileText path) := by
  let L : Logic Run := respecting World.SameProspect
  refine L.bind (Foreseen.readText path).attempt fun r _ => ?_
  split
  · exact L.pure trivial
  · split <;> exact L.pure trivial
  · exact L.pure trivial
  · exact Respecting.throw

section Convert
variable {convert : Converter} (hconvert : ∀ content, Foreseen (convert content))
include hconvert

theorem foreseen_fileBlocks (path content : String) :
    Foreseen (fileBlocks convert path content) := by
  let L : Logic Run := respecting World.SameProspect
  refine L.bind (hconvert content).attempt fun r _ => ?_
  split
  · exact L.pure trivial
  · split
    · exact L.pure trivial
    · exact Respecting.throw

theorem foreseen_expandWithin (levels : Nat) (v : Json) (c : Context) :
    Foreseen (expandWithin convert levels v c) := by
  let L : Logic Run := respecting World.SameProspect
  induction levels generalizing v c with
  | zero => exact L.bind (Foreseen.record _) fun _ _ => L.pure trivial
  | succ levels ih =>
    have hparts (b : CodeBlock) : PassParts L fileText convert (expandWithin convert levels) b c
        (fun _ => True) (fun _ => True) (fun _ _ => True) (fun _ => True) :=
      { cwd := Foreseen.cwd
        debug := fun _ => Foreseen.record _
        report := foreseen_report
        load := fun path _ => Respecting.mono (foreseen_fileText path) fun _ _ _ _ => trivial
        blocks := fun path content =>
          Respecting.mono (foreseen_fileBlocks hconvert path content) fun _ _ _ _ => trivial
        expand := fun path v _ _ _ => ih v (c.descend path)
        included := fun _ _ _ _ => Respecting.ofExcept _
        code := fun _ => trivial
        raw := fun _ => trivial }
    exact holds_pass hparts v

theorem Settings.foreseen_applyTo {s : Settings} (hs : s.convert = convert) (doc : Json) :
    Foreseen (s.applyTo doc) := by
  let L : Logic Run := respecting World.SameProspect
  have hcontext : Foreseen s.rootContext :=
    L.bind Foreseen.cwd fun cwd _ => Respecting.ofExcept _
  refine L.bind hcontext fun c _ => ?_
  rw [hs]
  exact foreseen_expandWithin hconvert _ doc c

end Convert

end Include

/-! ### Scripts -/

namespace Script.Interpreter

theorem foreseen_replacement (I : Interpreter) (b : CodeBlock) :
    ForeseenBeside (I.replacement b) := by
  refine ForeseenBeside.bind .getState fun space => ?_
  obtain ⟨result, left⟩ := I.execute b.text space
  refine ForeseenBeside.bind (.setState left) fun _ => ?_
  cases result with
  | error e => exact .throw _
  | ok outcome =>
    dsimp only
    cases outcome.exception with
    | none => exact .pure _
    | some e => exact .bind (.lift (Foreseen.record _)) fun _ => .pure _

theorem foreseen_pass (I : Interpreter) (doc : Json) : ForeseenBeside (I.pass doc) :=
  .bind (.setState _) fun _ => .bind (.attempt (.sweep I.foreseen_replacement doc)) fun _ =>
    .bind (.setState _) fun _ => .ofExcept _

end Script.Interpreter

/-! ### SQL -/

namespace Sql

theorem foreseen_note (call : DatabaseCall) : Foreseen (note call) :=
  Respecting.modify fun _ _ h => h.noting [call]

theorem foreseen_openFile (db : String) : Foreseen (openFile db) := by
  let L : Logic Run := respecting World.SameProspect
  unfold openFile
  split
  · exact Respecting.throw_bind
  · refine Respecting.get_bind (fun w w' h => ?_) fun w => ?_
    · rw [h.disk_eq, h.here_eq]
    · split
      · exact L.pure trivial
      · exact Respecting.throw

theorem foreseen_connectUnnamed (shown : String) : Foreseen (connectUnnamed shown) := by
  let L : Logic Run := respecting World.SameProspect
  exact L.bind (foreseen_note _) fun _ _ => L.pure trivial

/-- What a scripted database is going to answer is read off the script and the calls so far. -/
theorem after_nil (script : DatabaseScript) (calls : List DatabaseCall) :
    (script.after calls).refusal? [] = script.refusal? calls ∧
      (script.after calls).answer [] = script.answer calls := by
  simp only [DatabaseScript.after, List.append_nil, and_self]

theorem foreseen_connect (db : String) : Foreseen (connect db) := by
  let L : Logic Run := respecting World.SameProspect
  refine L.bind (foreseen_note _) fun _ _ => ?_
  refine Respecting.get_bind (fun w w' h => ?_) fun w => ?_
  · rcases h.script_cases with ⟨hw, hw'⟩ | ⟨script, script', hw, hw', hafter⟩
    · rw [hw, hw']
    · rw [hw, hw']
      dsimp only
      rw [← (after_nil script _).1, hafter, (after_nil script' _).1]
  · split
    · split
      · exact Respecting.throw
      · exact L.pure trivial
    · split
      · exact L.pure trivial
      · exact L.bind (foreseen_openFile db) fun _ _ => L.pure trivial

namespace Connection

theorem foreseen_saved (c : Connection) : Foreseen c.saved := by
  let L : Logic Run := respecting World.SameProspect
  unfold saved
  split
  · exact L.pure trivial
  · refine Respecting.get_bind (fun w w' h => ?_) fun w => ?_
    · rw [h.saved_eq, h.disk_eq]
    · split
      · exact L.pure trivial
      · split
        · exact Respecting.throw
        · exact L.pure trivial

theorem foreseen_current (c : Connection) : Foreseen c.current := by
  let L : Logic Run := respecting World.SameProspect
  unfold current
  split
  · exact L.pure trivial
  · exact foreseen_saved c

theorem foreseen_save (c : Connection) (tables : Tables) : Foreseen (c.save tables) := by
  let L : Logic Run := respecting World.SameProspect
  unfold save
  split
  · exact L.pure trivial
  · rename_i place _
    refine L.bind (Respecting.modify fun w w' h => ?_) fun _ _ => L.pure trivial
    exact h.saving place tables

theorem foreseen_perform (c : Connection) (sql : String) : Foreseen (c.perform sql) := by
  let L : Logic Run := respecting World.SameProspect
  unfold perform
  dsimp only
  split
  · exact Respecting.throw_bind
  · split
    · exact Respecting.throw
    · split
      -- the statement runs on the current content, or on none if it names no table
      refine L.bind (foreseen_current c) fun tables _ => ?_
      rotate_left
      refine L.bind (L.pure trivial) fun tables (_ : True) => ?_
      all_goals
        split
        · exact Respecting.throw
        · split
          · exact L.pure trivial
          · split
            · exact L.pure trivial
            · exact L.bind (foreseen_save c _) fun _ _ => L.pure trivial

theorem foreseen_execute (c : Connection) (sql : String) : Foreseen (c.execute sql) := by
  let L : Logic Run := respecting World.SameProspect
  refine L.bind (foreseen_note _) fun _ _ => ?_
  refine Respecting.get_bind (fun w w' h => ?_) fun w => ?_
  · rcases h.script_cases with ⟨hw, hw'⟩ | ⟨script, script', hw, hw', hafter⟩
    · rw [hw, hw']
    · rw [hw, hw']
      dsimp only
      rw [← (after_nil script _).2, hafter, (after_nil script' _).2]
  · split
    · exact foreseen_perform c sql
    · split
      · exact L.pure trivial
      · exact L.pure trivial
      · exact Respecting.throw

theorem foreseen_commit (c : Connection) : Foreseen c.commit := by
  let L : Logic Run := respecting World.SameProspect
  refine L.bind (foreseen_note _) fun _ _ => ?_
  split
  · exact L.bind (foreseen_save c _) fun _ _ => L.pure trivial
  · exact L.pure trivial

theorem foreseen_rollback (c : Connection) : Foreseen c.rollback := by
  let L : Logic Run := respecting World.SameProspect
  exact L.bind (foreseen_note _) fun _ _ => L.pure trivial

end Connection

theorem foreseen_executeEach (statements : List String) (last : ResultSet) :
    ForeseenBeside (executeEach statements last) := by
  induction statements generalizing last with
  | nil => exact .pure last
  | cons sql statements ih =>
    refine ForeseenBeside.bind ?_ fun result => ih _
    refine ForeseenBeside.bind .getState fun c => ?_
    refine ForeseenBeside.bind (.lift (c.foreseen_execute sql)) fun r => ?_
    exact .bind (.setState _) fun _ => .pure _

theorem foreseen_executeAll (sql : String) : ForeseenBeside (executeAll sql) := by
  have hstatements : ForeseenBeside (statementsRun sql) := by
    unfold statementsRun
    split
    · exact foreseen_executeEach _ _
    · exact .throw _
  refine ForeseenBeside.bind (.attempt hstatements) fun r => ?_
  split
  · refine ForeseenBeside.bind .getState fun c => ?_
    exact .bind (.lift c.foreseen_commit) fun _ => .bind (.setState _) fun _ => .pure _
  · refine ForeseenBeside.bind .getState fun c => ?_
    exact .bind (.lift c.foreseen_rollback) fun _ => .bind (.setState _) fun _ => .throw _
  · exact .throw _

theorem foreseen_ensureOpen (db : String) {connect : Run Connection} (h : Foreseen connect) :
    ForeseenBeside (ensureOpen db connect) := by
  refine ForeseenBeside.bind .getState fun connections => ?_
  split
  · refine ForeseenBeside.bind (.lift (Foreseen.record _)) fun _ => ?_
    exact .bind (.lift h) fun _ => .setState _
  · exact .pure _

theorem foreseen_withConnection {α : Type} (db : String) {work : Act Connection α}
    (h : ForeseenBeside work) : ForeseenBeside (withConnection db work) := by
  refine Respecting.of_run ?_
  rintro ⟨cs, w⟩ ⟨_, w'⟩ ⟨rfl, hw⟩
  cases hopen : cs.lookup db with
  | none =>
    rw [run_withConnection_of_closed work hopen, run_withConnection_of_closed work hopen]
    exact ⟨rfl, rfl, hw⟩
  | some c =>
    rw [run_withConnection work hopen, run_withConnection work hopen]
    obtain ⟨hout, ⟨hc, hw'⟩, -⟩ := h (c, w) (c, w') ⟨rfl, hw⟩
    exact ⟨hout, congrArg (replace db · cs) hc, hw'⟩

namespace Settings

theorem foreseen_target {s : Settings} {b : CodeBlock} {db : String} {connect : Run Connection}
    (h : s.target b = .ok (db, connect)) : Foreseen connect := by
  unfold target at h
  split at h
  · cases h
    exact foreseen_connect _
  · cases h
    exact foreseen_connect _
  · dsimp only at h
    split at h
    · cases h
    · cases h
      refine Respecting.get_bind (fun w w' hsame => ?_) fun w => ?_
      · rcases hsame.script_cases with ⟨hw, hw'⟩ | ⟨script, script', hw, hw', -⟩ <;>
          rw [hw, hw']
        rfl
      · split
        · exact foreseen_connectUnnamed _
        · exact Respecting.throw

theorem foreseen_replacement (s : Settings) (b : CodeBlock) :
    ForeseenBeside (s.replacement b) := by
  unfold replacement
  refine ForeseenBeside.ofExcept_bind ?_
  rintro ⟨db, connect⟩ htarget
  have hwork : ForeseenBeside (do ensureOpen db connect; withConnection db (executeAll b.text)) :=
    .bind (foreseen_ensureOpen db (foreseen_target htarget)) fun _ =>
      foreseen_withConnection db (foreseen_executeAll b.text)
  refine ForeseenBeside.bind (.attempt hwork) fun r => ?_
  split
  · exact .bind (.lift (Foreseen.record _)) fun _ => .pure _
  · exact .throw _
  · split
    · exact .pure _
    · split
      · exact .pure _
      · exact .throw _

theorem foreseen_closeAll (connections : Connections) : Foreseen (closeAll connections) := by
  let L : Logic Run := respecting World.SameProspect
  induction connections with
  | nil => exact L.pure trivial
  | cons entry connections ih => exact L.bind (foreseen_note _) fun _ _ => ih

theorem foreseen_pass (s : Settings) (doc : Json) : ForeseenBeside (s.pass doc) := by
  refine ForeseenBeside.bind (.attempt (.sweep s.foreseen_replacement doc)) fun _ => ?_
  refine ForeseenBeside.bind .getState fun connections => ?_
  refine ForeseenBeside.bind (.lift (foreseen_closeAll connections)) fun _ => ?_
  exact .bind (.setState _) fun _ => .ofExcept _

end Settings

end Sql

/-! ### Filters that are kept -/

/-- A filter made with some arguments: one that includes files, one that runs scripts, or one that
runs SQL. -/
inductive FilterObject where
  | files (s : Include.Settings)
  | script (I : Script.Interpreter)
  | sql (s : Sql.Settings)

/-- A document handed to a filter, after others have changed the world. -/
structure Handing where
  meanwhile : World → World
  doc : Json

namespace FilterObject

/-- What a filter keeps: nothing, a namespace, or open connections. -/
def State : FilterObject → Type
  | .files _ => Unit
  | .script I => I.Space
  | .sql _ => Sql.Connections

/-- What a filter keeps that has just been made. -/
def made : (o : FilterObject) → o.State
  | .files _ => ()
  | .script I => I.empty
  | .sql _ => []

def pass : (o : FilterObject) → Json → Act o.State Json
  | .files s, doc => liftM (s.applyTo doc)
  | .script I, doc => I.pass doc
  | .sql s, doc => s.pass doc

/-- How a filter that has just been made ends its first pass. -/
def fresh (o : FilterObject) (doc : Json) (w : World) : Except Failure Json :=
  ((merged (o.pass doc)).run (o.made, w)).1

/-- A pass of a filter: the world that it found, how it ended, and what it left in the filter. -/
structure Passed (o : FilterObject) where
  moment : World
  outcome : Except Failure Json
  kept : o.State

/-- The passes of a filter over documents that it is handed one after another, whether they fail or
not. -/
def feed (o : FilterObject) : List Handing → o.State × World → List (Passed o)
  | [], _ => []
  | handing :: rest, (s, w) =>
    let moment := handing.meanwhile w
    let ending := (merged (o.pass handing.doc)).run (s, moment)
    ⟨moment, ending.1, ending.2.1⟩ :: o.feed rest ending.2

/-- Whether the converter of a filter, if it has one, sees nothing of the world but its prospect. -/
def ConverterForeseen : FilterObject → Prop
  | .files s => ∀ content, Foreseen (s.convert content)
  | .script _ | .sql _ => True

/-- Pandoc is such a converter. -/
theorem converterForeseen_of_pandoc {s : Include.Settings} {p : Pandoc}
    (h : s.convert = p.blocks) : (files s).ConverterForeseen := by
  intro content
  rw [h]
  exact p.foreseen_blocks content

/-- Every pass leaves the filter as it was made, whatever it kept before. -/
theorem kept_eq_made (o : FilterObject) (doc : Json) (t : o.State × World) :
    ((merged (o.pass doc)).run t).2.1 = o.made := by
  cases o with
  | files s => rfl
  | script I => exact congrArg (·.2.1) (I.run_pass doc t)
  | sql s => exact congrArg (·.2.1) (s.run_pass doc t)

theorem foreseen_pass {o : FilterObject} (h : o.ConverterForeseen) (doc : Json) :
    ForeseenBeside (o.pass doc) := by
  cases o with
  | files s => exact .lift (Include.Settings.foreseen_applyTo h rfl doc)
  | script I => exact I.foreseen_pass doc
  | sql s => exact s.foreseen_pass doc

/-- Passes of one filter are independent. However the passes before have ended, and whatever others
have done to the world in between, a pass ends as the first pass of a filter would that was made
alike at that moment; and if the converter looks at no more, it ends so in every world with the same
files, databases and outcomes of programs to come. Nothing is left in the filter. -/
theorem passes_independent (o : FilterObject) (handings : List Handing) (w : World) :
    List.Forall₂ (fun (handing : Handing) (passed : Passed o) =>
        passed.kept = o.made ∧ passed.outcome = o.fresh handing.doc passed.moment ∧
          (o.ConverterForeseen → ∀ v, passed.moment.SameProspect v →
            passed.outcome = o.fresh handing.doc v))
      handings (o.feed handings (o.made, w)) := by
  -- every pass starts with the filter as it was made, because the one before has left it so
  suffices h : ∀ t : o.State × World, t.1 = o.made →
      List.Forall₂ (fun (handing : Handing) (passed : Passed o) =>
          passed.kept = o.made ∧ passed.outcome = o.fresh handing.doc passed.moment ∧
            (o.ConverterForeseen → ∀ v, passed.moment.SameProspect v →
              passed.outcome = o.fresh handing.doc v))
        handings (o.feed handings t) from h _ rfl
  induction handings with
  | nil => exact fun _ _ => .nil
  | cons handing rest ih =>
    rintro ⟨s, w⟩ rfl
    have hkept := o.kept_eq_made handing.doc (o.made, handing.meanwhile w)
    refine .cons ⟨hkept, rfl, fun hforeseen v hv => ?_⟩ (ih _ hkept)
    have hpass := foreseen_pass hforeseen handing.doc
    exact (hpass (o.made, handing.meanwhile w) (o.made, v) ⟨rfl, hv⟩).1

end FilterObject

end DocFilter
