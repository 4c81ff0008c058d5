import DocFilter.Proofs.Converter
import DocFilter.Proofs.Sql.Protocol

/-!
# What lies ahead of a run

What a run can still find out about the world: its files, the outcomes of the launches to come, the
saved databases, what databases are going to answer, and how records are written. What was logged,
opened, launched or called before is no part of it. Whatever does not look at more ends the same way
in all worlds that have this in common, and they still have it in common afterwards.
-/

namespace DocFilter

theorem DatabaseScript.after_append (script : DatabaseScript) (earlier later : List DatabaseCall) :
    script.after (earlier ++ later) = (script.after earlier).after later := by
  simp only [DatabaseScript.after, List.append_assoc]

namespace World

/-- What a run can find out about a world. -/
structure Prospect where
  disk : Disk
  cwd : String
  environment : List (String × String)
  outcomes : List ProgramOutcome
  script : Option DatabaseScript
  saved : List (Place × Sql.Tables)
  setup : Log.Setup
  clock : String

def prospect (w : World) : Prospect where
  disk := w.disk
  cwd := w.cwd
  environment := w.environment
  outcomes := w.programs.outcomes
  script := w.databases.script.map (·.after w.databases.calls)
  saved := w.databases.saved
  setup := w.setup
  clock := w.clock

def SameProspect (w w' : World) : Prop := w.prospect = w'.prospect

namespace SameProspect
variable {w w' : World}

theorem disk_eq (h : SameProspect w w') : w.disk = w'.disk := congrArg Prospect.disk h

theorem cwd_eq (h : SameProspect w w') : w.cwd = w'.cwd := congrArg Prospect.cwd h

theorem here_eq (h : SameProspect w w') : w.here = w'.here := congrArg Path.steps h.cwd_eq

theorem outcomes_eq (h : SameProspect w w') : w.programs.outcomes = w'.programs.outcomes :=
  congrArg Prospect.outcomes h

theorem saved_eq (h : SameProspect w w') : w.databases.saved = w'.databases.saved :=
  congrArg Prospect.saved h

theorem setup_eq (h : SameProspect w w') : w.setup = w'.setup := congrArg Prospect.setup h

theorem clock_eq (h : SameProspect w w') : w.clock = w'.clock := congrArg Prospect.clock h

theorem textAt_eq (h : SameProspect w w') (p : String) : w.textAt p = w'.textAt p := by
  rw [textAt, textAt, h.here_eq, h.disk_eq]

/-- Either no databases follow a script, or all that they are going to answer is the same. -/
theorem script_cases (h : SameProspect w w') :
    (w.databases.script = none ∧ w'.databases.script = none) ∨
      ∃ script script', w.databases.script = some script ∧ w'.databases.script = some script' ∧
        script.after w.databases.calls = script'.after w'.databases.calls := by
  have hscript : w.databases.script.map (·.after w.databases.calls) =
      w'.databases.script.map (·.after w'.databases.calls) := congrArg Prospect.script h
  cases hw : w.databases.script with
  | none =>
    rw [hw, Option.map_none] at hscript
    exact .inl ⟨rfl, Option.map_eq_none_iff.mp hscript.symm⟩
  | some script =>
    rw [hw, Option.map_some] at hscript
    obtain ⟨script', hw', hafter⟩ := Option.map_eq_some_iff.mp hscript.symm
    exact .inr ⟨script, script', rfl, hw', hafter.symm⟩

theorem log (h : SameProspect w w') (r : Log.Record) : SameProspect (w.log r) (w'.log r) := by
  have hlog (u : World) : (u.log r).prospect = { u.prospect with disk := (u.log r).disk } := by
    unfold World.log
    dsimp only
    split <;> rfl
  have hdisk : (w.log r).disk = (w'.log r).disk := by
    unfold World.log
    dsimp only
    rw [h.setup_eq, h.disk_eq, h.clock_eq]
    split <;> rfl
  rw [SameProspect, hlog, hlog, hdisk, h]

theorem readText (h : SameProspect w w') (p : String) :
    SameProspect ((Run.readText p).run w).2 ((Run.readText p).run w').2 := by
  have hsame (u : World) : ((Run.readText p).run u).2.prospect = u.prospect := by
    rcases (run_readText p u).2 with hrun | hrun
    · rw [hrun]
    · rw [hrun]
      rfl
  exact (hsame w).trans (h.trans (hsame w').symm)

theorem launching (h : SameProspect w w') (command : List Json) (input : String) :
    SameProspect (w.launching command input) (w'.launching command input) := by
  have hlaunching (u : World) : (u.launching command input).prospect =
      { u.prospect with outcomes := u.prospect.outcomes.tail } := rfl
  rw [SameProspect, hlaunching, hlaunching, h]

theorem noting (h : SameProspect w w') (calls : List DatabaseCall) :
    SameProspect (w.noting calls) (w'.noting calls) := by
  have hnoting (u : World) : (u.noting calls).prospect =
      { u.prospect with script := u.prospect.script.map (·.after calls) } := by
    have hscript : u.databases.script.map (·.after (u.databases.calls ++ calls)) =
        (u.databases.script.map (·.after u.databases.calls)).map (·.after calls) := by
      rw [Option.map_map]
      exact congrArg (u.databases.script.map ·) (funext fun script => script.after_append _ _)
    exact congrArg (fun script => { u.prospect with script := script }) hscript
  rw [SameProspect, hnoting, hnoting, h]

theorem saving (h : SameProspect w w') (place : Place) (tables : Sql.Tables) :
    SameProspect (w.saving place tables) (w'.saving place tables) := by
  have hsaving (u : World) : (u.saving place tables).prospect =
      { u.prospect with saved := (place, tables) :: u.prospect.saved.filter (·.1 != place) } := rfl
  rw [SameProspect, hsaving, hsaving, h]

end SameProspect

end World

/-! ### Runs -/

/-- Whether a run sees nothing of the world but its prospect. -/
abbrev Foreseen {α : Type} (x : Run α) : Prop :=
  (respecting World.SameProspect).Holds x fun _ => True

namespace Foreseen
variable {α : Type}

theorem attempt {x : Run α} (h : Foreseen x) : Foreseen x.attempt :=
  Respecting.attempt (run_attempt x) h

theorem record (r : Log.Record) : Foreseen (Run.record r) :=
  Respecting.modify fun _ _ h => h.log r

theorem cwd : Foreseen Run.cwd :=
  Respecting.get_bind (fun _ _ h => congrArg Pure.pure h.cwd_eq) fun _ =>
    (respecting _).pure trivial

theorem readText (p : String) : Foreseen (Run.readText p) := by
  refine Respecting.of_run fun w w' h => ?_
  rw [(run_readText p w).1, (run_readText p w').1]
  exact ⟨h.textAt_eq p, h.readText p⟩

theorem launch (command : List Json) (input : String) : Foreseen (Run.launch command input) := by
  refine Respecting.of_run fun w w' h => ?_
  cases hcommand : Run.isLaunchable command with
  | true =>
    rw [run_launch hcommand, run_launch hcommand, h.outcomes_eq]
    exact ⟨rfl, h.launching command input⟩
  | false =>
    rw [run_launch_of_null hcommand, run_launch_of_null hcommand]
    exact ⟨rfl, h⟩

theorem ofText (text : String) (source : Option String) :
    Foreseen (Document.ofText text source) := by
  let L : Logic Run := respecting World.SameProspect
  have hjudged (v : Json) (text : String) : Foreseen (do
      if (v.field? "pandoc-api-version").isNone then Run.warn Document.logName text
      return v) := by
    dsimp only
    split
    · exact L.bind (record _) fun _ _ => L.pure trivial
    · exact L.pure trivial
  unfold Document.ofText
  dsimp only
  split
  · exact Respecting.throw
  · split
    · exact Respecting.throw_bind
    · exact hjudged _ _

end Foreseen

/-- What becomes of the document that a converter wrote. -/
theorem Pandoc.foreseen_judged (p : Pandoc) (r : Except Failure Json) : Foreseen (match r with
    | .ok doc => return doc
    | .error failure =>
      if failure.category? = some .parsing then throw (.converterOutput p.command failure)
      else throw failure : Run Json) := by
  cases r with
  | ok doc => exact (respecting World.SameProspect).pure trivial
  | error failure =>
    dsimp only
    split
    · exact Respecting.throw
    · exact Respecting.throw

/-- Conversions by pandoc depend on the outcomes of launches alone. -/
theorem Pandoc.foreseen_blocks (p : Pandoc) (markup : String) : Foreseen (p.blocks markup) := by
  let L : Logic Run := respecting World.SameProspect
  have hparse : Foreseen (p.parse markup) := by
    refine L.bind (Respecting.ofExcept _) fun line _ => ?_
    refine L.bind (Foreseen.record _) fun _ _ => ?_
    refine L.bind (Foreseen.launch _ _).attempt fun ended _ => ?_
    split
    · exact Respecting.throw
    · exact Respecting.throw
    · refine L.bind (Respecting.ofExcept _) fun written _ => ?_
      refine L.bind (Respecting.ofExcept _) fun diagnostics _ => ?_
      dsimp only
      split
      · exact Respecting.throw_bind
      · exact L.bind (Foreseen.ofText _ _).attempt fun r _ => p.foreseen_judged r
  exact L.bind hparse fun doc _ => L.pure trivial

/-! ### Beside a state of its own -/

/-- Whether two worlds have the same prospect beside the same state. -/
def World.SameBeside {σ : Type} (t u : σ × World) : Prop := t.1 = u.1 ∧ t.2.SameProspect u.2

/-- Whether a computation sees nothing but its state and the prospect of the world. -/
abbrev ForeseenBeside {σ α : Type} (x : Act σ α) : Prop :=
  (respecting World.SameBeside).Holds (merged x) fun _ => True

namespace ForeseenBeside
variable {σ α β : Type}

theorem pure (a : α) : ForeseenBeside (Pure.pure a : Act σ α) :=
  (respecting World.SameBeside).pure trivial

theorem bind {x : Act σ α} {f : α → Act σ β} (hx : ForeseenBeside x)
    (hf : ∀ a, ForeseenBeside (f a)) : ForeseenBeside (x >>= f) := by
  unfold ForeseenBeside
  rw [merged_bind]
  exact (respecting World.SameBeside).bind hx fun a _ => hf a

theorem throw (failure : Failure) : ForeseenBeside (MonadExcept.throw failure : Act σ α) :=
  fun _ _ hst => ⟨rfl, hst, nofun⟩

theorem lift {x : Run α} (h : Foreseen x) : ForeseenBeside (liftM x : Act σ α) := by
  refine Respecting.of_run ?_
  rintro ⟨s, w⟩ ⟨s', w'⟩ ⟨hs, hw⟩
  obtain ⟨hout, hw', -⟩ := h w w' hw
  exact ⟨hout, hs, hw'⟩

theorem getState : ForeseenBeside (Act.getState : Act σ σ) :=
  Respecting.of_run fun _ _ h => ⟨congrArg Except.ok h.1, h⟩

theorem setState (s : σ) : ForeseenBeside (Act.setState s) :=
  Respecting.of_run fun _ _ h => ⟨rfl, rfl, h.2⟩

theorem attempt {x : Act σ α} (h : ForeseenBeside x) : ForeseenBeside x.attempt :=
  Respecting.attempt (run_merged_attempt x) h

theorem ofExcept_bind {x : Except Failure α} {f : α → Act σ β}
    (h : ∀ a, x = .ok a → ForeseenBeside (f a)) :
    ForeseenBeside (MonadExcept.ofExcept x >>= f) := by
  have hx : (respecting World.SameBeside).Holds (merged (MonadExcept.ofExcept x : Act σ α))
      fun a => x = .ok a := by
    intro s t hst
    rw [run_merged_ofExcept, run_merged_ofExcept]
    exact ⟨rfl, hst, fun _ => id⟩
  unfold ForeseenBeside
  rw [merged_bind]
  exact (respecting World.SameBeside).bind hx h

theorem ofExcept (x : Except Failure α) :
    ForeseenBeside (MonadExcept.ofExcept x : Act σ α) := by
  cases x with
  | ok a => exact pure a
  | error failure => exact throw failure

/-- A sweep sees no more than the rewriting of blocks does. -/
theorem sweep {f : BlockFilter σ} (h : ∀ b, ForeseenBeside (f.rewrite b)) (doc : Json) :
    ForeseenBeside (f.sweep doc) := by
  have hwalk : merged (f.sweep doc) = walk (fun n => merged (f.visit n)) doc :=
    merging.walk (fun _ => rfl) doc
  unfold ForeseenBeside
  rw [hwalk]
  refine (respecting World.SameBeside).walk Rebuilding.trivial (fun fs gs _ _ => ?_) doc
  cases hb : f.block? (.obj gs) with
  | none =>
    rw [BlockFilter.visit_of_no_block hb]
    exact pure _
  | some b =>
    rw [BlockFilter.visit_of_block hb]
    exact h b

end ForeseenBeside

end DocFilter
