import DocFilter.Proofs.Computation
import DocFilter.World

/-!
# Reading and logging

How a run goes on that has a state beside the world, and what logging and reading leave alone.
Without a log file the files stay what they are, and then what is read does not depend on what was
logged or read before. Only reading a file counts as opening it.
-/

namespace DocFilter

/-! ### What a failure boundary holds -/

namespace Failure
variable {failure : Failure}

/-- Whether a failure boundary holds a failure: it may, and there are words to report it. -/
def isHeld (failure : Failure) : Bool := failure.held.isOk

theorem isHeld_iff :
    failure.isHeld = true ↔ failure.isContained = true ∧ ∃ words, failure.text = .ok words := by
  unfold isHeld held
  cases failure.isContained with
  | false => simp [Except.isOk, Except.toBool]
  | true => cases failure.text <;> simp [Except.isOk, Except.toBool]

theorem text_eq_message {words : String} (h : failure.text = .ok words) :
    words = failure.message := by
  cases failure <;> cases h <;> rfl

theorem held_eq_message (h : failure.isHeld = true) : failure.held = .ok failure.message := by
  obtain ⟨hcontained, words, hwords⟩ := isHeld_iff.mp h
  rw [held, if_pos hcontained, hwords, text_eq_message hwords]

theorem held_eq_error {out : Failure} : failure.held = .error out ↔
    failure.isContained = false ∧ failure = out ∨
      failure.isContained = true ∧ failure.text = .error out := by
  unfold held
  cases failure.isContained <;> simp

end Failure

/-! ### Runs beside a state -/

theorem run_get (w : World) : (get : Run World).run w = (.ok w, w) := rfl

theorem run_attempt {α : Type} (x : Run α) (w : World) :
    x.attempt.run w = (.ok (x.run w).1, (x.run w).2) := rfl

theorem run_debug (origin text : String) (w : World) :
    (Run.debug origin text).run w = (.ok (), w.log ⟨.debug, origin, text, none⟩) := rfl

section Act
variable {σ α : Type}

theorem run_merged_lift {x : Run α} {t : σ × World} {w : World} {outcome : Except Failure α}
    (h : x.run t.2 = (outcome, w)) : (merged (liftM x : Act σ α)).run t = (outcome, (t.1, w)) := by
  change ((x.run t.2).1, (t.1, (x.run t.2).2)) = _
  rw [h]

theorem lift_bind {β : Type} (x : Run α) (f : α → Run β) :
    (liftM (x >>= f) : Act σ β) = liftM x >>= fun a => liftM (f a) := by
  have hlift (s : σ) (w : World) :
      (liftM x : Act σ α) s w = (((x.run w).1, s), (x.run w).2) := rfl
  funext s w
  change ((((x >>= f).run w).1, s), ((x >>= f).run w).2) = _
  rw [run_bind]
  simp only [bind, ExceptT.bind, ExceptT.mk, StateT.bind, ExceptT.bindCont]
  rw [hlift]
  cases (x.run w).1 <;> rfl

theorem run_merged_getState (t : σ × World) :
    (merged (Act.getState : Act σ σ)).run t = (.ok t.1, t) := rfl

theorem run_merged_setState (s : σ) (t : σ × World) :
    (merged (Act.setState s)).run t = (.ok (), (s, t.2)) := rfl

theorem run_merged_attempt (x : Act σ α) (t : σ × World) :
    (merged x.attempt).run t = (.ok ((merged x).run t).1, ((merged x).run t).2) := rfl

/-- A computation that starts from a state of its own and whose outcome is then taken up. -/
theorem run_ofExcept_startingAt (x : Act σ α) (start : σ) (w : World) :
    (do MonadExcept.ofExcept (← Act.startingAt start x).1 : Run α).run w =
      (((merged x).run (start, w)).1, ((merged x).run (start, w)).2.2) := by
  have hstart : (Act.startingAt start x).run w =
      (.ok (((merged x).run (start, w)).1, ((merged x).run (start, w)).2.1),
        ((merged x).run (start, w)).2.2) := rfl
  rw [run_bind_of_ok hstart, run_ofExcept]

theorem run_merged_ofExcept (x : Except Failure α) (t : σ × World) :
    (merged (MonadExcept.ofExcept x : Act σ α)).run t = (x, t) := by
  cases x <;> rfl

end Act

theorem World.records_log (w : World) (r : Log.Record) :
    (w.log r).records = w.records ++ [r] := by
  unfold World.log
  dsimp only
  split <;> rfl

theorem World.databases_log (w : World) (r : Log.Record) :
    (w.log r).databases = w.databases := by
  unfold World.log
  dsimp only
  split <;> rfl

theorem World.programs_log (w : World) (r : Log.Record) : (w.log r).programs = w.programs := by
  unfold World.log
  dsimp only
  split <;> rfl

theorem World.opened_log (w : World) (r : Log.Record) : (w.log r).opened = w.opened := by
  unfold World.log
  dsimp only
  split <;> rfl

theorem World.stdout_log (w : World) (r : Log.Record) : (w.log r).stdout = w.stdout := by
  unfold World.log
  dsimp only
  split <;> rfl

theorem World.cwd_log (w : World) (r : Log.Record) : (w.log r).cwd = w.cwd := by
  unfold World.log
  dsimp only
  split <;> rfl

theorem World.setup_log (w : World) (r : Log.Record) : (w.log r).setup = w.setup := by
  unfold World.log
  dsimp only
  split <;> rfl

/-- Whether nothing happened from one world to another but that records were logged. -/
def World.OnlyLogged (w u : World) : Prop := ∃ rs : List Log.Record, u = rs.foldl World.log w

namespace World.OnlyLogged
variable {w u v : World}

theorem refl (w : World) : w.OnlyLogged w := ⟨[], rfl⟩

theorem log (w : World) (r : Log.Record) : w.OnlyLogged (w.log r) := ⟨[r], rfl⟩

theorem trans (h : w.OnlyLogged u) (h' : u.OnlyLogged v) : w.OnlyLogged v := by
  obtain ⟨rs, rfl⟩ := h
  obtain ⟨rs', rfl⟩ := h'
  exact ⟨rs ++ rs', (List.foldl_append ..).symm⟩

theorem eq_of_log {α : Type} {field : World → α} (hfield : ∀ w r, field (w.log r) = field w)
    (h : w.OnlyLogged u) : field u = field w := by
  obtain ⟨rs, rfl⟩ := h
  induction rs generalizing w with
  | nil => rfl
  | cons r rs ih => rw [List.foldl_cons, ih, hfield]

theorem programs_eq (h : w.OnlyLogged u) : u.programs = w.programs := h.eq_of_log programs_log

theorem databases_eq (h : w.OnlyLogged u) : u.databases = w.databases := h.eq_of_log databases_log

theorem opened_eq (h : w.OnlyLogged u) : u.opened = w.opened := h.eq_of_log opened_log

theorem stdout_eq (h : w.OnlyLogged u) : u.stdout = w.stdout := h.eq_of_log stdout_log

/-- Without a log file the files stay what they are. -/
theorem disk_eq (h : w.OnlyLogged u) (hfile : w.setup.file = none) : u.disk = w.disk := by
  obtain ⟨rs, rfl⟩ := h
  induction rs generalizing w with
  | nil => rfl
  | cons r rs ih =>
    have hlog : (w.log r).disk = w.disk := by
      unfold World.log
      dsimp only
      split
      · rfl
      · simp only [hfile]
    rw [List.foldl_cons, ih (by rw [setup_log, hfile]), hlog]

end World.OnlyLogged

def World.printing (w : World) (text : String) : World := { w with stdout := w.stdout ++ text }

def World.noteOpened (w : World) (p : String) : World := { w with opened := w.opened ++ [p] }

def World.textAt (w : World) (p : String) : Except Failure String :=
  if p.toList.contains '\x00' then .error (.badValue "embedded null byte")
  else match w.disk.read w.here p with
    | .error refusal => .error (.os ⟨refusal, some (quoted p)⟩)
    | .ok bytes => match Utf8.decode bytes with
      | .ok text => .ok (String.ofList (unifyLineEnds text.toList))
      | .error fault => .error (.undecodable fault)

theorem run_readBytes {p : String} (h : p.toList.contains '\x00' = false) (w : World) :
    (Run.readBytes p).run w = match w.disk.read w.here p with
      | .ok bytes => (.ok bytes, w.noteOpened p)
      | .error refusal => (.error (.os ⟨refusal, some (quoted p)⟩), w) := by
  unfold Run.readBytes Run.checkPath
  rw [h]
  change ((match w.disk.read w.here p with
    | .ok bytes => do
      set { w with opened := w.opened ++ [p] }
      return bytes
    | .error refusal => throw (.os ⟨refusal, some (quoted p)⟩) : Run (List UInt8)).run w) = _
  cases w.disk.read w.here p <;> rfl

/-- Reading gives the text at the path, and leaves the world as it is but for noting that the file
was opened. -/
theorem run_readText (p : String) (w : World) :
    ((Run.readText p).run w).1 = w.textAt p ∧
      (((Run.readText p).run w).2 = w ∨ ((Run.readText p).run w).2 = w.noteOpened p) := by
  unfold Run.readText World.textAt
  cases hnull : p.toList.contains '\x00' with
  | true =>
    have hbytes : (Run.readBytes p).run w = (.error (.badValue "embedded null byte"), w) := by
      unfold Run.readBytes Run.checkPath
      rw [hnull]
      rfl
    rw [run_bind_of_error hbytes]
    exact ⟨rfl, .inl rfl⟩
  | false =>
    have hbytes := run_readBytes hnull w
    cases hread : w.disk.read w.here p with
    | error refusal =>
      rw [hread] at hbytes
      rw [run_bind_of_error hbytes]
      exact ⟨rfl, .inl rfl⟩
    | ok bytes =>
      rw [hread] at hbytes
      rw [run_bind_of_ok hbytes]
      dsimp only
      cases Utf8.decode bytes <;> exact ⟨rfl, .inr rfl⟩

/-! ### Worlds with the same files -/

/-- Two worlds without a log file, with the same files and the same working directory. -/
structure World.Alike (w w' : World) : Prop where
  disk_eq : w.disk = w'.disk
  cwd_eq : w.cwd = w'.cwd
  no_file : w.setup.file = none
  no_file' : w'.setup.file = none

namespace World

theorem alike_self {w : World} (h : w.setup.file = none) : Alike w w := ⟨rfl, rfl, h, h⟩

namespace Alike
variable {w w' : World}

theorem symm (h : Alike w w') : Alike w' w :=
  ⟨h.disk_eq.symm, h.cwd_eq.symm, h.no_file', h.no_file⟩

theorem log_left (h : Alike w w') (r : Log.Record) : Alike (w.log r) w' := by
  have hfile := h.no_file
  unfold World.log
  dsimp only
  split
  · exact ⟨h.disk_eq, h.cwd_eq, hfile, h.no_file'⟩
  · refine ⟨?_, h.cwd_eq, hfile, h.no_file'⟩
    dsimp only
    rw [hfile]
    exact h.disk_eq

theorem log_right (h : Alike w w') (r : Log.Record) : Alike w (w'.log r) :=
  (h.symm.log_left r).symm

theorem textAt_eq (h : Alike w w') (p : String) : w.textAt p = w'.textAt p := by
  rw [textAt, textAt, here, here, h.disk_eq, h.cwd_eq]

theorem readText_left (h : Alike w w') (p : String) : Alike ((Run.readText p).run w).2 w' := by
  rcases (run_readText p w).2 with hrun | hrun
  · rwa [hrun]
  · rw [hrun]
    exact ⟨h.disk_eq, h.cwd_eq, h.no_file, h.no_file'⟩

theorem readText_right (h : Alike w w') (p : String) : Alike w ((Run.readText p).run w').2 :=
  (h.symm.readText_left p).symm

end Alike

end World

end DocFilter
