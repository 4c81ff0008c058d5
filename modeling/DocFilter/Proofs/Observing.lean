import DocFilter.Proofs.World

/-!
# Runs that only look

A run that only looks at the world changes nothing but the note of which files were opened, and
this note has no influence on how it ends. Such a run is known by its outcome alone: the outcome of
two of them in turn is the outcome of the first and then that of the second in the same world.
-/

namespace DocFilter

/-- What a run gives in a world, or the failure that it ends in. -/
def World.outcome {α : Type} (w : World) (x : Run α) : Except Failure α := (x.run w).1

theorem World.run_eq_of_outcome {α : Type} {w : World} {x : Run α} {outcome : Except Failure α}
    (h : w.outcome x = outcome) : x.run w = (outcome, (x.run w).2) :=
  Prod.ext h rfl

theorem World.outcome_bind_of_error {α β : Type} {w : World} {x : Run α} {f : α → Run β}
    {failure : Failure} (h : w.outcome x = .error failure) :
    w.outcome (x >>= f) = .error failure := by
  rw [outcome, run_bind_of_error (run_eq_of_outcome h)]

/-- Whether two worlds are the same but for the note of which files were opened. -/
def World.SameButOpened (w u : World) : Prop := u = { w with opened := u.opened }

namespace World.SameButOpened
variable {w u v : World}

theorem refl (w : World) : w.SameButOpened w := rfl

theorem trans (h : w.SameButOpened u) (h' : u.SameButOpened v) : w.SameButOpened v := by
  unfold World.SameButOpened at *
  rw [h', h]

theorem noteOpened (w : World) (p : String) : w.SameButOpened (w.noteOpened p) := rfl

theorem disk_eq (h : w.SameButOpened u) : u.disk = w.disk := by rw [h]

theorem cwd_eq (h : w.SameButOpened u) : u.cwd = w.cwd := by rw [h]

theorem here_eq (h : w.SameButOpened u) : u.here = w.here := by
  rw [World.here, h.cwd_eq, ← World.here]

theorem environment_eq (h : w.SameButOpened u) : u.environment = w.environment := by rw [h]
theorem account_eq (h : w.SameButOpened u) : u.account = w.account := by rw [h]

end World.SameButOpened

structure OnlyLooks {α : Type} (x : Run α) : Prop where
  leaves : ∀ w : World, w.SameButOpened (x.run w).2
  outcome_eq : ∀ {w u : World}, w.SameButOpened u → u.outcome x = w.outcome x

namespace OnlyLooks
variable {α β : Type} {x : Run α} {f : α → Run β}

theorem pure (a : α) : OnlyLooks (Pure.pure a : Run α) := ⟨fun _ => rfl, fun _ => rfl⟩

theorem throw (failure : Failure) : OnlyLooks (MonadExcept.throw failure : Run α) :=
  ⟨fun _ => rfl, fun _ => rfl⟩

theorem ofExcept (r : Except Failure α) : OnlyLooks (MonadExcept.ofExcept r : Run α) := by
  cases r with
  | ok a => exact pure a
  | error failure => exact throw failure

theorem attempt (h : OnlyLooks x) : OnlyLooks x.attempt :=
  ⟨h.leaves, fun hsame => congrArg Except.ok (h.outcome_eq hsame)⟩

/-- Of two runs that only look, the second ends as it would without the first. -/
theorem outcome_bind_of_ok {w : World} {a : α} (hx : OnlyLooks x) (hf : OnlyLooks (f a))
    (h : w.outcome x = .ok a) : w.outcome (x >>= f) = w.outcome (f a) := by
  rw [World.outcome, run_bind_of_ok (World.run_eq_of_outcome h)]
  exact hf.outcome_eq (hx.leaves w)

theorem outcome_bind (hx : OnlyLooks x) (hf : ∀ a, OnlyLooks (f a)) (w : World) :
    w.outcome (x >>= f) = match w.outcome x with
      | .error failure => .error failure
      | .ok a => w.outcome (f a) := by
  cases h : w.outcome x with
  | error failure => rw [World.outcome_bind_of_error h]
  | ok a => rw [outcome_bind_of_ok hx (hf a) h]

theorem bind (hx : OnlyLooks x) (hf : ∀ a, OnlyLooks (f a)) : OnlyLooks (x >>= f) := by
  refine ⟨fun w => ?_, fun {w u} hsame => ?_⟩
  · rw [run_bind]
    cases (x.run w).1 with
    | error failure => exact hx.leaves w
    | ok a => exact (hx.leaves w).trans ((hf a).leaves _)
  · have hout := hx.outcome_eq hsame
    cases hw : w.outcome x with
    | error failure =>
      rw [World.outcome_bind_of_error hw, World.outcome_bind_of_error (hout.trans hw)]
    | ok a =>
      rw [outcome_bind_of_ok hx (hf a) hw, outcome_bind_of_ok hx (hf a) (hout.trans hw),
        (hf a).outcome_eq hsame]

/-- What a run looks at in the world may be all but the note of which files were opened. -/
theorem get_bind {f : World → Run α} (hf : ∀ w, OnlyLooks (f w))
    (hsteady : ∀ {w u : World}, w.SameButOpened u → f u = f w) : OnlyLooks (get >>= f) := by
  refine ⟨fun w => (hf w).leaves w, fun {w u} hsame => ?_⟩
  change u.outcome (f u) = w.outcome (f w)
  rw [hsteady hsame, (hf w).outcome_eq hsame]

end OnlyLooks

namespace World
variable {α : Type} (w : World)

@[simp] theorem outcome_pure (a : α) : w.outcome (pure a : Run α) = .ok a := rfl

@[simp] theorem outcome_throw (failure : Failure) :
    w.outcome (throw failure : Run α) = .error failure := rfl

@[simp] theorem outcome_attempt (x : Run α) : w.outcome x.attempt = .ok (w.outcome x) := rfl

theorem outcome_get_bind (f : World → Run α) : w.outcome (get >>= f) = w.outcome (f w) := rfl

@[simp] theorem outcome_ofExcept (r : Except Failure α) :
    w.outcome (MonadExcept.ofExcept r : Run α) = r := by
  cases r <;> rfl

end World

/-! ### Looking for files and reading them -/

/-- A path that leads nowhere has a missing part, a part that is no directory, or a part that is too
long. -/
theorem Disk.locate_cases {d : Disk} {cwd : Place} {p : String} {refusal : Refusal}
    (h : d.locate cwd p = .error refusal) :
    refusal = .missing ∨ refusal = .notDirectory ∨ refusal = .nameTooLong := by
  have hstep {here : Place} {name : String} (h : d.step here name = .error refusal) :
      refusal = .missing ∨ refusal = .notDirectory ∨ refusal = .nameTooLong := by
    unfold Disk.step at h
    grind
  have hsteps (names : List String) {here : Place}
      (h : names.foldlM d.step here = .error refusal) :
      refusal = .missing ∨ refusal = .notDirectory ∨ refusal = .nameTooLong := by
    induction names generalizing here with
    | nil => cases h
    | cons name names ih =>
      rw [List.foldlM_cons] at h
      rcases bind_eq_error h with hfirst | ⟨place, -, hrest⟩
      · exact hstep hfirst
      · exact ih hrest
  unfold Disk.locate at h
  split at h
  · cases h
    exact .inl rfl
  · split at h
    · cases h
      exact .inr (.inr rfl)
    · exact hsteps _ h

namespace World
variable {w : World} {p : String} {content : List UInt8}

/-- Whether the files cannot even be asked about a path, since it is too long or a part of it is. -/
def RefusesToLook (w : World) (p : String) : Prop :=
  '\x00' ∉ p.toList ∧ w.disk.locate w.here p = .error .nameTooLong

/-- Whether a file with some content stands at a path. -/
def HasFile (w : World) (p : String) (content : List UInt8) : Prop :=
  '\x00' ∉ p.toList ∧ w.disk.read w.here p = .ok content

theorem outcome_entryAt_of_null (h : '\x00' ∈ p.toList) :
    w.outcome (Run.entryAt? p) = .ok none := by
  unfold Run.entryAt?
  rw [if_pos (List.contains_iff_mem.mpr h), outcome_pure]

theorem outcome_entryAt_of_not_null (h : '\x00' ∉ p.toList) :
    w.outcome (Run.entryAt? p) = match w.disk.locate w.here p with
      | .ok place => .ok (w.disk.find? place)
      | .error .nameTooLong => .error (.os ⟨.nameTooLong, some (quoted p)⟩)
      | .error _ => .ok none := by
  have hnull : ¬ p.toList.contains '\x00' = true := by rwa [List.contains_iff_mem]
  unfold Run.entryAt?
  rw [if_neg hnull, outcome_get_bind]
  cases hlocate : w.disk.locate w.here p with
  | ok place => rfl
  | error refusal =>
    rcases Disk.locate_cases hlocate with rfl | rfl | rfl <;> rfl

/-- Looking at a path fails only where the files cannot be asked. -/
theorem outcome_entryAt_eq_error {failure : Failure} :
    w.outcome (Run.entryAt? p) = .error failure ↔
      w.RefusesToLook p ∧ failure = .os ⟨.nameTooLong, some (quoted p)⟩ := by
  by_cases hnull : '\x00' ∈ p.toList
  · simp [outcome_entryAt_of_null hnull, RefusesToLook, hnull]
  · rw [outcome_entryAt_of_not_null hnull]
    cases hlocate : w.disk.locate w.here p with
    | ok place => simp [RefusesToLook, hlocate]
    | error refusal =>
      rcases Disk.locate_cases hlocate with rfl | rfl | rfl <;>
        simp [RefusesToLook, hlocate, hnull, eq_comm]

theorem outcome_entryAt_eq_file :
    w.outcome (Run.entryAt? p) = .ok (some (.file content)) ↔ w.HasFile p content := by
  by_cases hnull : '\x00' ∈ p.toList
  · simp [outcome_entryAt_of_null hnull, HasFile, hnull]
  · rw [outcome_entryAt_of_not_null hnull, HasFile, Disk.read]
    cases hlocate : w.disk.locate w.here p with
    | ok place =>
      simp only [bind, Except.bind]
      cases hfind : w.disk.find? place with
      | none => simp [hnull]
      | some e => cases e <;> simp [hnull, pure, Except.pure]
    | error refusal =>
      rcases Disk.locate_cases hlocate with rfl | rfl | rfl <;> simp [bind, Except.bind]

end World

section Looking
variable (p : String)

theorem onlyLooks_entryAt : OnlyLooks (Run.entryAt? p) := by
  unfold Run.entryAt?
  split
  · exact .pure none
  · refine .get_bind (fun w => ?_) fun {w u} hsame => ?_
    · split
      · exact .pure _
      · exact .pure none
      · exact .pure none
      · exact .throw _
    · rw [hsame.disk_eq, hsame.here_eq]

theorem onlyLooks_isFile : OnlyLooks (Run.isFile p) := by
  refine (onlyLooks_entryAt p).bind fun e => ?_
  split <;> exact .pure _

theorem onlyLooks_readBytes : OnlyLooks (Run.readBytes p) := by
  cases hnull : p.toList.contains '\x00' with
  | true =>
    have hthrow : Run.readBytes p = throw (.badValue "embedded null byte") := by
      unfold Run.readBytes Run.checkPath
      rw [hnull]
      rfl
    rw [hthrow]
    exact .throw _
  | false =>
    refine ⟨fun w => ?_, fun {w u} hsame => ?_⟩
    · rw [run_readBytes hnull]
      cases w.disk.read w.here p with
      | error refusal => exact .refl w
      | ok bytes => exact .noteOpened w p
    · unfold World.outcome
      rw [run_readBytes hnull, run_readBytes hnull, hsame.disk_eq, hsame.here_eq]
      cases w.disk.read w.here p <;> rfl

theorem onlyLooks_readText : OnlyLooks (Run.readText p) := by
  refine (onlyLooks_readBytes p).bind fun bytes => ?_
  split
  · exact .pure _
  · exact .throw _

end Looking

namespace World
variable {w : World} {p : String} {content : List UInt8}

theorem outcome_isFile_of_ok {e : Option Entry} (h : w.outcome (Run.entryAt? p) = .ok e) :
    w.outcome (Run.isFile p) = .ok true ∧ (∃ content, e = some (.file content)) ∨
      w.outcome (Run.isFile p) = .ok false ∧ ∀ content, e ≠ some (.file content) := by
  unfold Run.isFile
  rw [OnlyLooks.outcome_bind_of_ok (onlyLooks_entryAt p) ?_ h]
  · split
    · exact .inl ⟨rfl, _, rfl⟩
    · exact .inr ⟨rfl, by assumption⟩
  · split <;> exact .pure _

theorem outcome_isFile_eq_error {failure : Failure} :
    w.outcome (Run.isFile p) = .error failure ↔
      w.RefusesToLook p ∧ failure = .os ⟨.nameTooLong, some (quoted p)⟩ := by
  rw [← outcome_entryAt_eq_error]
  cases h : w.outcome (Run.entryAt? p) with
  | error failure' => simp only [Run.isFile, outcome_bind_of_error h, Except.error.injEq]
  | ok e => rcases outcome_isFile_of_ok h with ⟨hfile, -⟩ | ⟨hfile, -⟩ <;> simp [hfile]

theorem outcome_isFile_eq_true :
    w.outcome (Run.isFile p) = .ok true ↔ ∃ content, w.HasFile p content := by
  simp only [← outcome_entryAt_eq_file]
  cases h : w.outcome (Run.entryAt? p) with
  | error failure => simp [Run.isFile, outcome_bind_of_error h]
  | ok e => rcases outcome_isFile_of_ok h with ⟨hfile, he⟩ | ⟨hfile, he⟩ <;> simp [hfile, he]

theorem HasFile.outcome_readBytes (h : w.HasFile p content) :
    w.outcome (Run.readBytes p) = .ok content := by
  have hnull : p.toList.contains '\x00' = false := by
    rw [← Bool.not_eq_true, List.contains_iff_mem]
    exact h.1
  unfold outcome
  rw [run_readBytes hnull, h.2]

theorem HasFile.outcome_readBytes_bind {α : Type} {f : List UInt8 → Run α} (h : w.HasFile p content)
    (hf : OnlyLooks (f content)) : w.outcome (Run.readBytes p >>= f) = w.outcome (f content) :=
  OnlyLooks.outcome_bind_of_ok (onlyLooks_readBytes p) hf h.outcome_readBytes

end World

end DocFilter
