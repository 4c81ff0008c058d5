import DocFilter.Include
import DocFilter.Proofs.Path.Canonical
import DocFilter.Proofs.Walk.Rules
import DocFilter.Proofs.World

/-!
# One pass over a value

What an include block asks for, and the rules by which a statement about the parts of a pass
(reading a file, converting it, expanding its blocks) becomes one about the pass. A block is only
ever answered with a file that is not being included already.
-/

namespace DocFilter.Include

/-! ### Levels -/

theorem Context.remaining_eq_zero {c : Context} : c.remaining = 0 ↔ c.isExhausted = true := by
  rw [remaining, isExhausted, decide_eq_true_iff, Int.toNat_eq_zero]
  omega

theorem Context.remaining_descend (c : Context) (path : String) :
    (c.descend path).remaining = c.remaining - 1 := by
  simp only [remaining, descend]
  omega

/-! ### What a block asks for -/

/-- Whether a block may ask for a file in a context, from some working directory. -/
def Asks (b : CodeBlock) (c : Context) (path : String) : Prop :=
  ∃ cwd mode, request cwd b c = .ok ⟨path, mode⟩

theorem request_eq_ok {cwd : String} {b : CodeBlock} {c : Context} {r : Request}
    (h : request cwd b c = .ok r) :
    r.path = Path.resolve cwd (strip b.text) (some (referenceBase b c)) ∧
      isCycle r.path c.stack = false := by
  unfold request at h
  dsimp only at h
  split at h
  · cases h
  · split at h
    · cases h
    · next hcycle =>
      split at h
      · cases h
      · rw [← Except.ok.inj h]
        dsimp only
        exact ⟨rfl, by simpa using hcycle⟩

/-- A file that is being included is never asked for. -/
theorem Asks.not_mem {b : CodeBlock} {c : Context} {path : String} (h : Asks b c path) :
    path ∉ c.stack := by
  obtain ⟨cwd, mode, hr⟩ := h
  simpa [isCycle] using (request_eq_ok hr).2

theorem isAbsolute_referenceBase {c : Context} (h : Path.isAbsolute c.baseDir = true)
    (b : CodeBlock) : Path.isAbsolute (referenceBase b c) = true := by
  unfold referenceBase
  split
  · exact Path.isAbsolute_join h _
  · exact h

/-- In an absolute directory every file is asked for by its canonical path. -/
theorem Asks.isCanonical {b : CodeBlock} {c : Context} {path : String} (h : Asks b c path)
    (hbase : Path.isAbsolute c.baseDir = true) : Path.IsCanonical path := by
  obtain ⟨cwd, mode, hr⟩ := h
  have hpath : path = _ := (request_eq_ok hr).1
  rw [hpath]
  exact Path.resolve_isCanonical (isAbsolute_referenceBase hbase b) cwd _

/-! ### The parts of a pass -/

theorem run_report (requested : String) (problem : Problem) (w : World) :
    (problem.report requested).run w = (.ok (errorBlock requested problem.message),
      match problem.warning? requested with
      | some text => w.log ⟨.warning, logName, text, none⟩
      | none => w) := by
  unfold Problem.report
  cases problem.warning? requested <;> rfl

/-- What reading a file gives to the pass: a failure of another kind than a file that cannot be used
ends the run. -/
def readingOf (path : String) : Except Failure String → Except Failure (Except Problem String)
  | .ok content => .ok (.ok content)
  | .error (.os fault) =>
    .ok (.error (if fault.refusal.code = 2 then .notFound path
      else .unreadable path fault.message))
  | .error (.undecodable fault) => .ok (.error (.unreadable path fault.message))
  | .error failure => .error failure

theorem run_fileText (path : String) (w : World) :
    (fileText path).run w =
      (readingOf path (w.textAt path), ((Run.readText path).run w).2) := by
  have hattempt : ((Run.readText path).attempt).run w =
      (.ok (w.textAt path), ((Run.readText path).run w).2) := by
    rw [run_attempt, (run_readText path w).1]
  unfold fileText
  rw [run_bind_of_ok hattempt]
  cases w.textAt path with
  | ok content => rfl
  | error failure =>
    cases failure with
    | os fault =>
      dsimp only [readingOf]
      split <;> rfl
    | _ => rfl

theorem readingOf_eq_ok {path content : String} {r : Except Failure String}
    (h : readingOf path r = .ok (.ok content)) : r = .ok content := by
  unfold readingOf at h
  split at h
  · cases h
    rfl
  · cases h
  · cases h
  · cases h

theorem run_fileBlocks (convert : Converter) (path content : String) (w : World) :
    (fileBlocks convert path content).run w =
      (match ((convert content).run w).1 with
        | .ok blocks => .ok (.ok blocks)
        | .error failure =>
          if failure.isConversion then .ok (.error (.unparsed path failure.message))
          else .error failure,
        ((convert content).run w).2) := by
  unfold fileBlocks
  rw [run_bind_of_ok (run_attempt (convert content) w)]
  cases ((convert content).run w).1 with
  | ok blocks => rfl
  | error failure =>
    dsimp only
    split <;> rfl

/-! ### Unfolding an expansion -/

/-- A pass only expands what it descends to. -/
theorem pass_congr {m : Type → Type} [Monad m] [MonadLiftT Run m]
    (load : String → m (Except Problem String)) (convert : Converter)
    {expand expand' : Json → Context → m Json} (v : Json) (c : Context)
    (h : ∀ v path, expand v (c.descend path) = expand' v (c.descend path)) :
    pass load convert expand v c = pass load convert expand' v c := by
  unfold pass replacement parsed
  simp only [h]

theorem expand_eq (convert : Converter) (v : Json) (c : Context) :
    expand convert v c = if c.isExhausted then leave v c
      else pass fileText convert (expand convert) v c := by
  cases hfull : c.isExhausted with
  | true => rw [expand, Context.remaining_eq_zero.mpr hfull, expandWithin, if_pos rfl]
  | false =>
    obtain ⟨levels, hlevels⟩ : ∃ levels, c.remaining = levels + 1 := by
      refine Nat.exists_eq_succ_of_ne_zero fun hzero => ?_
      rw [Context.remaining_eq_zero.mp hzero] at hfull
      cases hfull
    rw [expand, hlevels, expandWithin, if_neg Bool.false_ne_true]
    refine pass_congr fileText convert v c fun v path => ?_
    rw [expand, Context.remaining_descend, hlevels, Nat.add_sub_cancel]

/-! ### What holds of a pass -/

section Logic
variable {m : Type → Type} [Monad m] [MonadLiftT Run m]
variable {load : String → m (Except Problem String)} {convert : Converter}
variable {expand : Json → Context → m Json} {c : Context}

/-- The statements about the parts of a pass in a context from which follows that a block is
replaced by a value with `good`: `readable` of the files that are read, `parsable` of the blocks
made of them, and `expanded` of these blocks after expansion. -/
structure PassParts (L : Logic m) (load : String → m (Except Problem String)) (convert : Converter)
    (expand : Json → Context → m Json) (b : CodeBlock) (c : Context) (readable : String → Prop)
    (parsable : Json → Prop) (expanded : String → Json → Prop) (good : Json → Prop) : Prop where
  cwd : L.Holds (liftM Run.cwd) fun _ => True
  debug : ∀ text, L.Holds (liftM (Run.debug logName text)) fun _ => True
  report : ∀ requested problem, L.Holds (liftM (Problem.report requested problem)) good
  load : ∀ path, Asks b c path →
    L.Holds (load path) fun r => ∀ content, r = .ok content → readable path
  blocks : ∀ path content,
    L.Holds (liftM (fileBlocks convert path content)) fun r => ∀ v, r = .ok v → parsable v
  expand : ∀ path v, Asks b c path → readable path → parsable v →
    L.Holds (expand v (c.descend path)) (expanded path)
  included : ∀ path v, Asks b c path → expanded path v →
    L.Holds (liftM (MonadExcept.ofExcept (included path v) : Run Json)) good
  code : ∀ content, good (codeOf b content)
  raw : ∀ content, good (rawOf b content)

variable {L : Logic m} {b : CodeBlock} {readable : String → Prop} {parsable : Json → Prop}
variable {expanded : String → Json → Prop} {good : Json → Prop}

theorem PassParts.parsed
    (h : PassParts L load convert expand b c readable parsable expanded good) {path : String}
    (ha : Asks b c path) (hr : readable path) (requested content : String) :
    L.Holds (parsed convert expand requested path content c) good := by
  unfold Include.parsed
  refine L.bind (h.blocks path content) fun r hblocks => ?_
  cases r with
  | error problem => exact h.report requested problem
  | ok v =>
    refine L.bind (h.expand path v ha hr (hblocks v rfl)) fun w hw => ?_
    exact h.included path w ha hw

theorem PassParts.replacement
    (h : PassParts L load convert expand b c readable parsable expanded good) :
    L.Holds (replacement load convert expand b c) good := by
  unfold Include.replacement
  refine L.bind h.cwd fun cwd _ => ?_
  cases hr : request cwd b c with
  | error problem => exact h.report _ problem
  | ok r =>
    have ha : Asks b c r.path := ⟨cwd, r.mode, hr⟩
    refine L.bind (h.load r.path ha) fun text hload => ?_
    cases text with
    | error problem => exact h.report _ problem
    | ok content =>
      refine L.bind (h.debug _) fun _ _ => ?_
      cases r.mode with
      | code => exact L.pure (h.code content)
      | raw => exact L.pure (h.raw content)
      | parse => exact h.parsed ha (hload content rfl) _ content

/-- A pass keeps what the replacement of each block keeps. -/
theorem holds_pass (h : ∀ b, PassParts L load convert expand b c readable parsable expanded
    fun _ => True) (v : Json) : L.Holds (pass load convert expand v c) fun _ => True := by
  refine L.walk Rebuilding.trivial (fun fs gs _ _ => ?_) v
  split
  · exact (h _).replacement
  · exact L.pure trivial

end Logic

/-! ### Passes that go the same way -/

section Simulation
variable {m n : Type → Type} [Monad m] [Monad n] [MonadLiftT Run m] [MonadLiftT Run n]

/-- The parts of a pass in two monads, and in two contexts, that go the same way. -/
structure SamePass (S : Simulation m n) (load : String → m (Except Problem String))
    (load' : String → n (Except Problem String)) (convert : Converter)
    (expand : Json → Context → m Json) (expand' : Json → Context → n Json) (c c' : Context) :
    Prop where
  cwd : S.Rel (liftM Run.cwd) (liftM Run.cwd)
  debug : ∀ text, S.Rel (liftM (Run.debug logName text)) (liftM (Run.debug logName text))
  report : ∀ requested problem, S.Rel (liftM (Problem.report requested problem))
    (liftM (Problem.report requested problem))
  load : ∀ path, S.Rel (load path) (load' path)
  blocks : ∀ path content, S.Rel (liftM (fileBlocks convert path content))
    (liftM (fileBlocks convert path content))
  expand : ∀ v path, S.Rel (expand v (c.descend path)) (expand' v (c'.descend path))
  included : ∀ path v, S.Rel (liftM (MonadExcept.ofExcept (included path v) : Run Json))
    (liftM (MonadExcept.ofExcept (included path v) : Run Json))
  request_eq : ∀ cwd b, request cwd b c = request cwd b c'
  depth_eq : c.depth = c'.depth

variable {S : Simulation m n} {load : String → m (Except Problem String)}
variable {load' : String → n (Except Problem String)} {convert : Converter}
variable {expand : Json → Context → m Json} {expand' : Json → Context → n Json} {c c' : Context}

theorem SamePass.parsed (h : SamePass S load load' convert expand expand' c c')
    (requested path content : String) :
    S.Rel (parsed convert expand requested path content c)
      (parsed convert expand' requested path content c') := by
  unfold Include.parsed
  refine S.bind (h.blocks path content) fun r => ?_
  cases r with
  | error problem => exact h.report requested problem
  | ok v => exact S.bind (h.expand v path) fun w => h.included path w

theorem SamePass.replacement (h : SamePass S load load' convert expand expand' c c')
    (b : CodeBlock) :
    S.Rel (replacement load convert expand b c) (replacement load' convert expand' b c') := by
  unfold Include.replacement
  refine S.bind h.cwd fun cwd => ?_
  rw [h.request_eq]
  cases request cwd b c' with
  | error problem => exact h.report _ problem
  | ok r =>
    refine S.bind (h.load r.path) fun text => ?_
    cases text with
    | error problem => exact h.report _ problem
    | ok content =>
      rw [h.depth_eq]
      refine S.bind (h.debug _) fun _ => ?_
      cases r.mode with
      | code => exact S.pure (codeOf b content)
      | raw => exact S.pure (rawOf b content)
      | parse => exact h.parsed _ r.path content

theorem SamePass.pass (h : SamePass S load load' convert expand expand' c c') (v : Json) :
    S.Rel (pass load convert expand v c) (pass load' convert expand' v c') := by
  refine S.walk (fun node => ?_) v
  split
  · exact h.replacement _
  · exact S.pure node

end Simulation

end DocFilter.Include
