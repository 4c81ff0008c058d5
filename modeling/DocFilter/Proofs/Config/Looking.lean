import DocFilter.Config.Load
import DocFilter.Proofs.Observing

/-!
# Looking for configuration

Finding and loading configuration only looks at the files. What a search comes to is decided by the
first thing that it does not pass.
-/

namespace DocFilter

namespace Config

theorem onlyLooks_readExactText (path : String) : OnlyLooks (readExactText path) := by
  refine (onlyLooks_readBytes path).bind fun bytes => ?_
  split
  · exact .pure _
  · exact .throw _

theorem onlyLooks_loadSection (path : String) : OnlyLooks (loadSection path) := by
  refine (onlyLooks_readExactText path).attempt.bind fun r => ?_
  split
  · exact .throw _
  · exact .throw _
  · split
    · exact .throw _
    · exact .ofExcept _

theorem onlyLooks_readYaml (path : String) : OnlyLooks (readYaml path) := by
  refine (onlyLooks_readBytes path).bind fun bytes => ?_
  split
  · exact .pure _
  · split
    · exact .throw _
    · split
      · exact .pure _
      · exact .throw _

theorem onlyLooks_readValue (format : ConfigFormat) (path : String) :
    OnlyLooks (readValue format path) := by
  cases format with
  | toml =>
    refine (onlyLooks_readExactText path).bind fun text => ?_
    split
    · exact .pure _
    · exact .throw _
  | yaml =>
    refine (onlyLooks_readYaml path).bind fun r => ?_
    split
    · exact .pure _
    · exact .throw _
    · exact .throw _
  | json =>
    refine (onlyLooks_readText path).bind fun text => ?_
    split
    · exact .pure _
    · exact .throw _

theorem onlyLooks_loadMapping (format : ConfigFormat) (path : String) :
    OnlyLooks (loadMapping format path) := by
  refine (onlyLooks_readValue format path).bind fun v => ?_
  split
  · exact .pure _
  · split
    · exact .pure _
    · exact .throw _

/-- Reading a file of configuration by what its name shows. -/
def reading (path : String) : Run Json :=
  if lowerCase (Path.fileName path) = "pyproject.toml" then loadSection path
  else match formatOf? (lowerCase (Path.suffix (Path.fileName path))) with
    | some format => loadMapping format path
    | none =>
      throw (.configuration (.unknownFormat (lowerCase (Path.suffix (Path.fileName path)))))

/-- What becomes of a failure of reading a file of configuration. -/
def recast (path : String) : Failure → Failure
  | .os fault => .configuration (.unreadable path fault.message)
  | .undecodable fault => .configuration (.unreadable path fault.message)
  | failure => failure

theorem onlyLooks_reading (path : String) : OnlyLooks (reading path) := by
  unfold reading
  split
  · exact onlyLooks_loadSection path
  · split
    · exact onlyLooks_loadMapping _ path
    · exact .throw _

/-- What becomes of the outcome of reading a file of configuration. -/
def settled (path : String) : Except Failure Json → Run Json
  | .ok config => return config
  | .error failure => throw (recast path failure)

/-- The settings of what stands at a path. -/
def loaded (path : String) : Option Entry → Run Json
  | none => throw (.configuration (.missing path))
  | some .directory => throw (.configuration (.notFile path))
  | some (.file _) => (reading path).attempt >>= settled path

theorem load_eq (p : String) : load p = Run.entryAt? (Path.tidy p) >>= loaded (Path.tidy p) := by
  unfold load
  generalize Path.tidy p = path
  refine congrArg (Run.entryAt? path >>= ·) (funext fun e => ?_)
  cases e with
  | none => rfl
  | some e =>
    cases e with
    | directory => rfl
    | file content =>
      dsimp only [loaded, reading]
      generalize formatOf? (lowerCase (Path.suffix (Path.fileName path))) = format
      refine congrArg (Bind.bind _) (funext fun r => ?_)
      cases r with
      | ok config => rfl
      | error failure => cases failure <;> rfl

theorem onlyLooks_settled (path : String) (r : Except Failure Json) :
    OnlyLooks (settled path r) := by
  cases r with
  | ok config => exact .pure config
  | error failure => exact .throw _

theorem onlyLooks_loaded (path : String) (e : Option Entry) : OnlyLooks (loaded path e) := by
  unfold loaded
  split
  · exact .throw _
  · exact .throw _
  · exact (onlyLooks_reading path).attempt.bind (onlyLooks_settled path)

theorem onlyLooks_load (p : String) : OnlyLooks (load p) := by
  rw [load_eq]
  exact (onlyLooks_entryAt _).bind fun e => onlyLooks_loaded _ e

theorem onlyLooks_firstFile (paths : List String) : OnlyLooks (firstFile paths) := by
  induction paths with
  | nil => exact .pure none
  | cons p paths ih =>
    refine (onlyLooks_isFile p).bind fun isFile => ?_
    split
    · exact .pure _
    · exact ih

theorem onlyLooks_hasSection (path : String) : OnlyLooks (hasSection path) := by
  refine (onlyLooks_isFile path).bind fun isFile => ?_
  split
  · exact .pure _
  · refine (onlyLooks_loadSection path).attempt.bind fun r => ?_
    split
    · exact .pure _
    · exact .pure _
    · exact .throw _

/-- A search stops at what one of its parts finds, and goes on otherwise. -/
theorem onlyLooks_found {next : Run (Option String)} (h : OnlyLooks next) (found : Option String) :
    OnlyLooks (match found with
      | some p => return some p
      | none => next) := by
  cases found with
  | some p => exact .pure _
  | none => exact h

theorem onlyLooks_findIn (directory : String) : OnlyLooks (findIn directory) := by
  refine (onlyLooks_firstFile _).bind (onlyLooks_found ?_)
  refine (onlyLooks_hasSection _).bind fun found => ?_
  split <;> exact .pure _

theorem onlyLooks_findFirst (directories : List String) : OnlyLooks (findFirst directories) := by
  induction directories with
  | nil => exact .pure none
  | cons directory directories ih => exact (onlyLooks_findIn directory).bind (onlyLooks_found ih)

theorem onlyLooks_checkPath (p : String) : OnlyLooks (Run.checkPath p) := by
  unfold Run.checkPath
  split
  · exact .throw _
  · exact .pure ()

theorem onlyLooks_findFrom (start : String) : OnlyLooks (do
    findFirst (withParents (Path.real (← get).cwd start))) :=
  .get_bind (fun _ => onlyLooks_findFirst _) fun hsame => by rw [hsame.cwd_eq]

theorem onlyLooks_find (start : Option String) : OnlyLooks (find start) :=
  (onlyLooks_checkPath _).bind fun _ => onlyLooks_findFrom _

theorem onlyLooks_home : OnlyLooks home := by
  refine .get_bind (fun w => ?_) fun hsame => by rw [hsame.environment_eq, hsame.account_eq]
  dsimp only
  split
  · exact .throw _
  · exact .pure _

theorem onlyLooks_discover : OnlyLooks discover := by
  refine (onlyLooks_find none).bind (onlyLooks_found ?_)
  exact onlyLooks_home.bind fun directory => onlyLooks_firstFile _

theorem onlyLooks_loadFor (named fromEnvironment : Option String) :
    OnlyLooks (loadFor named fromEnvironment) := by
  unfold loadFor
  split
  · exact onlyLooks_load _
  · refine onlyLooks_discover.bind fun found => ?_
    split
    · exact onlyLooks_load _
    · exact .pure _

/-! ### The first of some things -/

/-- Whether asking some items in turn comes to one of them, all before it having been passed. -/
def FirstIn {α : Type} (items : List α) (passed : α → Prop) (item : α) : Prop :=
  ∃ before after, items = before ++ item :: after ∧ ∀ a ∈ before, passed a

section FirstIn
variable {α : Type} {passed : α → Prop} {a item : α} {items : List α}

theorem not_firstIn_nil : ¬ FirstIn [] passed item := by
  rintro ⟨before, after, h, -⟩
  simp at h

theorem firstIn_cons :
    FirstIn (a :: items) passed item ↔ item = a ∨ passed a ∧ FirstIn items passed item := by
  constructor
  · rintro ⟨before, after, h, hpassed⟩
    cases before with
    | nil =>
      cases h
      exact .inl rfl
    | cons b before =>
      cases h
      exact .inr ⟨hpassed a List.mem_cons_self, before, after, rfl,
        fun b hb => hpassed b (List.mem_cons_of_mem a hb)⟩
  · rintro (rfl | ⟨ha, before, after, rfl, hpassed⟩)
    · exact ⟨[], items, rfl, by simp⟩
    · refine ⟨a :: before, after, rfl, fun b hb => ?_⟩
      rcases List.mem_cons.mp hb with rfl | hb
      · exact ha
      · exact hpassed b hb

theorem firstIn_append_singleton :
    FirstIn (items ++ [a]) passed item ↔
      FirstIn items passed item ∨ item = a ∧ ∀ b ∈ items, passed b := by
  induction items with
  | nil => simp [firstIn_cons, not_firstIn_nil]
  | cons b items ih =>
    rw [List.cons_append, firstIn_cons, ih, firstIn_cons, List.forall_mem_cons]
    grind

end FirstIn

/-! ### Looking for files -/

/-- Whether a path was looked at and no file stands there. -/
def LacksFile (w : World) (p : String) : Prop := w.outcome (Run.isFile p) = .ok false

section Search
variable {w : World} {p directory : String} {paths directories : List String} {failure : Failure}

theorem outcome_isFile_cases (w : World) (p : String) :
    LacksFile w p ∨ w.outcome (Run.isFile p) = .ok true ∨
      ∃ failure, w.outcome (Run.isFile p) = .error failure := by
  unfold LacksFile
  cases w.outcome (Run.isFile p) with
  | error failure => exact .inr (.inr ⟨failure, rfl⟩)
  | ok found => cases found <;> simp

theorem outcome_firstFile_cons (w : World) (p : String) (paths : List String) :
    w.outcome (firstFile (p :: paths)) = match w.outcome (Run.isFile p) with
      | .error failure => .error failure
      | .ok true => .ok (some p)
      | .ok false => w.outcome (firstFile paths) := by
  have hrest (found : Bool) : OnlyLooks (if found then return some p else firstFile paths) := by
    split
    · exact .pure _
    · exact onlyLooks_firstFile paths
  cases h : w.outcome (Run.isFile p) with
  | error failure => exact World.outcome_bind_of_error h
  | ok found =>
    refine (OnlyLooks.outcome_bind_of_ok (onlyLooks_isFile p) (hrest found) h).trans ?_
    cases found <;> rfl

theorem outcome_firstFile_eq_none :
    w.outcome (firstFile paths) = .ok none ↔ ∀ p ∈ paths, LacksFile w p := by
  induction paths with
  | nil => simp [firstFile]
  | cons p paths ih =>
    rw [outcome_firstFile_cons, List.forall_mem_cons, ← ih, LacksFile]
    cases w.outcome (Run.isFile p) with
    | error failure => simp
    | ok found => cases found <;> simp

theorem outcome_firstFile_eq_error :
    w.outcome (firstFile paths) = .error failure ↔
      ∃ p, FirstIn paths (LacksFile w) p ∧ w.outcome (Run.isFile p) = .error failure := by
  induction paths with
  | nil => simp [firstFile, not_firstIn_nil]
  | cons p paths ih =>
    simp only [outcome_firstFile_cons, firstIn_cons, or_and_right, exists_or, exists_eq_left,
      and_assoc, exists_and_left, ← ih, LacksFile]
    cases w.outcome (Run.isFile p) with
    | error failure' => simp
    | ok found => cases found <;> simp

theorem outcome_firstFile_eq_some :
    w.outcome (firstFile paths) = .ok (some p) ↔
      FirstIn paths (LacksFile w) p ∧ w.outcome (Run.isFile p) = .ok true := by
  induction paths with
  | nil => simp [firstFile, not_firstIn_nil]
  | cons q paths ih =>
    rw [outcome_firstFile_cons, firstIn_cons, or_and_right, and_assoc, ← ih, LacksFile]
    cases hq : w.outcome (Run.isFile q) with
    | error failure =>
      simp only [reduceCtorEq, false_and, or_false, false_iff, not_and]
      rintro rfl
      simp [hq]
    | ok found =>
      cases found with
      | false =>
        simp only [true_and, iff_or_self]
        rintro ⟨rfl, htrue⟩
        cases hq.symm.trans htrue
      | true =>
        simp only [Except.ok.injEq, Option.some.injEq, reduceCtorEq, false_and, or_false]
        constructor
        · rintro rfl
          exact ⟨rfl, hq⟩
        · exact fun h => h.1.symm

/-! ### Looking in directories -/

theorem outcome_findIn (w : World) (directory : String) :
    w.outcome (findIn directory) =
      match w.outcome (firstFile (dedicatedNames.map (Path.join directory))) with
      | .error failure => .error failure
      | .ok (some p) => .ok (some p)
      | .ok none => match w.outcome (hasSection (Path.join directory "pyproject.toml")) with
        | .error failure => .error failure
        | .ok found =>
          .ok (if found then some (Path.join directory "pyproject.toml") else none) := by
  have hproject (found : Bool) : OnlyLooks (pure
      (if found then some (Path.join directory "pyproject.toml") else none)) := .pure _
  have hrest := onlyLooks_found
    ((onlyLooks_hasSection (Path.join directory "pyproject.toml")).bind hproject)
  refine ((onlyLooks_firstFile _).outcome_bind hrest w).trans ?_
  cases w.outcome (firstFile (dedicatedNames.map (Path.join directory))) with
  | error failure => rfl
  | ok found =>
    cases found with
    | some p => rfl
    | none =>
      dsimp only
      rw [(onlyLooks_hasSection _).outcome_bind hproject]
      cases w.outcome (hasSection (Path.join directory "pyproject.toml")) <;> rfl

theorem outcome_findFirst_cons (w : World) (directory : String) (directories : List String) :
    w.outcome (findFirst (directory :: directories)) = match w.outcome (findIn directory) with
      | .error failure => .error failure
      | .ok (some p) => .ok (some p)
      | .ok none => w.outcome (findFirst directories) := by
  have hrest := onlyLooks_found (onlyLooks_findFirst directories)
  refine ((onlyLooks_findIn directory).outcome_bind hrest w).trans ?_
  cases w.outcome (findIn directory) with
  | error failure => rfl
  | ok found => cases found <;> rfl

/-- A search does not start at a path that no file can have. -/
theorem outcome_find_of_null {start : Option String} (hnull : '\x00' ∈ (start.getD ".").toList)
    (w : World) : w.outcome (find start) = .error (.badValue "embedded null byte") := by
  refine World.outcome_bind_of_error ?_
  rw [Run.checkPath, if_pos (List.contains_iff_mem.mpr hnull)]
  rfl

theorem outcome_find {start : Option String} (hnull : '\x00' ∉ (start.getD ".").toList)
    (w : World) : w.outcome (find start) =
      w.outcome (findFirst (withParents (Path.real w.cwd (start.getD ".")))) := by
  unfold find
  dsimp only
  rw [(onlyLooks_checkPath _).outcome_bind fun _ => onlyLooks_findFrom _, Run.checkPath,
    if_neg (by simpa using hnull)]
  exact w.outcome_get_bind _

/-- The paths at which a file of configuration is looked for in the home directory, in order. -/
def homeCandidates (directory : String) : List String :=
  dedicatedNames.map fun name => Path.tidy (Path.join directory name)

theorem outcome_discover (w : World) :
    w.outcome discover = match w.outcome (find none) with
      | .error failure => .error failure
      | .ok (some p) => .ok (some p)
      | .ok none => match w.outcome home with
        | .error failure => .error failure
        | .ok directory => w.outcome (firstFile (homeCandidates directory)) := by
  have hrest := onlyLooks_found (onlyLooks_home.bind fun directory =>
    onlyLooks_firstFile (homeCandidates directory))
  refine ((onlyLooks_find none).outcome_bind hrest w).trans ?_
  cases w.outcome (find none) with
  | error failure => rfl
  | ok found =>
    cases found with
    | some p => rfl
    | none =>
      dsimp only
      rw [onlyLooks_home.outcome_bind fun _ => onlyLooks_firstFile _]
      cases w.outcome home <;> rfl

/-- The file of configuration that is named, or else the one that the environment names. -/
def namedFile (named fromEnvironment : Option String) : Option String :=
  (named.filter (· ≠ "")).or (fromEnvironment.filter (· ≠ ""))

theorem outcome_loadFor (w : World) (named fromEnvironment : Option String) :
    w.outcome (loadFor named fromEnvironment) = match namedFile named fromEnvironment with
      | some p => w.outcome (load p)
      | none => match w.outcome discover with
        | .error failure => .error failure
        | .ok (some p) => w.outcome (load p)
        | .ok none => .ok (.obj []) := by
  have hrest (found : Option String) : OnlyLooks (match found with
      | some p => load p
      | none => return .obj [] : Run Json) := by
    split
    · exact onlyLooks_load _
    · exact .pure _
  unfold loadFor
  change w.outcome (match namedFile named fromEnvironment with
    | some p => load p
    | none => do
      match ← discover with
      | some p => load p
      | none => return .obj []) = _
  cases namedFile named fromEnvironment with
  | some p => rfl
  | none =>
    refine (onlyLooks_discover.outcome_bind hrest w).trans ?_
    cases w.outcome discover with
    | error failure => rfl
    | ok found => cases found <;> rfl

end Search

end Config

end DocFilter
