import DocFilter.Proofs.Command.FilterDocument
import DocFilter.Proofs.Config.Problems

/-!
# What a request reports of its configuration

A problem of the configuration ends a request with exit code 3 and one line on the error stream,
and nothing else happens. A slip in finding or loading configuration leaves the request as it is.
-/

namespace DocFilter

namespace Config

theorem isProblem_of_filterNames {config : Json} {failure : Failure}
    (h : filterNames config = .error failure) : IsProblem failure := by
  unfold filterNames at h
  split at h
  · cases h
  · cases h
  · split at h
    · cases h
    · cases h
      exact ⟨_, rfl⟩

theorem isProblem_of_tablesByName {entries : List (Json × Json)} {failure : Failure}
    (h : tablesByName entries = .error failure) : IsProblem failure := by
  induction entries with
  | nil => cases h
  | cons entry entries ih =>
    obtain ⟨key, v⟩ := entry
    rw [tablesByName] at h
    split at h
    · rcases bind_eq_error h with hrest | ⟨tables, -, hpure⟩
      · exact ih hrest
      · cases hpure
    · cases h
      exact ⟨_, rfl⟩

theorem isProblem_of_filterOptions {config : Json} {failure : Failure}
    (h : filterOptions config = .error failure) : IsProblem failure := by
  unfold filterOptions at h
  split at h
  · cases h
  · split at h
    · exact isProblem_of_tablesByName h
    · cases h
      exact ⟨_, rfl⟩

end Config

namespace Command.Request

variable {φ : Type} {make : φ → Fields → Act (Host φ) Filter} {r : Request} {h : Host φ}
variable {w : World} {failure : Failure}

/-- How a request fails to have its configuration found or loaded. -/
def ConfigSlip (r : Request) (w : World) (failure : Failure) : Prop :=
  r.isConfigured = true ∧
    Config.Slip w r.configPath (w.environment.lookup "DOCWEAVE_CONFIG") failure

theorem onlyLooks_config (r : Request) : OnlyLooks r.config := by
  unfold config
  split
  · exact .get_bind (fun _ => Config.onlyLooks_loadFor _ _) fun hsame => by
      rw [hsame.environment_eq]
  · exact .pure _

theorem config_slips :
    w.outcome r.config = .error failure ∧ ¬ Config.IsProblem failure ↔ r.ConfigSlip w failure := by
  unfold config ConfigSlip
  cases r.isConfigured with
  | false => simp
  | true =>
    rw [if_pos rfl, w.outcome_get_bind, Config.loadFor_slips]
    simp

/-- The names of the filters that a request asks for, which a configuration may give. -/
def namesFrom (r : Request) (config : Json) : Except Failure (List String) :=
  if r.filters.isEmpty then Config.filterNames config else .ok r.filters

/-- The names and options that a request and its configuration give. -/
def settings (r : Request) (config : Json) : Except Failure (List String × Fields) := do
  let names ← r.namesFrom config
  return (names, ← Config.filterOptions config)

theorem chain_eq (r : Request) :
    r.chain = r.config >>= fun config => MonadExcept.ofExcept (r.settings config) := by
  unfold chain settings namesFrom
  refine congrArg (r.config >>= ·) (funext fun config => ?_)
  split
  · cases Config.filterNames config with
    | error failure => rfl
    | ok names => cases Config.filterOptions config <;> rfl
  · cases Config.filterOptions config <;> rfl

theorem isProblem_of_settings {config : Json} (h : r.settings config = .error failure) :
    Config.IsProblem failure := by
  unfold settings at h
  rcases bind_eq_error h with hnames | ⟨names, -, hrest⟩
  · unfold namesFrom at hnames
    split at hnames
    · exact Config.isProblem_of_filterNames hnames
    · cases hnames
  · rcases bind_eq_error hrest with hoptions | ⟨options, -, hpure⟩
    · exact Config.isProblem_of_filterOptions hoptions
    · cases hpure

theorem onlyLooks_chain (r : Request) : OnlyLooks r.chain := by
  rw [chain_eq]
  exact (onlyLooks_config r).bind fun _ => .ofExcept _

theorem outcome_chain (w : World) (r : Request) :
    w.outcome r.chain = match w.outcome r.config with
      | .error failure => .error failure
      | .ok config => r.settings config := by
  rw [chain_eq, (onlyLooks_config r).outcome_bind fun _ => .ofExcept _]
  cases w.outcome r.config with
  | error failure => rfl
  | ok config => exact w.outcome_ofExcept _

/-- What a configuration says of filters is used, or is a problem. -/
theorem chain_slips :
    w.outcome r.chain = .error failure ∧ ¬ Config.IsProblem failure ↔ r.ConfigSlip w failure := by
  rw [outcome_chain, ← config_slips]
  cases w.outcome r.config with
  | error failure' => simp
  | ok config =>
    constructor
    · rintro ⟨hfailure, hproblem⟩
      exact absurd (isProblem_of_settings hfailure) hproblem
    · rintro ⟨⟨⟩, -⟩

theorem run_of_unchained (hchain : w.outcome r.chain = .error failure) :
    (merged (liftM r.chain.attempt : Act (Host φ) _)).run (h, w) =
      (.ok (.error failure), (h, (r.chain.run w).2)) := by
  refine run_merged_lift ?_
  rw [run_attempt]
  exact congrArg (fun outcome => (Except.ok outcome, (r.chain.run w).2)) hchain

/-- A problem is reported, with exit code 3, and nothing else is changed. -/
theorem reports_problem {problem : ConfigProblem}
    (hchain : w.outcome r.chain = .error (.configuration problem)) :
    r.exit make h w = .ok 3 ∧ ∃ opened, r.after make h w =
      { w with
        opened := opened
        stderr := w.stderr ++ ("Error: " ++ problem.message ++ "\n") } := by
  have hlooks := (onlyLooks_chain r).leaves w
  have hrun : (merged (r.run make)).run (h, w) = (.ok 3, (h, { (r.chain.run w).2 with
      stderr := (r.chain.run w).2.stderr ++ ("Error: " ++ problem.message ++ "\n") })) := by
    unfold run
    rw [merged_bind, run_bind_of_ok (run_of_unchained hchain)]
    rfl
  refine ⟨by rw [exit, hrun], (r.chain.run w).2.opened, ?_⟩
  rw [after, hrun]
  generalize (r.chain.run w).2 = u at hlooks ⊢
  rw [hlooks]

/-- A slip is not held, and nothing is changed. -/
theorem lets_out_slip (hslip : r.ConfigSlip w failure) :
    r.exit make h w = .error failure ∧ w.SameButOpened (r.after make h w) := by
  obtain ⟨hchain, hproblem⟩ := chain_slips.mpr hslip
  have hrun : (merged (r.run make)).run (h, w) = (.error failure, (h, (r.chain.run w).2)) := by
    unfold run
    rw [merged_bind, run_bind_of_ok (run_of_unchained hchain)]
    cases failure
    case configuration problem => exact absurd ⟨problem, rfl⟩ hproblem
    all_goals rfl
  refine ⟨by rw [exit, hrun], ?_⟩
  rw [after, hrun]
  exact (onlyLooks_chain r).leaves w

/-- Loading a file gives settings or fails with a problem of the configuration, searching gives a
file or none, and a request ends with exit code 3 and one line if its configuration is at fault,
except in the cases of the slips, which are all let out. -/
theorem configuration_reported_except_slips (make : φ → Fields → Act (Host φ) Filter)
    (r : Request) (h : Host φ) (w : World) :
    (∀ p, (∃ config, w.outcome (Config.load p) = .ok config ∧ config.isObject = true) ∨
      (∃ problem, w.outcome (Config.load p) = .error (.configuration problem)) ∨
      ∃ failure, Config.LoadSlip w (Path.tidy p) failure) ∧
    (∀ p failure, Config.LoadSlip w (Path.tidy p) failure ↔
      w.outcome (Config.load p) = .error failure ∧ ¬ Config.IsProblem failure) ∧
    (∀ start failure, Config.FindSlip w (start.getD ".") failure ↔
      w.outcome (Config.find start) = .error failure) ∧
    (∀ failure, Config.DiscoverySlip w failure ↔ w.outcome Config.discover = .error failure) ∧
    (∀ failure, r.ConfigSlip w failure ↔
      w.outcome r.chain = .error failure ∧ ¬ Config.IsProblem failure) ∧
    (∀ problem, w.outcome r.chain = .error (.configuration problem) →
      r.exit make h w = .ok 3 ∧ ∃ opened, r.after make h w =
        { w with
          opened := opened
          stderr := w.stderr ++ ("Error: " ++ problem.message ++ "\n") }) ∧
    ∀ failure, r.ConfigSlip w failure →
      r.exit make h w = .error failure ∧ w.SameButOpened (r.after make h w) :=
  ⟨Config.load_cases w, fun p failure => (Config.load_slips w p failure).symm,
    fun start _ => (Config.find_slips start).symm, fun _ => Config.discover_slips.symm,
    fun _ => chain_slips.symm, fun _ => reports_problem, fun _ => lets_out_slip⟩

def misconfigured : Request := { initial with configPath := some "c.toml" }

theorem configuration_reported_for_missing_file :
    misconfigured.exit makeBuiltin builtinHost (World.initial ⟨[]⟩ "/") = .ok 3 := by
  have hchain : (World.initial ⟨[]⟩ "/").outcome misconfigured.chain =
      .error (.configuration (.missing "c.toml")) := rfl
  obtain ⟨-, -, -, -, -, hreported, -⟩ := configuration_reported_except_slips
    makeBuiltin misconfigured builtinHost (World.initial ⟨[]⟩ "/")
  exact (hreported _ hchain).1

/-- A project file of one byte that is no text makes the search fail, and so every request whose
configuration is not named. -/
theorem undecodable_project_file_ends_request :
    ∃ fault, (World.initial ⟨[(["pyproject.toml"], .file [0xFF])]⟩ "/").outcome (Config.find none) =
      .error (.undecodable fault) ∧
        initial.exit makeBuiltin builtinHost
          (World.initial ⟨[(["pyproject.toml"], .file [0xFF])]⟩ "/") = .error (.undecodable fault) :=
  ⟨_, rfl, rfl⟩

end Command.Request

end DocFilter
