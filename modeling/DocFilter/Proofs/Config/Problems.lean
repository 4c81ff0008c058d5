import DocFilter.Command.FilterDocument
import DocFilter.Proofs.Config.Looking

/-!
# Problems of configuration

What goes wrong with finding and loading configuration is a problem of the configuration, which the
command reports and answers with exit code 3, except for a few slips: a project file in which `tool`
is no table, or that is not text while a file is being looked for, a value that YAML writes but that
cannot be made, a path that is too long to be looked up, and a home directory that is not known.
These are all the failures that get out, and each of them does.
-/

namespace DocFilter

namespace Config

/-! ### The slips -/

/-- Whether a failure is a problem of the configuration, which is reported as one. -/
def IsProblem (failure : Failure) : Prop := ∃ problem, failure = .configuration problem

/-- Whether a failure of reading a file of configuration is still none of the configuration when it
has been recast. -/
def GetsOut (failure : Failure) : Prop := ∀ path, ¬ IsProblem (recast path failure)

/-- How a project file makes the reading of its section fail otherwise than as a problem of
configuration. -/
inductive ProjectSlip (w : World) (path : String) : Failure → Prop where
  | notText {content : List UInt8} {fault : Utf8.Fault} : w.HasFile path content →
      Utf8.decode content = .error fault → ProjectSlip w path (.undecodable fault)
  | toolNotTable {content : List UInt8} {text : String} {fields : Fields} {v : Json} :
      w.HasFile path content → Utf8.decode content = .ok text → Toml.parse text = .ok fields →
        fields.get? "tool" = some v → (∀ tools, v ≠ .obj tools) →
          ProjectSlip w path (.noAttribute s!"'{v.kindName}' object has no attribute 'get'")

/-- How the loading of a file fails otherwise than as a problem of configuration. -/
inductive LoadSlip (w : World) (path : String) : Failure → Prop where
  | refused : w.RefusesToLook path → LoadSlip w path (.os ⟨.nameTooLong, some (quoted path)⟩)
  | project {failure : Failure} : lowerCase (Path.fileName path) = "pyproject.toml" →
      ProjectSlip w path failure → GetsOut failure → LoadSlip w path failure
  | value {content : List UInt8} {failure : Failure} : w.HasFile path content →
      lowerCase (Path.fileName path) ≠ "pyproject.toml" →
        formatOf? (lowerCase (Path.suffix (Path.fileName path))) = some .yaml →
          w.outcome (readYaml path) = .ok (.error (.bad failure)) → GetsOut failure →
            LoadSlip w path failure

/-- The paths at which a file of configuration is looked for in a directory, in order. -/
def candidates (directory : String) : List String :=
  dedicatedNames.map (Path.join directory) ++ [Path.join directory "pyproject.toml"]

/-- How the search of a directory fails. -/
inductive DirectorySlip (w : World) (directory : String) : Failure → Prop where
  | refused {p : String} : FirstIn (candidates directory) (LacksFile w) p → w.RefusesToLook p →
      DirectorySlip w directory (.os ⟨.nameTooLong, some (quoted p)⟩)
  | project {failure : Failure} :
      (∀ p ∈ dedicatedNames.map (Path.join directory), LacksFile w p) →
        ProjectSlip w (Path.join directory "pyproject.toml") failure →
          DirectorySlip w directory failure

/-- How the search of some directories fails: in the first one that has nothing to be found before
it. -/
def SearchSlip (w : World) (directories : List String) (failure : Failure) : Prop :=
  ∃ directory, FirstIn directories (fun d => w.outcome (findIn d) = .ok none) directory ∧
    DirectorySlip w directory failure

/-- How the search from a directory fails: no file can have its path, or the search of it and those
above it fails. -/
inductive FindSlip (w : World) (start : String) : Failure → Prop where
  | null : '\x00' ∈ start.toList → FindSlip w start (.badValue "embedded null byte")
  | search {failure : Failure} : '\x00' ∉ start.toList →
      SearchSlip w (withParents (Path.real w.cwd start)) failure → FindSlip w start failure

/-- How the search from the working directory and in the home directory fails. -/
inductive DiscoverySlip (w : World) : Failure → Prop where
  | search {failure : Failure} : SearchSlip w (withParents (Path.real w.cwd ".")) failure →
      DiscoverySlip w failure
  | homeUnknown {failure : Failure} : w.outcome (find none) = .ok none →
      w.outcome home = .error failure → DiscoverySlip w failure
  | homeRefused {directory p : String} : w.outcome (find none) = .ok none →
      w.outcome home = .ok directory →
        FirstIn (homeCandidates directory) (LacksFile w) p → w.RefusesToLook p →
          DiscoverySlip w (.os ⟨.nameTooLong, some (quoted p)⟩)

/-- How configuration fails to be found or loaded. -/
inductive Slip (w : World) (named fromEnvironment : Option String) : Failure → Prop where
  | named {p : String} {failure : Failure} : namedFile named fromEnvironment = some p →
      LoadSlip w (Path.tidy p) failure → Slip w named fromEnvironment failure
  | discovery {failure : Failure} : namedFile named fromEnvironment = none →
      DiscoverySlip w failure → Slip w named fromEnvironment failure
  | discovered {p : String} {failure : Failure} : namedFile named fromEnvironment = none →
      w.outcome discover = .ok (some p) → LoadSlip w (Path.tidy p) failure →
        Slip w named fromEnvironment failure

/-! ### What gets out of loading a file -/

section Load
variable {w : World} {path p : String} {content : List UInt8} {failure : Failure} {v : Json}

theorem GetsOut.recast_eq (h : GetsOut failure) (path : String) :
    recast path failure = failure := by
  cases failure
  case os fault => exact absurd ⟨_, rfl⟩ (h "")
  case undecodable fault => exact absurd ⟨_, rfl⟩ (h "")
  all_goals rfl

theorem GetsOut.not_isProblem (h : GetsOut failure) : ¬ IsProblem failure := by
  have hnot := h ""
  rwa [h.recast_eq] at hnot

theorem isProblem_recast_or_getsOut (path : String) (failure : Failure) :
    IsProblem (recast path failure) ∨ GetsOut failure := by
  cases failure
  case configuration problem => exact .inl ⟨problem, rfl⟩
  case os fault => exact .inl ⟨_, rfl⟩
  case undecodable fault => exact .inl ⟨_, rfl⟩
  all_goals exact .inr fun _ => nofun

theorem not_getsOut_configuration (problem : ConfigProblem) : ¬ GetsOut (.configuration problem) :=
  fun h => h "" ⟨problem, rfl⟩

theorem not_getsOut_undecodable (fault : Utf8.Fault) : ¬ GetsOut (.undecodable fault) :=
  fun h => h "" ⟨_, rfl⟩

theorem outcome_readExactText (h : w.HasFile path content) :
    w.outcome (readExactText path) = match Utf8.decode content with
      | .ok text => .ok text
      | .error fault => .error (.undecodable fault) := by
  refine (h.outcome_readBytes_bind ?_).trans ?_
  · split
    · exact .pure _
    · exact .throw _
  · cases Utf8.decode content <;> rfl

theorem outcome_loadSection (h : w.HasFile path content) :
    w.outcome (loadSection path) = match Utf8.decode content with
      | .error fault => .error (.undecodable fault)
      | .ok text => match Toml.parse text with
        | .error explanation => .error (.configuration (.projectMalformed path explanation))
        | .ok fields => sectionOf path fields := by
  have hread := w.outcome_attempt (readExactText path)
  rw [outcome_readExactText h] at hread
  unfold loadSection
  cases hdecode : Utf8.decode content with
  | error fault =>
    rw [hdecode] at hread
    rw [OnlyLooks.outcome_bind_of_ok (onlyLooks_readExactText path).attempt (.throw _) hread]
    rfl
  | ok text =>
    rw [hdecode] at hread
    cases hparse : Toml.parse text with
    | error explanation =>
      rw [OnlyLooks.outcome_bind_of_ok (onlyLooks_readExactText path).attempt _ hread]
      · simp [hparse]
      · simp only [hparse]
        exact .throw _
    | ok fields =>
      rw [OnlyLooks.outcome_bind_of_ok (onlyLooks_readExactText path).attempt _ hread]
      · simp [hparse]
      · simp only [hparse]
        exact .ofExcept _

theorem sectionOf_of_not_table {fields : Fields} (htool : fields.get? "tool" = some v)
    (hv : ∀ tools, v ≠ .obj tools) (path : String) : sectionOf path fields =
      .error (.noAttribute s!"'{v.kindName}' object has no attribute 'get'") := by
  unfold sectionOf
  rw [htool, Option.getD_some]
  cases v
  case obj tools => exact absurd rfl (hv tools)
  all_goals rfl

/-- The section of a project file is a table, unless there is a problem or `tool` is no table. -/
theorem sectionOf_cases (path : String) (fields : Fields) :
    (∃ config, sectionOf path fields = .ok (.obj config)) ∨
      (∃ problem, sectionOf path fields = .error (.configuration problem)) ∨
      ∃ v, fields.get? "tool" = some v ∧ ∀ tools, v ≠ .obj tools := by
  unfold sectionOf
  cases htool : fields.get? "tool" with
  | none => exact .inl ⟨[], rfl⟩
  | some v =>
    dsimp only [Option.getD_some]
    split
    · split
      · exact .inl ⟨_, rfl⟩
      · exact .inl ⟨_, rfl⟩
      · exact .inr (.inl ⟨_, rfl⟩)
    · rename_i hv
      exact .inr (.inr ⟨v, rfl, hv⟩)

theorem ProjectSlip.not_isProblem (h : ProjectSlip w path failure) : ¬ IsProblem failure := by
  cases h <;> rintro ⟨_, ⟨⟩⟩

theorem ProjectSlip.outcome_eq (h : ProjectSlip w path failure) :
    w.outcome (loadSection path) = .error failure := by
  cases h with
  | notText h hdecode => simp [outcome_loadSection h, hdecode]
  | toolNotTable h hdecode hparse htool hv =>
    simp only [outcome_loadSection h, hdecode, hparse, sectionOf_of_not_table htool hv]

/-- The section of a project file is a table, or there is a problem, or one of the slips. -/
theorem loadSection_cases (h : w.HasFile path content) :
    (∃ config, w.outcome (loadSection path) = .ok (.obj config)) ∨
      (∃ problem, w.outcome (loadSection path) = .error (.configuration problem)) ∨
      ∃ failure, ProjectSlip w path failure := by
  rw [outcome_loadSection h]
  cases hdecode : Utf8.decode content with
  | error fault => exact .inr (.inr ⟨_, .notText h hdecode⟩)
  | ok text =>
    dsimp only
    cases hparse : Toml.parse text with
    | error explanation => exact .inr (.inl ⟨_, rfl⟩)
    | ok fields =>
      rcases sectionOf_cases path fields with hconfig | hproblem | ⟨v, htool, hv⟩
      · exact .inl hconfig
      · exact .inr (.inl hproblem)
      · exact .inr (.inr ⟨_, .toolNotTable h hdecode hparse htool hv⟩)

/-! ### Loading a mapping -/

/-- A value that was read is a mapping, counts as an empty one, or is a problem. -/
theorem loadMapping_of_value {format : ConfigFormat}
    (h : w.outcome (readValue format path) = .ok v) :
    (∃ config, w.outcome (loadMapping format path) = .ok config ∧ config.isObject = true) ∨
      ∃ problem, w.outcome (loadMapping format path) = .error (.configuration problem) := by
  unfold loadMapping
  rw [OnlyLooks.outcome_bind_of_ok (onlyLooks_readValue format path) _ h]
  · split
    · rename_i hv
      exact .inl ⟨v, rfl, hv⟩
    · split
      · exact .inl ⟨.obj [], rfl, rfl⟩
      · exact .inr ⟨_, rfl⟩
  · split
    · exact .pure _
    · split
      · exact .pure _
      · exact .throw _

theorem loadMapping_of_error {format : ConfigFormat}
    (h : w.outcome (readValue format path) = .error failure) :
    w.outcome (loadMapping format path) = .error failure := by
  unfold loadMapping
  exact World.outcome_bind_of_error h

theorem outcome_readText (h : w.HasFile path content) :
    w.outcome (Run.readText path) = match Utf8.decode content with
      | .ok text => .ok (String.ofList (unifyLineEnds text.toList))
      | .error fault => .error (.undecodable fault) := by
  refine (h.outcome_readBytes_bind ?_).trans ?_
  · split
    · exact .pure _
    · exact .throw _
  · cases Utf8.decode content <;> rfl

theorem outcome_readYaml_cases (h : w.HasFile path content) :
    (∃ r, w.outcome (readYaml path) = .ok r) ∨
      ∃ fault, w.outcome (readYaml path) = .error (.undecodable fault) := by
  unfold readYaml
  cases hdecode : Utf8.decode content with
  | ok text =>
    rw [h.outcome_readBytes_bind]
    · simp [hdecode]
    · simp only [hdecode]
      exact .pure _
  | error fault =>
    rw [h.outcome_readBytes_bind]
    · simp only [hdecode]
      split
      · exact .inr ⟨_, rfl⟩
      · split
        · exact .inl ⟨_, rfl⟩
        · exact .inr ⟨_, rfl⟩
    · simp only [hdecode]
      split
      · exact .throw _
      · split
        · exact .pure _
        · exact .throw _

theorem outcome_readText_cases (h : w.HasFile path content) :
    (∃ text, w.outcome (Run.readText path) = .ok text) ∨
      ∃ fault, w.outcome (Run.readText path) = .error (.undecodable fault) := by
  rw [outcome_readText h]
  cases Utf8.decode content with
  | ok text => exact .inl ⟨_, rfl⟩
  | error fault => exact .inr ⟨fault, rfl⟩

theorem outcome_readExactText_cases (h : w.HasFile path content) :
    (∃ text, w.outcome (readExactText path) = .ok text) ∨
      ∃ fault, w.outcome (readExactText path) = .error (.undecodable fault) := by
  rw [outcome_readExactText h]
  cases Utf8.decode content with
  | ok text => exact .inl ⟨_, rfl⟩
  | error fault => exact .inr ⟨fault, rfl⟩

/-- What a value ends in that is made of a text, if the text says it or is a problem. -/
theorem outcome_bind_cases {read : Run String} {make : String → Run Json} (hlooks : OnlyLooks read)
    (hread : (∃ text, w.outcome read = .ok text) ∨
      ∃ fault, w.outcome read = .error (.undecodable fault))
    (hmake : ∀ text, (∃ v, make text = pure v) ∨
      ∃ problem, make text = throw (.configuration problem)) :
    (∃ v, w.outcome (read >>= make) = .ok v) ∨
      ∃ failure, w.outcome (read >>= make) = .error failure ∧ ¬ GetsOut failure := by
  rcases hread with ⟨text, htext⟩ | ⟨fault, hfault⟩
  · rcases hmake text with ⟨v, hv⟩ | ⟨problem, hproblem⟩
    · have hout : w.outcome (read >>= make) = w.outcome (pure v : Run Json) := by
        rw [OnlyLooks.outcome_bind_of_ok hlooks (hv ▸ .pure v) htext, hv]
      exact .inl ⟨v, hout⟩
    · have hout : w.outcome (read >>= make) =
          w.outcome (throw (.configuration problem) : Run Json) := by
        rw [OnlyLooks.outcome_bind_of_ok hlooks (hproblem ▸ .throw _) htext, hproblem]
      exact .inr ⟨_, hout, not_getsOut_configuration problem⟩
  · exact .inr ⟨_, World.outcome_bind_of_error hfault, not_getsOut_undecodable fault⟩

/-- What reading a value ends in. YAML may write a value that cannot be made; other failures are
problems, or texts that cannot be decoded. -/
theorem readValue_cases (format : ConfigFormat) (h : w.HasFile path content) :
    (∃ v, w.outcome (readValue format path) = .ok v) ∨
      (∃ failure, w.outcome (readValue format path) = .error failure ∧ ¬ GetsOut failure) ∨
      ∃ failure, format = .yaml ∧ w.outcome (readYaml path) = .ok (.error (.bad failure)) ∧
        w.outcome (readValue format path) = .error failure := by
  unfold readValue
  cases format with
  | toml =>
    refine (outcome_bind_cases (onlyLooks_readExactText path) (outcome_readExactText_cases h)
      fun text => ?_).imp_right .inl
    cases Toml.parse text with
    | ok fields => exact .inl ⟨_, rfl⟩
    | error explanation => exact .inr ⟨_, rfl⟩
  | yaml =>
    dsimp only
    rcases outcome_readYaml_cases h with ⟨r, hread⟩ | ⟨fault, hread⟩
    · rw [OnlyLooks.outcome_bind_of_ok (onlyLooks_readYaml path) _ hread]
      · split
        · exact .inl ⟨_, rfl⟩
        · exact .inr (.inl ⟨_, rfl, not_getsOut_configuration _⟩)
        · exact .inr (.inr ⟨_, rfl, hread, rfl⟩)
      · split
        · exact .pure _
        · exact .throw _
        · exact .throw _
    · exact .inr (.inl ⟨_, World.outcome_bind_of_error hread, not_getsOut_undecodable fault⟩)
  | json =>
    refine (outcome_bind_cases (onlyLooks_readText path) (outcome_readText_cases h)
      fun text => ?_).imp_right .inl
    cases Json.parse text with
    | ok v => exact .inl ⟨_, rfl⟩
    | error fault => exact .inr ⟨_, rfl⟩

/-! ### Loading -/

theorem reading_of_project (h : lowerCase (Path.fileName path) = "pyproject.toml") :
    reading path = loadSection path := if_pos h

theorem reading_of_format {format : ConfigFormat}
    (h : lowerCase (Path.fileName path) ≠ "pyproject.toml")
    (hformat : formatOf? (lowerCase (Path.suffix (Path.fileName path))) = some format) :
    reading path = loadMapping format path := by
  rw [reading, if_neg h, hformat]

/-- A file of configuration gives settings, or the reading fails in a way that is recast, or by one
of the slips. -/
theorem reading_cases (h : w.HasFile path content) :
    (∃ config, w.outcome (reading path) = .ok config ∧ config.isObject = true) ∨
      ∃ failure, w.outcome (reading path) = .error failure ∧
        (GetsOut failure → LoadSlip w path failure) := by
  by_cases hproject : lowerCase (Path.fileName path) = "pyproject.toml"
  · rw [reading_of_project hproject]
    rcases loadSection_cases h with ⟨config, hconfig⟩ | ⟨problem, hconfig⟩ | ⟨failure, hslip⟩
    · exact .inl ⟨_, hconfig, rfl⟩
    · exact .inr ⟨_, hconfig, fun hout => absurd hout (not_getsOut_configuration problem)⟩
    · exact .inr ⟨failure, hslip.outcome_eq, .project hproject hslip⟩
  · cases hformat : formatOf? (lowerCase (Path.suffix (Path.fileName path))) with
    | none =>
      rw [reading, if_neg hproject, hformat]
      exact .inr ⟨_, rfl, fun hout => absurd hout (not_getsOut_configuration _)⟩
    | some format =>
      rw [reading_of_format hproject hformat]
      rcases readValue_cases format h with
        ⟨v, hv⟩ | ⟨failure, hfailure, hin⟩ | ⟨failure, rfl, hread, hbad⟩
      · rcases loadMapping_of_value hv with hconfig | ⟨problem, hproblem⟩
        · exact .inl hconfig
        · exact .inr ⟨_, hproblem, fun hout => absurd hout (not_getsOut_configuration problem)⟩
      · exact .inr ⟨failure, loadMapping_of_error hfailure, fun hout => absurd hout hin⟩
      · exact .inr ⟨failure, loadMapping_of_error hbad, .value h hproject hformat hread⟩

theorem outcome_load_of_file (h : w.HasFile (Path.tidy p) content) :
    w.outcome (load p) = match w.outcome (reading (Path.tidy p)) with
      | .ok config => .ok config
      | .error failure => .error (recast (Path.tidy p) failure) := by
  rw [load_eq, OnlyLooks.outcome_bind_of_ok (onlyLooks_entryAt _) (onlyLooks_loaded _ _)
    (World.outcome_entryAt_eq_file.mpr h), loaded,
    OnlyLooks.outcome_bind_of_ok (onlyLooks_reading _).attempt (onlyLooks_settled _ _)
      (w.outcome_attempt _)]
  cases w.outcome (reading (Path.tidy p)) <;> rfl

theorem outcome_load_of_error (h : w.outcome (Run.entryAt? (Path.tidy p)) = .error failure) :
    w.outcome (load p) = .error failure := by
  rw [load_eq, World.outcome_bind_of_error h]

theorem ProjectSlip.exists_content (h : ProjectSlip w path failure) :
    ∃ content, w.HasFile path content := by
  cases h with
  | notText h | toolNotTable h => exact ⟨_, h⟩

theorem outcome_load_of_reading (h : w.HasFile (Path.tidy p) content) (hout : GetsOut failure)
    (hfailure : w.outcome (reading (Path.tidy p)) = .error failure) :
    w.outcome (load p) = .error failure := by
  rw [outcome_load_of_file h, hfailure]
  exact congrArg Except.error (hout.recast_eq _)

/-- Each slip is a failure of loading, and no problem of configuration. -/
theorem LoadSlip.outcome_eq (h : LoadSlip w (Path.tidy p) failure) :
    w.outcome (load p) = .error failure ∧ ¬ IsProblem failure := by
  cases h with
  | refused hrefused =>
    exact ⟨outcome_load_of_error (World.outcome_entryAt_eq_error.mpr ⟨hrefused, rfl⟩), by
      rintro ⟨_, ⟨⟩⟩⟩
  | project hproject hslip hout =>
    obtain ⟨content, hfile⟩ := hslip.exists_content
    refine ⟨outcome_load_of_reading hfile hout ?_, hslip.not_isProblem⟩
    rw [reading_of_project hproject, hslip.outcome_eq]
  | value hfile hproject hformat hread hout =>
    have hvalue : w.outcome (readValue .yaml (Path.tidy p)) = .error failure := by
      unfold readValue
      exact OnlyLooks.outcome_bind_of_ok (onlyLooks_readYaml _) (.throw failure) hread
    refine ⟨outcome_load_of_reading hfile hout ?_, hout.not_isProblem⟩
    rw [reading_of_format hproject hformat]
    exact loadMapping_of_error hvalue

/-- Loading gives settings, or fails with a problem of configuration, or by one of the slips. -/
theorem load_cases (w : World) (p : String) :
    (∃ config, w.outcome (load p) = .ok config ∧ config.isObject = true) ∨
      (∃ problem, w.outcome (load p) = .error (.configuration problem)) ∨
      ∃ failure, LoadSlip w (Path.tidy p) failure := by
  cases hentry : w.outcome (Run.entryAt? (Path.tidy p)) with
  | error failure =>
    exact .inr (.inr ⟨_, .refused (World.outcome_entryAt_eq_error.mp hentry).1⟩)
  | ok e =>
    have hload : w.outcome (load p) = w.outcome (loaded (Path.tidy p) e) := by
      rw [load_eq, OnlyLooks.outcome_bind_of_ok (onlyLooks_entryAt _) (onlyLooks_loaded _ _) hentry]
    cases e with
    | none => exact .inr (.inl ⟨_, hload⟩)
    | some e =>
      cases e with
      | directory => exact .inr (.inl ⟨_, hload⟩)
      | file content =>
        have hfile := World.outcome_entryAt_eq_file.mp hentry
        rcases reading_cases hfile with ⟨config, hconfig, hobject⟩ | ⟨failure, hfailure, hslip⟩
        · refine .inl ⟨config, ?_, hobject⟩
          rw [outcome_load_of_file hfile, hconfig]
        · rcases isProblem_recast_or_getsOut (Path.tidy p) failure with ⟨problem, hproblem⟩ | hout
          · refine .inr (.inl ⟨problem, ?_⟩)
            rw [outcome_load_of_file hfile, hfailure, ← hproblem]
          · exact .inr (.inr ⟨failure, hslip hout⟩)

theorem load_slips (w : World) (p : String) (failure : Failure) :
    w.outcome (load p) = .error failure ∧ ¬ IsProblem failure ↔
      LoadSlip w (Path.tidy p) failure := by
  constructor
  · rintro ⟨hfailure, hproblem⟩
    rcases load_cases w p with ⟨config, hconfig, -⟩ | ⟨problem, hconfig⟩ | ⟨failure', hslip⟩
    · cases hfailure.symm.trans hconfig
    · cases hfailure.symm.trans hconfig
      exact absurd ⟨problem, rfl⟩ hproblem
    · cases hfailure.symm.trans hslip.outcome_eq.1
      exact hslip
  · exact LoadSlip.outcome_eq

end Load

/-! ### What gets out of a search -/

section Search
variable {w : World} {path p directory : String} {directories : List String} {failure : Failure}

theorem outcome_hasSection_of_file {content : List UInt8} (h : w.HasFile path content) :
    w.outcome (hasSection path) = match w.outcome (loadSection path) with
      | .ok config => .ok config.isTruthy
      | .error (.configuration _) => .ok false
      | .error failure => .error failure := by
  have hlook (r : Except Failure Json) : OnlyLooks (match r with
      | .ok config => return config.isTruthy
      | .error (.configuration _) => return false
      | .error failure => throw failure : Run Bool) := by
    split
    · exact .pure _
    · exact .pure _
    · exact .throw _
  have hfile := World.outcome_isFile_eq_true.mpr ⟨content, h⟩
  have hrest := (onlyLooks_loadSection path).attempt.bind hlook
  refine (OnlyLooks.outcome_bind_of_ok (onlyLooks_isFile path) hrest hfile).trans ?_
  refine (OnlyLooks.outcome_bind_of_ok (onlyLooks_loadSection path).attempt (hlook _)
    (w.outcome_attempt _)).trans ?_
  cases w.outcome (loadSection path) with
  | ok config => rfl
  | error failure => cases failure <;> rfl

theorem outcome_hasSection_of_lacks (h : LacksFile w path) :
    w.outcome (hasSection path) = .ok false := by
  unfold hasSection
  rw [OnlyLooks.outcome_bind_of_ok (onlyLooks_isFile path) _ h]
  · rfl
  · exact .pure false

theorem outcome_hasSection_of_slip (h : ProjectSlip w path failure) :
    w.outcome (hasSection path) = .error failure := by
  obtain ⟨content, hcontent⟩ := h.exists_content
  rw [outcome_hasSection_of_file hcontent, h.outcome_eq]
  cases h <;> rfl

theorem hasSection_slips :
    w.outcome (hasSection path) = .error failure ↔
      (w.RefusesToLook path ∧ failure = .os ⟨.nameTooLong, some (quoted path)⟩) ∨
        ProjectSlip w path failure := by
  rw [← World.outcome_isFile_eq_error]
  constructor
  · intro hfailure
    rcases outcome_isFile_cases w path with hlacks | hfile | ⟨failure', hrefused⟩
    · cases (outcome_hasSection_of_lacks hlacks).symm.trans hfailure
    · obtain ⟨content, hcontent⟩ := World.outcome_isFile_eq_true.mp hfile
      rw [outcome_hasSection_of_file hcontent] at hfailure
      rcases loadSection_cases hcontent with ⟨config, hconfig⟩ | ⟨problem, hconfig⟩ | ⟨failure', h⟩
      · rw [hconfig] at hfailure
        cases hfailure
      · rw [hconfig] at hfailure
        cases hfailure
      · rw [← outcome_hasSection_of_file hcontent, outcome_hasSection_of_slip h] at hfailure
        cases hfailure
        exact .inr h
    · cases (World.outcome_bind_of_error hrefused).symm.trans hfailure
      exact .inl hrefused
  · rintro (hrefused | hslip)
    · exact World.outcome_bind_of_error hrefused
    · exact outcome_hasSection_of_slip hslip

theorem firstFile_slips {paths : List String} :
    w.outcome (firstFile paths) = .error failure ↔ ∃ p, FirstIn paths (LacksFile w) p ∧
      w.RefusesToLook p ∧ failure = .os ⟨.nameTooLong, some (quoted p)⟩ := by
  simp only [outcome_firstFile_eq_error, World.outcome_isFile_eq_error]

theorem findIn_slips :
    w.outcome (findIn directory) = .error failure ↔ DirectorySlip w directory failure := by
  have hdedicated : w.outcome (firstFile (dedicatedNames.map (Path.join directory))) = .ok none ↔
      ∀ p ∈ dedicatedNames.map (Path.join directory), LacksFile w p := outcome_firstFile_eq_none
  rw [outcome_findIn]
  constructor
  · intro hfailure
    cases hfirst : w.outcome (firstFile (dedicatedNames.map (Path.join directory))) with
    | error failure' =>
      rw [hfirst] at hfailure
      cases hfailure
      obtain ⟨p, hp, hrefused, rfl⟩ := firstFile_slips.mp hfirst
      exact .refused (firstIn_append_singleton.mpr (.inl hp)) hrefused
    | ok found =>
      rw [hfirst] at hfailure
      cases found with
      | some p => cases hfailure
      | none =>
        have hlacks := hdedicated.mp hfirst
        have hsection : w.outcome (hasSection (Path.join directory "pyproject.toml")) =
            .error failure := by
          cases hproject : w.outcome (hasSection (Path.join directory "pyproject.toml")) with
          | error failure' =>
            rw [hproject] at hfailure
            cases hfailure
            rfl
          | ok found =>
            rw [hproject] at hfailure
            cases hfailure
        rcases hasSection_slips.mp hsection with ⟨hrefused, rfl⟩ | hslip
        · exact .refused (firstIn_append_singleton.mpr (.inr ⟨rfl, hlacks⟩)) hrefused
        · exact .project hlacks hslip
  · rintro (⟨hp, hrefused⟩ | ⟨hlacks, hslip⟩)
    · rcases firstIn_append_singleton.mp hp with hfirst | ⟨rfl, hlacks⟩
      · rw [firstFile_slips.mpr ⟨_, hfirst, hrefused, rfl⟩]
      · rw [hdedicated.mpr hlacks, hasSection_slips.mpr (.inl ⟨hrefused, rfl⟩)]
    · rw [hdedicated.mpr hlacks, hasSection_slips.mpr (.inr hslip)]

theorem findFirst_slips :
    w.outcome (findFirst directories) = .error failure ↔ SearchSlip w directories failure := by
  unfold SearchSlip
  simp only [← findIn_slips]
  induction directories with
  | nil => simp [findFirst, not_firstIn_nil]
  | cons directory directories ih =>
    simp only [outcome_findFirst_cons, firstIn_cons, or_and_right, exists_or, exists_eq_left,
      and_assoc, exists_and_left, ← ih]
    cases w.outcome (findIn directory) with
    | error failure' => simp
    | ok found => cases found <;> simp

theorem find_slips (start : Option String) :
    w.outcome (find start) = .error failure ↔ FindSlip w (start.getD ".") failure := by
  by_cases hnull : '\x00' ∈ (start.getD ".").toList
  · rw [outcome_find_of_null hnull]
    constructor
    · rintro ⟨⟩
      exact .null hnull
    · rintro (_ | ⟨hnot, -⟩)
      · rfl
      · exact absurd hnull hnot
  · rw [outcome_find hnull, findFirst_slips]
    constructor
    · exact .search hnull
    · rintro (hnot | ⟨-, hsearch⟩)
      · exact absurd hnot hnull
      · exact hsearch

/-- The search from the working directory. -/
theorem find_none_slips :
    w.outcome (find none) = .error failure ↔
      SearchSlip w (withParents (Path.real w.cwd ".")) failure := by
  have hnull : '\x00' ∉ ((none : Option String).getD ".").toList := by decide
  rw [outcome_find hnull, findFirst_slips]
  rfl

theorem discover_slips : w.outcome discover = .error failure ↔ DiscoverySlip w failure := by
  rw [outcome_discover]
  constructor
  · intro hfailure
    cases hfind : w.outcome (find none) with
    | error failure' =>
      rw [hfind] at hfailure
      cases hfailure
      exact .search (find_none_slips.mp hfind)
    | ok found =>
      rw [hfind] at hfailure
      cases found with
      | some p => cases hfailure
      | none =>
        cases hhome : w.outcome home with
        | error failure' =>
          rw [hhome] at hfailure
          cases hfailure
          exact .homeUnknown hfind hhome
        | ok directory =>
          rw [hhome] at hfailure
          obtain ⟨p, hp, hrefused, rfl⟩ := firstFile_slips.mp hfailure
          exact .homeRefused hfind hhome hp hrefused
  · rintro (hsearch | ⟨hfind, hhome⟩ | ⟨hfind, hhome, hp, hrefused⟩)
    · rw [find_none_slips.mpr hsearch]
    · rw [hfind, hhome]
    · rw [hfind, hhome]
      exact firstFile_slips.mpr ⟨_, hp, hrefused, rfl⟩

theorem DirectorySlip.not_isProblem (h : DirectorySlip w directory failure) :
    ¬ IsProblem failure := by
  cases h with
  | refused => rintro ⟨_, ⟨⟩⟩
  | project _ hslip => exact hslip.not_isProblem

theorem outcome_home_eq_error (h : w.outcome home = .error failure) :
    failure = .runtime "Could not determine home directory." := by
  unfold home at h
  rw [World.outcome_get_bind] at h
  dsimp only at h
  split at h
  · exact (Except.error.inj h).symm
  · cases h

theorem DiscoverySlip.not_isProblem (h : DiscoverySlip w failure) : ¬ IsProblem failure := by
  cases h with
  | search h =>
    obtain ⟨directory, -, hslip⟩ := h
    exact hslip.not_isProblem
  | homeUnknown _ hhome =>
    cases outcome_home_eq_error hhome
    rintro ⟨_, ⟨⟩⟩
  | homeRefused => rintro ⟨_, ⟨⟩⟩

theorem loadFor_slips {named fromEnvironment : Option String} :
    w.outcome (loadFor named fromEnvironment) = .error failure ∧ ¬ IsProblem failure ↔
      Slip w named fromEnvironment failure := by
  rw [outcome_loadFor]
  constructor
  · rintro ⟨hfailure, hproblem⟩
    cases hnamed : namedFile named fromEnvironment with
    | some p =>
      rw [hnamed] at hfailure
      exact .named hnamed ((load_slips w p failure).mp ⟨hfailure, hproblem⟩)
    | none =>
      rw [hnamed] at hfailure
      cases hdiscover : w.outcome discover with
      | error failure' =>
        rw [hdiscover] at hfailure
        cases hfailure
        exact .discovery hnamed (discover_slips.mp hdiscover)
      | ok found =>
        rw [hdiscover] at hfailure
        cases found with
        | none => cases hfailure
        | some p =>
          exact .discovered hnamed hdiscover ((load_slips w p failure).mp ⟨hfailure, hproblem⟩)
  · rintro (⟨hnamed, hslip⟩ | ⟨hnamed, hslip⟩ | ⟨hnamed, hdiscover, hslip⟩)
    · rw [hnamed]
      exact hslip.outcome_eq
    · rw [hnamed, discover_slips.mpr hslip]
      exact ⟨rfl, hslip.not_isProblem⟩
    · rw [hnamed, hdiscover]
      exact hslip.outcome_eq

end Search

end Config

end DocFilter
