import DocFilter.Proofs.Command.Configuration
import DocFilter.Proofs.Config.Merge
import DocFilter.Proofs.Dictionary

/-!
# The options that reach the filters

An option for including files that a request gives itself wins over the configured one of that name.
Every other option of every filter is what the configuration says.
-/

namespace DocFilter

open Json

namespace Config

variable {options : Fields} {config : Json}

theorem merge_obj (base fields : Fields) :
    merge (.obj base) (.obj fields) = .obj (mergeFields base fields) := by
  have hlay : layEntries base.entries fields.entries = (mergeFields base fields).entries := by
    induction fields generalizing base with
    | nil => rfl
    | cons field fields ih =>
      rw [Fields.entries_cons, layEntries_cons, Table.get?_entries, Table.set_entries, ih]
      rfl
  rw [merge_of_entries? (entries?_obj base) (entries?_obj fields), hlay,
    Table.ofEntries_of_fields? (Table.fields?_entries _)]

theorem get?_of_tablesByName {entries : List (Json × Json)}
    (h : tablesByName entries = .ok options) (name : String) :
    options.get? name = Table.get? entries (.str name) := by
  induction entries generalizing options with
  | nil =>
    cases h
    rfl
  | cons e entries ih =>
    obtain ⟨k, v⟩ := e
    rw [tablesByName] at h
    split at h
    · obtain ⟨tables, htables, hpure⟩ := bind_eq_ok h
      cases hpure
      rw [Table.get?_cons, ← ih htables]
      cases k
      case str s =>
        by_cases hname : name = s
        · simp [text?, isSameKey_str, hname, Fields.get?, Dictionary.lookup_cons]
        · simp [text?, isSameKey_str, hname, Ne.symm hname, Fields.get?, Dictionary.lookup_cons]
      all_goals simp [text?, isSameKey_str]
    · cases h

/-- The options of a filter are what stands under its name. -/
theorem at?_of_filterOptions (h : filterOptions config = .ok options) (name : String)
    (path : List Json) :
    (Json.obj options).at? (.str name :: path) =
      config.at? (.str "filter" :: .str name :: path) := by
  simp only [at?, child?_str]
  unfold filterOptions at h
  split at h
  · next hnone =>
    cases h
    rw [hnone]
    rfl
  · next v hsome =>
    split at h
    · next entries hentries =>
      rw [hsome, Option.bind_some, ← child?_str v, child?_of_entries? hentries,
        ← get?_of_tablesByName h]
      rfl
    · cases h

end Config

namespace Command.Request

variable {r : Request} {options : Fields} {key : String} {x : Json} {path : List Json}

/-- The options for including files that a request sets itself, with their values. -/
inductive Sets (r : Request) : String → Json → Prop
  | maxDepth {n : Int} : r.maxDepth = some n → Sets r "max_depth" (.int n)
  | baseDir {s : String} : r.baseDir = some s → s ≠ "" → Sets r "base_dir" (.str s)
  | source {s : String} : r.source = some s → s ≠ "" → Sets r "source" (.str s)
  | pandoc {s : String} : r.pandoc = some s → s ≠ "" → Sets r "pandoc" (.str s)

/-- Whether a request sets an option that a path leads to, ends above or goes on beyond. -/
def Concerns (r : Request) (path : List Json) : Prop :=
  ∃ key x, r.Sets key x ∧
    ([.str "include", .str key] <+: path ∨ path <+: [.str "include", .str key])

theorem Sets.isObject (h : r.Sets key x) : x.isObject = false := by
  cases h <;> rfl

theorem mem_textOption {name : String} {v : Option String} :
    (key, x) ∈ textOption name v ↔ key = name ∧ ∃ s, v = some s ∧ s ≠ "" ∧ x = .str s := by
  unfold textOption
  split
  · simp
  · simp
  · simp_all

theorem mem_includeOptions : (key, x) ∈ r.includeOptions ↔ r.Sets key x := by
  simp only [includeOptions, List.mem_append, mem_textOption, Option.mem_toList,
    Option.map_eq_some_iff, Prod.mk.injEq]
  constructor
  · rintro (((⟨n, hn, rfl, rfl⟩ | ⟨rfl, s, hs, hne, rfl⟩) | ⟨rfl, s, hs, hne, rfl⟩) |
      ⟨rfl, s, hs, hne, rfl⟩)
    · exact .maxDepth hn
    · exact .baseDir hs hne
    · exact .source hs hne
    · exact .pandoc hs hne
  · rintro (hn | ⟨hs, hne⟩ | ⟨hs, hne⟩ | ⟨hs, hne⟩) <;> simp_all

theorem keys_textOption (name : String) (v : Option String) :
    (Dictionary.keys (textOption name v)).Sublist [name] := by
  unfold textOption
  split <;> simp

theorem nodup_keys_includeOptions (r : Request) : (Dictionary.keys r.includeOptions).Nodup := by
  have hdepth : (Dictionary.keys (r.maxDepth.map fun n => ("max_depth", Json.int n)).toList).Sublist
      ["max_depth"] := by
    cases r.maxDepth <;> simp
  have hall : (Dictionary.keys r.includeOptions).Sublist
      ["max_depth", "base_dir", "source", "pandoc"] := by
    unfold includeOptions
    rw [Dictionary.keys_append, Dictionary.keys_append, Dictionary.keys_append]
    exact ((hdepth.append (keys_textOption _ _)).append (keys_textOption _ _)).append
      (keys_textOption _ _)
  exact .sublist hall (by decide)

theorem child?_includeOptions (h : r.Sets key x) :
    (Json.obj r.includeOptions).child? (.str key) = some x := by
  have hmem := List.mem_map_of_mem (f := fun p => (Json.str p.1, p.2)) (mem_includeOptions.mpr h)
  exact Table.get?_of_mem (Table.isDictionary_entries r.nodup_keys_includeOptions) hmem

theorem obj_withIncludeOptions (h : r.includeOptions ≠ []) (options : Fields) :
    .obj (r.withIncludeOptions options) =
      Config.mergeOver (some (.obj options)) (.obj [("include", .obj r.includeOptions)]) := by
  rw [withIncludeOptions, if_neg (by simpa using h), ← Config.merge_obj]
  rfl

theorem child?_withIncludeOptions_include (h : r.includeOptions ≠ []) (options : Fields) :
    (Json.obj (r.withIncludeOptions options)).child? (.str "include") =
      some (Config.mergeOver ((Json.obj options).child? (.str "include"))
        (.obj r.includeOptions)) := by
  rw [obj_withIncludeOptions h, Config.child?_mergeOver (by simp)]
  rfl

theorem child?_withIncludeOptions_of_ne (options : Fields) {key : Json} (h : key ≠ .str "include") :
    (Json.obj (r.withIncludeOptions options)).child? key = (Json.obj options).child? key := by
  by_cases hown : r.includeOptions = []
  · rw [withIncludeOptions, if_pos (by simpa using hown)]
  · rw [obj_withIncludeOptions hown, Config.child?_mergeOver (by simp),
      child?_obj_eq_none (by simpa using h)]
    rfl

/-- An option that a request sets wins over the configured one. -/
theorem at?_of_sets (h : r.Sets key x) (options : Fields) :
    (Json.obj (r.withIncludeOptions options)).at? [.str "include", .str key] = some x := by
  have hown : r.includeOptions ≠ [] := List.ne_nil_of_mem (mem_includeOptions.mpr h)
  rw [at?, child?_withIncludeOptions_include hown, Option.bind_some, at?,
    Config.child?_mergeOver r.nodup_keys_includeOptions, child?_includeOptions h, Option.map_some,
    Config.mergeOver_of_leaf _ h.isObject]
  rfl

/-- Every other option is what it was. -/
theorem at?_of_not_concerns (h : ¬ r.Concerns path) (options : Fields) :
    (Json.obj (r.withIncludeOptions options)).at? path = (Json.obj options).at? path := by
  by_cases hown : r.includeOptions = []
  · rw [withIncludeOptions, if_pos (by simpa using hown)]
  obtain ⟨⟨name, x⟩, hmem⟩ := List.exists_mem_of_ne_nil _ hown
  have hset := mem_includeOptions.mp hmem
  match path with
  | [] => exact absurd ⟨name, x, hset, .inr List.nil_prefix⟩ h
  | first :: path =>
    by_cases hfirst : first = .str "include"
    · subst hfirst
      match path with
      | [] => exact absurd ⟨name, x, hset, .inr (by simp)⟩ h
      | key :: path =>
        have hnone : (Json.obj r.includeOptions).child? key = none :=
          child?_obj_eq_none fun option hoption hkey =>
            h ⟨_, _, mem_includeOptions.mp hoption, .inl (by simp [hkey])⟩
        rw [at?, at?, child?_withIncludeOptions_include hown, Option.bind_some, at?,
          Config.child?_mergeOver r.nodup_keys_includeOptions, hnone, Option.map_none,
          Option.none_or, Option.bind_assoc]
        rfl
    · rw [at?, at?, child?_withIncludeOptions_of_ne options hfirst]

section Merged

variable {φ : Type}

/-- Of settings laid over others, the paths to what is no table are those of the settings on top,
and those of the others that the settings on top do not speak of; merging with itself or a second
time changes nothing. So a request makes its filters with the options that it sets itself, and with
what its configuration says on every other path. -/
theorem settings_override_leaf_by_leaf (make : φ → Fields → Act (Host φ) Filter) :
    (∀ a b : Json, a.IsWellKeyed → b.IsWellKeyed →
      (Config.merge a b).IsWellKeyed ∧
      (∀ path x, (Config.merge a b).LeadsTo path x ↔
        b.LeadsTo path x ∨ (a.LeadsTo path x ∧ ¬ Config.SpeaksOf b path)) ∧
      Config.merge a a = a ∧ Config.merge (Config.merge a b) b = Config.merge a b) ∧
    ∀ (r : Request) (h : Host φ) (w v : World) (names : List String) (options : Fields),
      r.chain.run w = (.ok (names, options), v) → names ≠ [] →
      ∃ config, w.outcome r.config = .ok config ∧
        (merged (r.run make)).run (h, w) =
          (merged (do
            conclude (← (r.process make names (r.withIncludeOptions options)).attempt))).run
              (h, r.announced names v) ∧
        (∀ key x, r.Sets key x →
          (Json.obj (r.withIncludeOptions options)).at? [.str "include", .str key] = some x) ∧
        ∀ name path, ¬ r.Concerns (.str name :: path) →
          (Json.obj (r.withIncludeOptions options)).at? (.str name :: path) =
            config.at? (.str "filter" :: .str name :: path) := by
  refine ⟨fun a b ha hb => ⟨Config.isWellKeyed_merge ha hb, Config.leadsTo_merge a hb,
    Config.merge_self ha, Config.merge_merge a hb⟩, fun r h w v names options hchain hnames => ?_⟩
  have houtcome : w.outcome r.chain = .ok (names, options) := congrArg Prod.fst hchain
  rw [outcome_chain] at houtcome
  cases hconfig : w.outcome r.config with
  | error failure => simp [hconfig] at houtcome
  | ok config =>
    rw [hconfig] at houtcome
    obtain ⟨names', -, hsettings⟩ := bind_eq_ok houtcome
    obtain ⟨options', hoptions, hpure⟩ := bind_eq_ok hsettings
    cases hpure
    refine ⟨config, rfl, run_of_chain hchain hnames, fun key x hset => at?_of_sets hset options,
      fun name path hfree => ?_⟩
    rw [at?_of_not_concerns hfree, Config.at?_of_filterOptions hoptions]

end Merged

def includeSettings (options : Fields) : Json := .obj [("include", .obj options)]

theorem isWellKeyed_includeSettings {options : Fields} (h : (Dictionary.keys options).Nodup)
    (hleaves : ∀ option ∈ options, option.2.isObject = false) :
    (includeSettings options).IsWellKeyed := by
  refine .obj (by simp) fun field hfield => ?_
  obtain rfl := List.mem_singleton.mp hfield
  exact .obj h fun option hoption => .leaf (hleaves option hoption)

theorem child?_includeSettings (options : Fields) :
    (includeSettings options).child? (.str "include") = some (.obj options) := by
  rw [child?_str]
  rfl

theorem leadsTo_includeSettings {options : Fields} {name : String}
    (h : options.get? name = some x) (hleaf : x.isObject = false) :
    (includeSettings options).LeadsTo [.str "include", .str name] x := by
  refine leadsTo_cons.mpr ⟨_, child?_includeSettings options, leadsTo_cons.mpr ⟨x, ?_, rfl, hleaf⟩⟩
  rwa [child?_str]

theorem not_speaksOf_includeSettings {options : Fields} {name : String}
    (h : options.get? name = none) :
    ¬ Config.SpeaksOf (includeSettings options) [.str "include", .str name] := by
  rw [Config.speaksOf_cons rfl, child?_includeSettings]
  rintro ⟨v, hv, hspeaks⟩
  cases hv
  obtain ⟨v, hv, -⟩ := (Config.speaksOf_cons rfl).mp hspeaks
  rw [child?_str] at hv
  cases h.symm.trans hv

def deepened : Request := { initial with configPath := some "c.toml", maxDepth := some 2 }

theorem not_concerns_deepened : ¬ deepened.Concerns [.str "include", .str "base_dir"] := by
  rintro ⟨key, x, hset, hprefix⟩
  cases hset with
  | maxDepth => simp at hprefix
  | baseDir h => cases h
  | source h => cases h
  | pandoc h => cases h

/-- A world in which the file of configuration gives a depth and a base directory. -/
def configuredWorld : World :=
  .initial ⟨[(["c.toml"], .file (Utf8.encode
    "filters = ['include']\n[filter.include]\nmax_depth = 5\nbase_dir = 'docs'\n"))]⟩ "/"

theorem depth_of_request_wins :
    (includeSettings [("max_depth", .int 5), ("base_dir", .str "docs")]).IsWellKeyed ∧
      (includeSettings [("max_depth", .int 2)]).IsWellKeyed ∧
      (Config.merge (includeSettings [("max_depth", .int 5), ("base_dir", .str "docs")])
        (includeSettings [("max_depth", .int 2)])).LeadsTo
          [.str "include", .str "base_dir"] (.str "docs") ∧
      ∃ options v, deepened.chain.run configuredWorld = (.ok (["include"], options), v) ∧
        (Json.obj (deepened.withIncludeOptions options)).at? [.str "include", .str "max_depth"] =
          some (.int 2) ∧
        (Json.obj (deepened.withIncludeOptions options)).at? [.str "include", .str "base_dir"] =
          some (.str "docs") := by
  have hbase : (includeSettings [("max_depth", .int 5), ("base_dir", .str "docs")]).IsWellKeyed :=
    isWellKeyed_includeSettings (by decide) (by simp [isObject])
  have htop : (includeSettings [("max_depth", .int 2)]).IsWellKeyed :=
    isWellKeyed_includeSettings (by decide) (by simp [isObject])
  have hnames : (configuredWorld.outcome deepened.chain).toOption.map (·.1) = some ["include"] := by
    decide +kernel
  have hdirectory : ((configuredWorld.outcome deepened.config).toOption.bind fun config =>
      (config.at? [.str "filter", .str "include", .str "base_dir"]).bind text?) = some "docs" := by
    decide +kernel
  obtain ⟨⟨names, options⟩, houtcome, rfl⟩ := Option.map_eq_some_iff.mp hnames
  have hchain := World.run_eq_of_outcome (eq_ok_of_toOption houtcome)
  obtain ⟨hmerge, hrun⟩ := settings_override_leaf_by_leaf makeBuiltin
  obtain ⟨-, hleads, -, -⟩ := hmerge _ _ hbase htop
  obtain ⟨config, hconfig, -, hset, hfree⟩ :=
    hrun deepened builtinHost _ _ _ _ hchain (List.cons_ne_nil _ _)
  have hconfigured : config.at? [.str "filter", .str "include", .str "base_dir"] =
      some (.str "docs") := by
    rw [hconfig, Except.toOption, Option.bind_some] at hdirectory
    obtain ⟨v, hv, htext⟩ := Option.bind_eq_some_iff.mp hdirectory
    cases v <;> cases htext
    exact hv
  have hbelow : (includeSettings [("max_depth", .int 5), ("base_dir", .str "docs")]).LeadsTo
      [.str "include", .str "base_dir"] (.str "docs") := leadsTo_includeSettings rfl rfl
  have hspoken : ¬ Config.SpeaksOf (includeSettings [("max_depth", .int 2)])
      [.str "include", .str "base_dir"] := not_speaksOf_includeSettings rfl
  exact ⟨hbase, htop, (hleads _ _).mpr (.inr ⟨hbelow, hspoken⟩), options, _, hchain,
    hset _ _ (.maxDepth rfl), (hfree _ _ not_concerns_deepened).trans hconfigured⟩

end Command.Request

end DocFilter
