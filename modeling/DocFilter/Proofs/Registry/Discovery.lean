import DocFilter.Proofs.Registry.Names

/-!
# Looking for plugins

A round of discovery depends on the metadata that the plugins load to and on nothing else about
them. The last metadata of a name hold it after a round. So a further round finds every name held by
what held it before; whether it registers anything depends on whether any of the metadata had lost
their name to others.
-/

namespace DocFilter

namespace Registry
variable {φ : Type}

/-- The identity of the metadata that are registered under a name. -/
def identity? (r : Registry φ) (name : String) : Option Nat :=
  (r.filters.lookup name).map (·.identity)

/-- The metadata that are registered when metadata are taken up in order: those that are not
registered under their name by then. -/
def added (r : Registry φ) : List (Metadata φ) → List (Metadata φ)
  | [] => []
  | m :: ms => if r.identity? m.name = some m.identity then added r ms else m :: added (r.insert m) ms

/-- The registry with metadata taken up in order. -/
def takenUp (r : Registry φ) (ms : List (Metadata φ)) : Registry φ := (r.added ms).foldl insert r

/-- Metadata of which no two different ones share a name. -/
def EachItsName (ms : List (Metadata φ)) : Prop :=
  ∀ m ∈ ms, ∀ m' ∈ ms, m.name = m'.name → m.identity = m'.identity

variable {r : Registry φ} {m : Metadata φ} {ms : List (Metadata φ)}

theorem added_cons_of_held (h : r.identity? m.name = some m.identity) :
    r.added (m :: ms) = r.added ms := if_pos h

theorem added_cons_of_not_held (h : r.identity? m.name ≠ some m.identity) :
    r.added (m :: ms) = m :: (r.insert m).added ms := if_neg h

theorem takenUp_cons_of_held (h : r.identity? m.name = some m.identity) :
    r.takenUp (m :: ms) = r.takenUp ms := by
  rw [takenUp, added_cons_of_held h, takenUp]

theorem takenUp_cons_of_not_held (h : r.identity? m.name ≠ some m.identity) :
    r.takenUp (m :: ms) = (r.insert m).takenUp ms := by
  rw [takenUp, added_cons_of_not_held h, List.foldl_cons, takenUp]

theorem identity?_insert (r : Registry φ) (m : Metadata φ) (name : String) :
    (r.insert m).identity? name = if name = m.name then some m.identity else r.identity? name := by
  rw [identity?, insert, Dictionary.lookup_set]
  by_cases h : name = m.name
  · rw [if_pos h, if_pos (beq_iff_eq.mpr h), Option.map_some]
  · rw [if_neg h, if_neg (mt beq_iff_eq.mp h), identity?]

/-- Metadata taken up first hold their name when the others are taken up, registered anew or not. -/
theorem exists_takenUp_cons (r : Registry φ) (m : Metadata φ) (ms : List (Metadata φ)) :
    ∃ r' : Registry φ, r.takenUp (m :: ms) = r'.takenUp ms ∧
      ∀ name, r'.identity? name = if name = m.name then some m.identity else r.identity? name := by
  by_cases hheld : r.identity? m.name = some m.identity
  · refine ⟨r, takenUp_cons_of_held hheld, fun name => ?_⟩
    split
    · next hname => rw [hname, hheld]
    · rfl
  · exact ⟨r.insert m, takenUp_cons_of_not_held hheld, r.identity?_insert m⟩

/-- A name that some metadata bear is held by one of them after they were taken up, whatever was
registered before; any other name is held as before. -/
theorem identity?_takenUp_cases (ms : List (Metadata φ)) (name : String) :
    ((∀ m ∈ ms, m.name ≠ name) ∧ ∀ r : Registry φ, (r.takenUp ms).identity? name = r.identity? name) ∨
      ∃ m ∈ ms, m.name = name ∧
        ∀ r : Registry φ, (r.takenUp ms).identity? name = some m.identity := by
  induction ms with
  | nil => exact .inl ⟨fun _ hm => (nomatch hm), fun _ => rfl⟩
  | cons m ms ih =>
    rcases ih with ⟨hnames, hkeeps⟩ | ⟨last, hlast, hname, hholds⟩
    · -- none of the others bear the name, so the first decide about it
      by_cases hm : m.name = name
      · refine .inr ⟨m, List.mem_cons_self, hm, fun r => ?_⟩
        obtain ⟨r', htaken, hidentity⟩ := r.exists_takenUp_cons m ms
        rw [htaken, hkeeps, hidentity, if_pos hm.symm]
      · refine .inl ⟨List.forall_mem_cons.mpr ⟨hm, hnames⟩, fun r => ?_⟩
        obtain ⟨r', htaken, hidentity⟩ := r.exists_takenUp_cons m ms
        rw [htaken, hkeeps, hidentity, if_neg (Ne.symm hm)]
    · refine .inr ⟨last, List.mem_cons_of_mem m hlast, hname, fun r => ?_⟩
      obtain ⟨r', htaken, -⟩ := r.exists_takenUp_cons m ms
      rw [htaken, hholds]

/-- Taking up the same metadata again leaves every name to what held it. -/
theorem identity?_takenUp_takenUp (r : Registry φ) (ms : List (Metadata φ)) (name : String) :
    ((r.takenUp ms).takenUp ms).identity? name = (r.takenUp ms).identity? name := by
  rcases identity?_takenUp_cases ms name with ⟨-, hkeeps⟩ | ⟨last, -, -, hholds⟩
  · exact hkeeps _
  · rw [hholds, hholds]

theorem keys_takenUp (h : ∀ m ∈ ms, m.name ∈ Dictionary.keys r.filters) :
    Dictionary.keys (r.takenUp ms).filters = Dictionary.keys r.filters := by
  induction ms generalizing r with
  | nil => rfl
  | cons m ms ih =>
    obtain ⟨hm, hms⟩ := List.forall_mem_cons.mp h
    by_cases hheld : r.identity? m.name = some m.identity
    · rw [takenUp_cons_of_held hheld, ih hms]
    · have hkeys : Dictionary.keys (r.insert m).filters = Dictionary.keys r.filters :=
        Dictionary.keys_set_of_mem hm m
      rw [takenUp_cons_of_not_held hheld, ih (hkeys ▸ hms), hkeys]

theorem mem_keys_takenUp (r : Registry φ) (hm : m ∈ ms) :
    m.name ∈ Dictionary.keys (r.takenUp ms).filters := by
  rcases identity?_takenUp_cases ms m.name with ⟨hnames, -⟩ | ⟨last, -, -, hholds⟩
  · exact absurd rfl (hnames m hm)
  · obtain ⟨held, hheld, -⟩ := Option.map_eq_some_iff.mp (hholds r)
    exact Dictionary.mem_keys_iff.mpr ⟨held, hheld⟩

theorem names_takenUp_takenUp (r : Registry φ) (ms : List (Metadata φ)) :
    ((r.takenUp ms).takenUp ms).names none = (r.takenUp ms).names none :=
  congrArg sorted (keys_takenUp fun _ hm => r.mem_keys_takenUp hm)

theorem added_eq_nil_iff : r.added ms = [] ↔ ∀ m ∈ ms, r.identity? m.name = some m.identity := by
  induction ms with
  | nil => exact ⟨fun _ _ hm => (nomatch hm), fun _ => rfl⟩
  | cons m ms ih =>
    rw [List.forall_mem_cons, ← ih]
    by_cases hheld : r.identity? m.name = some m.identity
    · rw [added_cons_of_held hheld]
      exact (and_iff_right hheld).symm
    · rw [added_cons_of_not_held hheld]
      exact ⟨fun h => (nomatch h), fun h => absurd h.1 hheld⟩

/-- Nothing is registered again exactly if no metadata lost their name to others. -/
theorem added_takenUp_eq_nil_iff (r : Registry φ) (ms : List (Metadata φ)) :
    (r.takenUp ms).added ms = [] ↔ EachItsName ms := by
  rw [added_eq_nil_iff]
  constructor
  · intro h m hm m' hm' hname
    have hheld := h m hm
    rw [hname, h m' hm'] at hheld
    exact (Option.some.inj hheld).symm
  · intro h m hm
    rcases identity?_takenUp_cases ms m.name with ⟨hnames, -⟩ | ⟨last, hlast, hname, hholds⟩
    · exact absurd rfl (hnames m hm)
    · rw [hholds, h last hlast m hm hname]

end Registry

namespace Host
variable {φ : Type} (h : Host φ)

theorem takeUp_metadata_turns (name : String) (m : Metadata φ) :
    Turns (takeUp name (.metadata m)) h (!decide (h.registry.identity? m.name = some m.identity))
      (h.registry.takenUp [m]) := by
  refine .bind (.getState h) ?_
  change Turns (if h.registry.identity? m.name = some m.identity then pure false else _) h _ _
  by_cases hheld : h.registry.identity? m.name = some m.identity
  · rw [if_pos hheld, decide_eq_true hheld, Registry.takenUp_cons_of_held hheld]
    exact .pure false h
  · rw [if_neg hheld, decide_eq_false hheld, Registry.takenUp_cons_of_not_held hheld]
    exact .bind (register_turns h m) (.bind (.record _ _) (.pure true _))

theorem takeUp_turns_of_not_metadata (name : String) {loaded : Loaded φ}
    (hloaded : loaded.metadata? = none) : Turns (takeUp name loaded) h false h.registry := by
  cases loaded with
  | metadata m => cases hloaded
  | other | broken _ => exact .bind (.record _ h) (.pure false h)

/-- Plugins that load to something else or fail to load take no part in what is registered. -/
theorem takeUpAll_turns_takenUp (plugins : List (String × Loaded φ)) :
    let ms := plugins.filterMap (·.2.metadata?)
    Turns (takeUpAll plugins) h (h.registry.added ms).length (h.registry.takenUp ms) := by
  induction plugins generalizing h with
  | nil => exact .pure 0 h
  | cons plugin rest ih =>
    obtain ⟨name, loaded⟩ := plugin
    intro ms
    cases hloaded : loaded.metadata? with
    | none =>
      have hms : ms = rest.filterMap (·.2.metadata?) := List.filterMap_cons_none hloaded
      rw [hms]
      exact .bind (h.takeUp_turns_of_not_metadata name hloaded) (.bind (ih h) (.pure _ _))
    | some m =>
      have hms : ms = m :: rest.filterMap (·.2.metadata?) := List.filterMap_cons_some hloaded
      obtain rfl : loaded = .metadata m := by
        cases loaded <;> cases hloaded
        rfl
      rw [hms]
      have hfirst := h.takeUp_metadata_turns name m
      by_cases hheld : h.registry.identity? m.name = some m.identity
      · rw [Registry.takenUp_cons_of_held hheld, decide_eq_true hheld] at hfirst
        rw [Registry.takenUp_cons_of_held hheld, Registry.added_cons_of_held hheld]
        exact .bind hfirst (.bind (ih _) (.pure _ _))
      · rw [Registry.takenUp_cons_of_not_held hheld, decide_eq_false hheld] at hfirst
        rw [Registry.takenUp_cons_of_not_held hheld, Registry.added_cons_of_not_held hheld]
        exact .bind hfirst (.bind (ih _) (.pure _ _))

def discovered : Host φ := { h with registry := h.registry.takenUp (Plugins.metadata h.plugins) }

/-- What a round of discovery comes to. -/
theorem discover_turns_takenUp :
    Turns discover h (h.registry.added (Plugins.metadata h.plugins)).length
      (h.registry.takenUp (Plugins.metadata h.plugins)) := by
  obtain ⟨builtins, plugins, r⟩ := h
  cases plugins with
  | error failure => exact .bind (.getState _) (.bind (.record _ _) (.pure 0 _))
  | ok plugins =>
    exact .bind (.getState _)
      (.bind (takeUpAll_turns_takenUp ⟨builtins, .ok plugins, r⟩ plugins)
        (.bind (.record _ _) (.pure _ _)))

theorem metadata_turns_of_initialized {name : String} {m : Metadata φ}
    (hready : h.registry.initialized = true) (hfind : h.registry.find? name = some m) :
    Turns (metadata name) h m h.registry := by
  have hreadied : h.readied = h.registry := if_pos hready
  rw [← hreadied] at hfind
  have hturns := metadata_turns h hfind
  rwa [hreadied] at hturns

end Host

/-- Whatever plugins there are and whatever is registered, a round of discovery does not fail. It
registers, in order, the metadata that plugins load to and that are not registered under their name
by then, and gives their number; the names of the plugins, and those that load to something else or
to nothing, make no difference. A further round with the same plugins leaves all names listed and
each held by the same metadata, and it registers something exactly if different metadata that
plugins load to share a name. If they do not, it gives zero and changes nothing at all. -/
theorem discovery_repeats_only_shared_names {φ : Type} (h : Host φ) :
    let loaded := Plugins.metadata h.plugins
    let found := (h.registry.added loaded).foldl Registry.insert h.registry
    let again := (found.added loaded).foldl Registry.insert found
    h.Turns Host.discover (h.registry.added loaded).length found ∧
      (∀ named : List (String × Metadata φ), named.map (·.2) = loaded →
        { h with plugins := .ok (named.map (Prod.map id .metadata)) }.Turns
          Host.discover (h.registry.added loaded).length found) ∧
      { h with registry := found }.Turns Host.discover (found.added loaded).length again ∧
      (∀ name, again.identity? name = found.identity? name) ∧
      again.names none = found.names none ∧
      (found.added loaded = [] ↔ Registry.EachItsName loaded) ∧
      (Registry.EachItsName loaded → { h with registry := found }.Turns Host.discover 0 found) := by
  intro loaded found again
  have hagain : { h with registry := found }.Turns Host.discover (found.added loaded).length again :=
    Host.discover_turns_takenUp { h with registry := found }
  refine ⟨h.discover_turns_takenUp, fun named hnamed => ?_, hagain,
    h.registry.identity?_takenUp_takenUp loaded, h.registry.names_takenUp_takenUp loaded,
    h.registry.added_takenUp_eq_nil_iff loaded, fun heach => ?_⟩
  · have hloaded : Plugins.metadata (.ok (named.map (Prod.map id .metadata))) = loaded := by
      rw [← hnamed, Plugins.metadata, List.filterMap_map]
      exact congrFun List.filterMap_eq_map named
    have hturns := Host.discover_turns_takenUp
      { h with plugins := .ok (named.map (Prod.map id .metadata)) }
    rwa [hloaded] at hturns
  · have hnone : found.added loaded = [] := (h.registry.added_takenUp_eq_nil_iff loaded).mpr heach
    have hsame : again = found := by
      rw [show again = (found.added loaded).foldl Registry.insert found from rfl, hnone]
      rfl
    rwa [hnone, hsame] at hagain

/-- Metadata that a plugin may load to. -/
def pluginMetadata (identity : Nat) (name : String) (aliases : List String) : Metadata Builtin :=
  { addedFilter aliases with identity := identity, name := name }

/-- The built-in filters, and three plugins: the first two share a name, and the third takes an alias
over from the first. -/
def contendedHost : Host Builtin where
  builtins := builtinHost.builtins
  plugins := .ok [("first", .metadata (pluginMetadata 10 "a" ["s"])),
    ("second", .metadata (pluginMetadata 11 "a" [])),
    ("third", .metadata (pluginMetadata 12 "b" ["s"]))]
  registry := builtinHost.readied

/-- A further round registers both plugins of one name again, and the alias goes back to their name,
although the metadata that hold the name do not claim it. -/
theorem shared_plugin_name_takes_alias_back :
    let found := contendedHost.discovered
    let again := found.discovered
    contendedHost.Turns Host.discover 3 found.registry ∧
      (∃ m, m.identity = 12 ∧ found.Turns (Host.metadata "s") m found.registry) ∧
      found.Turns Host.discover 2 again.registry ∧
      ∃ m, m.identity = 11 ∧ m.aliases = [] ∧
        again.Turns (Host.metadata "s") m again.registry := by
  intro found again
  have hcount : (contendedHost.registry.added (Plugins.metadata contendedHost.plugins)).length = 3 :=
    by decide +kernel
  have hcount' : (found.registry.added (Plugins.metadata found.plugins)).length = 2 := by
    decide +kernel
  have hround := contendedHost.discover_turns_takenUp
  have hround' := found.discover_turns_takenUp
  rw [hcount] at hround
  rw [hcount'] at hround'
  have hready : found.registry.initialized = true := by decide +kernel
  have hready' : again.registry.initialized = true := by decide +kernel
  have hfind : (found.registry.find? "s").map (·.identity) = some 12 := by decide +kernel
  have hfind' : (again.registry.find? "s").map (fun m => (m.identity, m.aliases)) = some (11, []) :=
    by decide +kernel
  obtain ⟨m, hm, hidentity⟩ := Option.map_eq_some_iff.mp hfind
  obtain ⟨m', hm', hparts⟩ := Option.map_eq_some_iff.mp hfind'
  obtain ⟨hidentity', haliases⟩ := Prod.mk.inj hparts
  exact ⟨hround, ⟨m, hidentity, found.metadata_turns_of_initialized hready hm⟩, hround',
    m', hidentity', haliases, again.metadata_turns_of_initialized hready' hm'⟩

end DocFilter
