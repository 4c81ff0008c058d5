import DocFilter.Command.Listing
import DocFilter.Proofs.Dictionary
import DocFilter.Proofs.Registry.Host
import DocFilter.Registry.Builtin

/-!
# Names and aliases

What is known of a registry after any sequence of operations. Every filter stands under its own
name, and every alias was given by metadata that have been met. An alias is looked up before a name,
and it stays when the filter that gave it is overwritten; so a filter is found under its own name if
no other filter ever had that name as an alias.
-/

namespace DocFilter

def Loaded.metadata? {φ : Type} : Loaded φ → Option (Metadata φ)
  | .metadata m => some m
  | .other | .broken _ => none

def Plugins.metadata {φ : Type} : Plugins φ → List (Metadata φ)
  | .error _ => []
  | .ok plugins => plugins.filterMap (·.2.metadata?)

namespace Registry
variable {φ : Type} {seen : Metadata φ → Prop} {r : Registry φ}

/-- What holds of a registry in which only certain metadata have been seen. -/
structure Sound (seen : Metadata φ → Prop) (r : Registry φ) : Prop where
  nodup : (Dictionary.keys r.filters).Nodup
  named : ∀ name m, r.filters.lookup name = some m → m.name = name ∧ seen m
  aliased : ∀ name other, r.aliases.lookup name = some other →
    ∃ m, seen m ∧ name ∈ m.aliases ∧ m.name = other

namespace Sound

theorem empty (seen : Metadata φ → Prop) : Sound seen Registry.empty where
  nodup := List.nodup_nil
  named _ _ h := by cases h
  aliased _ _ h := by cases h

theorem insert (h : Sound seen r) {m : Metadata φ} (hm : seen m) : Sound seen (r.insert m) where
  nodup := Dictionary.nodup_keys_set h.nodup m.name m
  named := by
    intro name m' hlookup
    rw [Registry.insert, Dictionary.lookup_set] at hlookup
    split at hlookup
    · next hname =>
      cases hlookup
      exact ⟨(eq_of_beq hname).symm, hm⟩
    · exact h.named name m' hlookup
  aliased := by
    intro name other hlookup
    rcases Dictionary.lookup_foldl_set hlookup with ⟨hmem, rfl⟩ | hold
    · exact ⟨m, hm, hmem, rfl⟩
    · exact h.aliased name other hold

theorem without (h : Sound seen r) (name : String) : Sound seen (r.without name) := by
  unfold Registry.without remove?
  dsimp only
  cases r.filters.lookup (r.canonical name) with
  | none => exact h
  | some m =>
    rw [Option.map_some, Option.getD_some]
    refine ⟨Dictionary.nodup_keys_erase h.nodup _, ?_, ?_⟩
    · intro name' m' hlookup
      rw [Dictionary.lookup_erase] at hlookup
      split at hlookup
      · cases hlookup
      · exact h.named name' m' hlookup
    · intro name' other hlookup
      exact h.aliased name' other (Dictionary.lookup_foldl_erase hlookup)

theorem initialized (h : Sound seen r) : Sound seen { r with initialized := true } :=
  ⟨h.nodup, h.named, h.aliased⟩

end Sound

/-- Whatever a name is looked up as, the filter that is found stands under its own name. -/
theorem Sound.lookup_of_mem (h : Sound seen r) {name : String} (hname : name ∈ r.names none) :
    ∃ m, r.filters.lookup name = some m ∧ m.name = name ∧ seen m := by
  have hkey : name ∈ Dictionary.keys r.filters :=
    (List.mergeSort_perm (Dictionary.keys r.filters) _).mem_iff.mp hname
  obtain ⟨m, hm⟩ := Dictionary.mem_keys_iff.mp hkey
  exact ⟨m, hm, h.named name m hm⟩

theorem Sound.nodup_names (h : Sound seen r) : (r.names none).Nodup :=
  (List.mergeSort_perm (Dictionary.keys r.filters) _).nodup_iff.mpr h.nodup

/-- A name that stands for another is an alias of a filter that has been met. -/
theorem Sound.canonical_cases (h : Sound seen r) (name : String) :
    r.canonical name = name ∨ ∃ m, seen m ∧ name ∈ m.aliases ∧ r.canonical name = m.name := by
  unfold canonical
  cases hlookup : r.aliases.lookup name with
  | none => exact .inl rfl
  | some other =>
    obtain ⟨m, hm, hmem, rfl⟩ := h.aliased name other hlookup
    exact .inr ⟨m, hm, hmem, rfl⟩

/-- A property of registries that registering and removing filters keep. -/
structure Kept (seen : Metadata φ → Prop) (kept : Registry φ → Prop) : Prop where
  insert : ∀ r m, seen m → kept r → kept (r.insert m)
  without : ∀ r name, kept r → kept (r.without name)
  initialized : ∀ r, kept r → kept { r with initialized := true }

theorem kept_sound (seen : Metadata φ → Prop) : Kept seen (Sound seen) where
  insert _ _ hm h := h.insert hm
  without _ name h := h.without name
  initialized _ h := h.initialized

namespace Kept
variable {kept : Registry φ → Prop} (hkept : Kept seen kept)
include hkept

theorem withFree {ms : List (Metadata φ)} (hms : ∀ m ∈ ms, seen m) (hr : kept r) :
    kept (r.withFree ms) := by
  unfold Registry.withFree
  induction ms generalizing r with
  | nil => exact hr
  | cons m ms ih =>
    rw [List.foldl_cons]
    refine ih (fun m' hm' => hms m' (List.mem_cons_of_mem m hm')) ?_
    split
    · exact hr
    · exact hkept.insert r m (hms m List.mem_cons_self) hr

theorem withPlugin {loaded : Loaded φ} (hloaded : ∀ m, loaded = .metadata m → seen m)
    (hr : kept r) : kept (r.withPlugin loaded) := by
  unfold Registry.withPlugin
  cases loaded with
  | metadata m =>
    dsimp only
    split
    · exact hr
    · exact hkept.insert r m (hloaded m rfl) hr
  | other | broken _ => exact hr

theorem withPlugins {plugins : Plugins φ} (hplugins : ∀ m ∈ plugins.metadata, seen m)
    (hr : kept r) : kept (r.withPlugins plugins) := by
  unfold Registry.withPlugins
  cases plugins with
  | error failure => exact hr
  | ok plugins =>
    dsimp only
    induction plugins generalizing r with
    | nil => exact hr
    | cons plugin plugins ih =>
      rw [List.foldl_cons]
      refine ih (hkept.withPlugin (fun m hm => hplugins m ?_) hr) fun m hm => hplugins m ?_
      · exact List.mem_filterMap.mpr ⟨plugin, List.mem_cons_self, by rw [hm]; rfl⟩
      · obtain ⟨p, hp, hpm⟩ := List.mem_filterMap.mp hm
        exact List.mem_filterMap.mpr ⟨p, List.mem_cons_of_mem plugin hp, hpm⟩

end Kept

end Registry

/-! ### Sequences of operations -/

inductive Registry.Operation (φ : Type) where
  | register (m : Metadata φ)
  | unregister (name : String)
  | discover
  | resolve (name : String)
  | has (name : String)
  | metadata (name : String)
  | list (tags : Option (List String))

def Registry.Operation.given? {φ : Type} : Registry.Operation φ → Option (Metadata φ)
  | .register m => some m
  | _ => none

namespace Host
variable {φ : Type}

def perform : Registry.Operation φ → Act (Host φ) Unit
  | .register m => register m
  | .unregister name => do let _ ← unregister name
  | .discover => do let _ ← discover
  | .resolve name => do let _ ← resolve name
  | .has name => do let _ ← has name
  | .metadata name => do let _ ← (metadata name).attempt
  | .list tags => do let _ ← list tags

def performAll : List (Registry.Operation φ) → Act (Host φ) Unit
  | [] => pure ()
  | op :: ops => do
    perform op
    performAll ops

/-- The metadata that can be met in a sequence of operations. -/
def met (h : Host φ) (ops : List (Registry.Operation φ)) : List (Metadata φ) :=
  h.builtins ++ Plugins.metadata h.plugins ++ ops.filterMap (·.given?)

/-- What looking up metadata comes to. -/
theorem run_metadata (h : Host φ) (name : String) (w : World) :
    ∃ u, (merged (metadata name)).run (h, w) =
        ((h.readied.find? name).elim
          (.error (.unknownFilter name (h.readied.names none))) .ok,
          ({ h with registry := h.readied }, u)) ∧ w.OnlyLogged u := by
  obtain ⟨u, hrun, hlogs⟩ := h.ready_turns w
  refine ⟨u, ?_, hlogs⟩
  unfold metadata
  rw [merged_bind, run_bind_of_ok hrun]
  cases h.readied.find? name <;> rfl

theorem attempt_metadata_turns (h : Host φ) (name : String) :
    h.Turns (metadata name).attempt
      ((h.readied.find? name).elim (.error (.unknownFilter name (h.readied.names none))) .ok)
      h.readied := by
  intro w
  obtain ⟨u, hrun, hlogs⟩ := h.run_metadata name w
  exact ⟨u, by rw [run_merged_attempt, hrun], hlogs⟩

def after (h : Host φ) : Registry.Operation φ → Registry φ
  | .register m => h.registry.insert m
  | .unregister name => h.registry.without name
  | .discover => h.registry.withPlugins h.plugins
  | _ => h.readied

def afterAll (h : Host φ) : List (Registry.Operation φ) → Host φ
  | [] => h
  | op :: ops => afterAll { h with registry := h.after op } ops

theorem perform_turns_after (h : Host φ) (op : Registry.Operation φ) :
    h.Turns (perform op) () (h.after op) := by
  cases op with
  | register m => exact h.register_turns m
  | unregister name => exact .bind (h.unregister_turns name) (.pure () _)
  | discover =>
    obtain ⟨count, hdiscover⟩ := h.discover_turns
    exact .bind hdiscover (.pure () _)
  | resolve name => exact .bind (h.resolve_turns name) (.pure () _)
  | has name => exact .bind (h.has_turns name) (.pure () _)
  | metadata name => exact .bind (h.attempt_metadata_turns name) (.pure () _)
  | list tags => exact .bind (h.list_turns tags) (.pure () _)

theorem performAll_turns_after (h : Host φ) (ops : List (Registry.Operation φ)) :
    h.Turns (performAll ops) () (h.afterAll ops).registry := by
  induction ops generalizing h with
  | nil => exact .pure () h
  | cons op ops ih => exact .bind (h.perform_turns_after op) (ih _)

theorem afterAll_eq (h : Host φ) (ops : List (Registry.Operation φ)) :
    { h with registry := (h.afterAll ops).registry } = h.afterAll ops := by
  induction ops generalizing h with
  | nil => rfl
  | cons op ops ih => exact ih { h with registry := h.after op }

/-- What a sequence of operations comes to. -/
theorem run_performAll (h : Host φ) (ops : List (Registry.Operation φ)) (w : World) :
    ∃ u, (merged (performAll ops)).run (h, w) = (.ok (), (h.afterAll ops, u)) ∧
      w.OnlyLogged u := by
  obtain ⟨u, hrun, hlogs⟩ := h.performAll_turns_after ops w
  rw [h.afterAll_eq] at hrun
  exact ⟨u, hrun, hlogs⟩

end Host

section Kept
variable {h : Host φ} {seen : Metadata φ → Prop} {kept : Registry φ → Prop}
variable {ops : List (Registry.Operation φ)} (hkept : Registry.Kept seen kept)
variable (hbuiltins : ∀ m ∈ h.builtins, seen m)
variable (hplugins : ∀ m ∈ Plugins.metadata h.plugins, seen m)
include hkept hbuiltins hplugins

theorem Registry.Kept.readied (hr : kept h.registry) : kept h.readied := by
  unfold Host.readied
  split
  · exact hr
  · exact hkept.withPlugins hplugins (hkept.withFree hbuiltins (hkept.initialized _ hr))

/-- What registering and removing filters keep, every operation keeps. -/
theorem Registry.Kept.after (op : Registry.Operation φ) (hop : ∀ m, op = .register m → seen m)
    (hr : kept h.registry) : kept (h.after op) := by
  cases op with
  | register m => exact hkept.insert _ m (hop m rfl) hr
  | unregister name => exact hkept.without _ name hr
  | discover => exact hkept.withPlugins hplugins hr
  | resolve _ | has _ | metadata _ | list _ => exact hkept.readied hbuiltins hplugins hr

theorem Registry.Kept.afterAll (hops : ∀ m, .register m ∈ ops → seen m) (hr : kept h.registry) :
    kept (h.afterAll ops).registry := by
  induction ops generalizing h with
  | nil => exact hr
  | cons op ops ih =>
    have hstep := hkept.after hbuiltins hplugins op (fun m hm => hops m (hm ▸ List.mem_cons_self)) hr
    refine ih (h := { h with registry := h.after op }) hbuiltins hplugins ?_ hstep
    exact fun m hm => hops m (List.mem_cons_of_mem op hm)

end Kept

namespace Host

theorem sound_readied {h : Host φ} {seen : Metadata φ → Prop} (hr : h.registry.Sound seen)
    (hbuiltins : ∀ m ∈ h.builtins, seen m) (hplugins : ∀ m ∈ Plugins.metadata h.plugins, seen m) :
    h.readied.Sound seen :=
  (Registry.kept_sound seen).readied hbuiltins hplugins hr

/-- Any sequence of operations keeps the registry sound. -/
theorem performAll_turns {h : Host φ} {seen : Metadata φ → Prop} (hr : h.registry.Sound seen)
    (hbuiltins : ∀ m ∈ h.builtins, seen m) (hplugins : ∀ m ∈ Plugins.metadata h.plugins, seen m)
    {ops : List (Registry.Operation φ)} (hops : ∀ m, .register m ∈ ops → seen m) :
    ∃ r, h.Turns (performAll ops) () r ∧ r.Sound seen :=
  ⟨_, h.performAll_turns_after ops,
    (Registry.kept_sound seen).afterAll hbuiltins hplugins hops hr⟩

end Host

/-! ### Listings -/

namespace Command.Listing
variable {φ : Type}

theorem lookUp_turns {h : Host φ} (hready : h.readied = h.registry) {names : List String}
    (hfound : ∀ name ∈ names, ∃ m, h.readied.find? name = some m ∧ m.name = name) :
    ∃ ms, h.Turns (lookUp names) ms h.readied ∧ ms.map (·.name) = names := by
  induction names with
  | nil =>
    refine ⟨[], ?_, rfl⟩
    rw [hready]
    exact .pure [] h
  | cons name names ih =>
    obtain ⟨m, hm, rfl⟩ := hfound name List.mem_cons_self
    obtain ⟨ms, hms, hnames⟩ := ih fun name' hname' => hfound name' (List.mem_cons_of_mem _ hname')
    have hself : { h with registry := h.readied } = h := by rw [hready]
    refine ⟨m :: ms, .bind (h.metadata_turns hm) ?_, by rw [List.map_cons, hnames]⟩
    rw [hself]
    refine .bind hms ?_
    rw [hself, hready]
    exact .pure _ h

/-- If every name in a registry is found, then all filters are shown, and nothing else is written
but log records. -/
theorem run_summary {h : Host φ}
    (hfound : ∀ name ∈ h.readied.names none, ∃ m, h.readied.find? name = some m ∧ m.name = name)
    (isDrawn : Bool) :
    ∃ ms : List (Metadata φ), ms.map (·.name) = h.readied.names none ∧ ∀ w, ∃ u, w.OnlyLogged u ∧
      (merged (run ⟨none, isDrawn⟩)).run (h, w) = (.ok 0, ({ h with registry := h.readied },
        u.printing (text (if isDrawn then drawnSummary ms else summaryLines ms)))) := by
  let ready : Host φ := { h with registry := h.readied }
  have hready : ready.readied = ready.registry := h.readied_readied
  obtain ⟨ms, hms, hnames⟩ := lookUp_turns (h := ready) hready (by rwa [hready])
  refine ⟨ms, hnames, fun w => ?_⟩
  obtain ⟨u₁, hlist, hlogs₁⟩ := h.list_turns none w
  obtain ⟨u, hlookup, hlogs⟩ := hms u₁
  have hlogs := hlogs₁.trans hlogs
  refine ⟨u, hlogs, ?_⟩
  unfold run
  rw [merged_bind, run_bind_of_ok hlist]
  dsimp only [Option.filter_none]
  rw [merged_bind, run_bind_of_ok hlookup, hready]
  rfl

end Command.Listing

/-- After any sequence of operations on a registry, with any built-in filters and any plugins, all
registered filters are listed, each once and under its own name. A listed filter is found under its
name unless the name is an alias of another filter that has been met; then whatever is registered
under the name of that filter is found, if there is anything. So if no filter has the name of
another as an alias, then every listed filter is found, and the summary shows each of them once. -/
theorem listed_filters_found_unless_aliased {φ : Type} (builtins : List (Metadata φ))
    (plugins : Plugins φ) (ops : List (Registry.Operation φ)) (w : World) :
    let start : Host φ := ⟨builtins, plugins, .empty⟩
    ∃ h u, (merged (Host.performAll ops)).run (start, w) = (.ok (), (h, u)) ∧ w.OnlyLogged u ∧
      h.Turns (Host.list none) (h.readied.names none) h.readied ∧
      (h.readied.names none).Nodup ∧
      (∀ name ∈ h.readied.names none, ∃ m, h.readied.filters.lookup name = some m ∧
        m.name = name ∧ m ∈ start.met ops ∧
        (h.Turns (Host.metadata name) m h.readied ∨
          ∃ other, other ∈ start.met ops ∧ name ∈ other.aliases ∧ other.name ≠ name ∧
            h.Turns (Host.metadata name).attempt ((h.readied.filters.lookup other.name).elim
              (.error (.unknownFilter name (h.readied.names none))) .ok) h.readied)) ∧
      ((∀ m ∈ start.met ops, ∀ other ∈ start.met ops, m.name ∈ other.aliases →
          other.name = m.name) →
        (∀ name ∈ h.readied.names none, ∃ m, m.name = name ∧
          h.Turns (Host.metadata name) m h.readied) ∧
        ∀ isDrawn, ∃ ms : List (Metadata φ), ms.map (·.name) = h.readied.names none ∧
          ∀ v, ∃ v', v.OnlyLogged v' ∧
          (merged (Command.Listing.run ⟨none, isDrawn⟩)).run (h, v) =
            (.ok 0, ({ h with registry := h.readied }, v'.printing (Command.Listing.text
              (if isDrawn then Command.Listing.drawnSummary ms
                else Command.Listing.summaryLines ms))))) := by
  intro start
  have hbuiltins (m : Metadata φ) (hm : m ∈ builtins) : m ∈ start.met ops :=
    List.mem_append_left _ (List.mem_append_left _ hm)
  have hplugins (m : Metadata φ) (hm : m ∈ Plugins.metadata plugins) : m ∈ start.met ops :=
    List.mem_append_left _ (List.mem_append_right _ hm)
  have hgiven (m : Metadata φ) (hm : .register m ∈ ops) : m ∈ start.met ops :=
    List.mem_append_right _ (List.mem_filterMap.mpr ⟨_, hm, rfl⟩)
  obtain ⟨r, hops, hr⟩ := Host.performAll_turns (h := start) (.empty _) hbuiltins hplugins hgiven
  obtain ⟨u, hrun, hlogs⟩ := hops w
  let h : Host φ := { start with registry := r }
  have hsound : h.readied.Sound (· ∈ start.met ops) := Host.sound_readied hr hbuiltins hplugins
  have hlisted (name : String) (hname : name ∈ h.readied.names none) :
      ∃ m, h.readied.filters.lookup name = some m ∧ m.name = name ∧ m ∈ start.met ops ∧
        (h.readied.canonical name = name ∨ ∃ other, other ∈ start.met ops ∧
          name ∈ other.aliases ∧ other.name ≠ name ∧ h.readied.canonical name = other.name) := by
    obtain ⟨m, hm, hmname, hmet⟩ := hsound.lookup_of_mem hname
    refine ⟨m, hm, hmname, hmet, ?_⟩
    rcases hsound.canonical_cases name with hself | ⟨other, hother, halias, hcanonical⟩
    · exact .inl hself
    · by_cases hsame : other.name = name
      · exact .inl (hcanonical.trans hsame)
      · exact .inr ⟨other, hother, halias, hsame, hcanonical⟩
  refine ⟨h, u, hrun, hlogs, h.list_turns none, hsound.nodup_names, ?_, ?_⟩
  · intro name hname
    obtain ⟨m, hm, hmname, hmet, hcanonical⟩ := hlisted name hname
    refine ⟨m, hm, hmname, hmet, ?_⟩
    rcases hcanonical with hself | ⟨other, hother, halias, hne, hcanonical⟩
    · refine .inl (h.metadata_turns ?_)
      rw [Registry.find?, hself, hm]
    · refine .inr ⟨other, hother, halias, hne, ?_⟩
      rw [← hcanonical]
      exact h.attempt_metadata_turns name
  · intro hfree
    have hfound (name : String) (hname : name ∈ h.readied.names none) :
        ∃ m, h.readied.find? name = some m ∧ m.name = name := by
      obtain ⟨m, hm, hmname, hmet, hcanonical⟩ := hlisted name hname
      rcases hcanonical with hself | ⟨other, hother, halias, hne, -⟩
      · exact ⟨m, by rw [Registry.find?, hself, hm], hmname⟩
      · rw [← hmname] at halias hne
        exact absurd (hfree m hmet other hother halias) hne
    refine ⟨?_, Command.Listing.run_summary hfound⟩
    intro name hname
    obtain ⟨m, hm, hmname⟩ := hfound name hname
    exact ⟨m, hmname, h.metadata_turns hm⟩

/-- A filter that is registered beside the built-in ones, under a name of its own. -/
def addedFilter (aliases : List String) : Metadata Builtin :=
  ⟨9, "x", "Added", .script, [], aliases, [], "1.0.0"⟩

theorem listed_filters_found_beside_builtins :
    let ops := [.register (addedFilter ["y"]), .unregister "uml", .has "y"]
    (∀ m ∈ builtinHost.met ops, ∀ other ∈ builtinHost.met ops, m.name ∈ other.aliases →
      other.name = m.name) ∧
    ∃ h u, (merged (Host.performAll ops)).run (builtinHost, .initial ⟨[]⟩ "/") = (.ok (), (h, u)) ∧
      ∀ name ∈ h.readied.names none, ∃ m, m.name = name ∧
        h.Turns (Host.metadata name) m h.readied := by
  intro ops
  have hfree : ∀ m ∈ builtinHost.met ops, ∀ other ∈ builtinHost.met ops, m.name ∈ other.aliases →
      other.name = m.name := by decide
  obtain ⟨h, u, hrun, -, -, -, -, hfound⟩ :=
    listed_filters_found_unless_aliased builtinHost.builtins (.ok []) ops (.initial ⟨[]⟩ "/")
  exact ⟨hfree, h, u, hrun, (hfound hfree).1⟩

/-- A filter that was registered with the name of another as an alias, then without aliases, leaves
the alias behind when it is removed. The other filter is listed and not found. -/
theorem overwritten_alias_hides_listed_filter :
    let ops := [.register (addedFilter ["include"]), .register (addedFilter []), .unregister "x"]
    ∃ h u, (merged (Host.performAll ops)).run (builtinHost, .initial ⟨[]⟩ "/") = (.ok (), (h, u)) ∧
      "include" ∈ h.readied.names none ∧
      ((merged (Host.metadata "include")).run (h, u)).1 =
        .error (.unknownFilter "include" (h.readied.names none)) := by
  intro ops
  refine ⟨_, _, rfl, ?_, rfl⟩
  rw [Registry.names, sorted, (List.mergeSort_perm _ _).mem_iff]
  decide

end DocFilter
