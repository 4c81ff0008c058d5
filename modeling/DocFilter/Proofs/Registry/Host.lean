import DocFilter.Proofs.World
import DocFilter.Registry.Builtin

/-!
# What the operations of a registry come to

Each operation changes the registry as a function of it, and else only logs. Looking anything up
first readies the registry, which is done once.
-/

namespace DocFilter

namespace Registry
variable {φ : Type}

/-- The registry with those of a list of filters whose names are free. -/
def withFree (r : Registry φ) (ms : List (Metadata φ)) : Registry φ :=
  ms.foldl (fun r m => if Dictionary.has r.filters m.name then r else r.insert m) r

/-- The registry after a plugin was loaded. -/
def withPlugin (r : Registry φ) : Loaded φ → Registry φ
  | .metadata m =>
    if (r.filters.lookup m.name).map (·.identity) = some m.identity then r else r.insert m
  | .other | .broken _ => r

/-- The registry after plugins were looked for. -/
def withPlugins (r : Registry φ) : Plugins φ → Registry φ
  | .ok plugins => plugins.foldl (fun r p => r.withPlugin p.2) r
  | .error _ => r

/-- The registry after the filter that a name stands for was removed, if there is one. -/
def without (r : Registry φ) (name : String) : Registry φ := (r.remove? name).getD r

end Registry

namespace Host
variable {φ : Type}

/-- The registry of a host once something has been asked of it. -/
def readied (h : Host φ) : Registry φ :=
  if h.registry.initialized then h.registry
  else ({ h.registry with initialized := true }.withFree h.builtins).withPlugins h.plugins

/-- A computation that gives a value, leaves a certain registry and else only logs. -/
def Turns {α : Type} (x : Act (Host φ) α) (h : Host φ) (a : α) (r : Registry φ) : Prop :=
  ∀ w, ∃ u, (merged x).run (h, w) = (.ok a, ({ h with registry := r }, u)) ∧ w.OnlyLogged u

namespace Turns
variable {α β : Type} {h : Host φ} {r r' : Registry φ} {a : α} {b : β}

theorem pure (a : α) (h : Host φ) : Turns (Pure.pure a) h a h.registry :=
  fun w => ⟨w, rfl, .refl w⟩

theorem bind {x : Act (Host φ) α} {f : α → Act (Host φ) β} (hx : Turns x h a r)
    (hf : Turns (f a) { h with registry := r } b r') : Turns (x >>= f) h b r' := by
  intro w
  obtain ⟨u, hrun, hlogs⟩ := hx w
  obtain ⟨v, hrun', hlogs'⟩ := hf u
  refine ⟨v, ?_, hlogs.trans hlogs'⟩
  rw [merged_bind, run_bind_of_ok hrun, hrun']

theorem getState (h : Host φ) : Turns Act.getState h h h.registry :=
  fun w => ⟨w, rfl, .refl w⟩

theorem record (rec : Log.Record) (h : Host φ) :
    Turns (liftM (Run.record rec) : Act (Host φ) Unit) h () h.registry :=
  fun w => ⟨w.log rec, rfl, .log w rec⟩

theorem changeRegistry (f : Registry φ → Registry φ) (h : Host φ) :
    Turns (Host.changeRegistry f) h () (f h.registry) :=
  fun w => ⟨w, rfl, .refl w⟩

theorem lift {x : Run α} (hx : ∀ w, ∃ u, x.run w = (.ok a, u) ∧ w.OnlyLogged u) (h : Host φ) :
    Turns (liftM x : Act (Host φ) α) h a h.registry := by
  intro w
  obtain ⟨u, hrun, hlogs⟩ := hx w
  exact ⟨u, run_merged_lift hrun, hlogs⟩

theorem ofExcept {x : Except Failure α} (hx : x = .ok a) (h : Host φ) :
    Turns (MonadExcept.ofExcept x : Act (Host φ) α) h a h.registry := by
  intro w
  exact ⟨w, by rw [run_merged_ofExcept, hx], .refl w⟩

theorem attempt {x : Act (Host φ) α} (hx : Turns x h a r) : Turns x.attempt h (.ok a) r := by
  intro w
  obtain ⟨u, hrun, hlogs⟩ := hx w
  exact ⟨u, by rw [run_merged_attempt, hrun], hlogs⟩

end Turns

variable (h : Host φ)

theorem register_turns (m : Metadata φ) : Turns (register m) h () (h.registry.insert m) := by
  unfold register
  refine .bind (.getState h) ?_
  dsimp only
  split
  · exact .bind (.record _ h) (.bind (.changeRegistry _ _) (.record _ _))
  · exact .bind (.changeRegistry _ h) (.record _ _)

theorem unregister_turns (name : String) :
    Turns (unregister name) h (h.registry.remove? name).isSome (h.registry.without name) := by
  unfold unregister Registry.without
  refine .bind (.getState h) ?_
  dsimp only
  cases h.registry.remove? name with
  | none => exact .pure _ h
  | some rest => exact .bind (.changeRegistry _ h) (.bind (.record _ _) (.pure _ _))

theorem takeUp_turns (name : String) (loaded : Loaded φ) :
    ∃ isNew, Turns (takeUp name loaded) h isNew (h.registry.withPlugin loaded) := by
  unfold takeUp Registry.withPlugin
  cases loaded with
  | broken failure => exact ⟨_, .bind (.record _ h) (.pure _ h)⟩
  | other => exact ⟨_, .bind (.record _ h) (.pure _ h)⟩
  | metadata m =>
    dsimp only
    split
    · next hknown =>
      refine ⟨false, .bind (.getState h) ?_⟩
      rw [if_pos hknown]
      exact .pure false h
    · next hknown =>
      refine ⟨true, .bind (.getState h) ?_⟩
      rw [if_neg hknown]
      exact .bind (register_turns h m) (.bind (.record _ _) (.pure true _))

theorem takeUpAll_turns (plugins : List (String × Loaded φ)) :
    ∃ count, Turns (takeUpAll plugins) h count
      (plugins.foldl (fun r p => r.withPlugin p.2) h.registry) := by
  induction plugins generalizing h with
  | nil => exact ⟨0, .pure 0 h⟩
  | cons plugin rest ih =>
    obtain ⟨isNew, hplugin⟩ := takeUp_turns h plugin.1 plugin.2
    obtain ⟨count, hrest⟩ := ih { h with registry := h.registry.withPlugin plugin.2 }
    exact ⟨_, .bind hplugin (.bind hrest (.pure _ _))⟩

theorem discover_turns :
    ∃ count, Turns discover h count (h.registry.withPlugins h.plugins) := by
  obtain ⟨builtins, plugins, r⟩ := h
  cases plugins with
  | error failure => exact ⟨0, .bind (.getState _) (.bind (.record _ _) (.pure 0 _))⟩
  | ok plugins =>
    obtain ⟨count, hcount⟩ := takeUpAll_turns ⟨builtins, .ok plugins, r⟩ plugins
    exact ⟨count, .bind (.getState _) (.bind hcount (.bind (.record _ _) (.pure count _)))⟩

theorem registerFree_turns (ms : List (Metadata φ)) :
    Turns (registerFree ms) h () (h.registry.withFree ms) := by
  unfold Registry.withFree
  induction ms generalizing h with
  | nil => exact .pure () h
  | cons m ms ih =>
    refine .bind (.getState h) ?_
    rw [List.foldl_cons]
    dsimp only
    cases Dictionary.has h.registry.filters m.name with
    | true => exact ih h
    | false => exact .bind (register_turns h m) (ih _)

theorem ensureReady_turns : Turns ensureReady h () h.readied := by
  unfold ensureReady readied
  refine .bind (.getState h) ?_
  cases h.registry.initialized with
  | true => exact .pure () h
  | false =>
    let r := { h.registry with initialized := true }.withFree h.builtins
    obtain ⟨count, hdiscover⟩ := discover_turns { h with registry := r }
    refine .bind (.changeRegistry _ h) (.bind (registerFree_turns _ _) ?_)
    exact .bind hdiscover (.pure () _)

/-- Whatever is looked up is looked up in the registry once it is readied. -/
theorem ready_turns : Turns ready h h.readied h.readied :=
  .bind (ensureReady_turns h) (.bind (.getState _) (.pure _ _))

theorem resolve_turns (name : String) :
    Turns (resolve name) h (h.readied.canonical name) h.readied :=
  .bind (ready_turns h) (.pure _ _)

theorem has_turns (name : String) :
    Turns (has name) h (h.readied.find? name).isSome h.readied :=
  .bind (ready_turns h) (.pure _ _)

theorem list_turns (tags : Option (List String)) :
    Turns (list tags) h (h.readied.names tags) h.readied :=
  .bind (ready_turns h) (.pure _ _)

theorem metadata_turns {name : String} {m : Metadata φ} (hfind : h.readied.find? name = some m) :
    Turns (metadata name) h m h.readied := by
  refine .bind (ready_turns h) ?_
  rw [hfind]
  exact .pure m _

/-! ### Readied registries -/

theorem initialized_withFree (r : Registry φ) (ms : List (Metadata φ)) :
    (r.withFree ms).initialized = r.initialized := by
  unfold Registry.withFree
  induction ms generalizing r with
  | nil => rfl
  | cons m ms ih =>
    rw [List.foldl_cons, ih]
    split <;> rfl

theorem initialized_withPlugin (r : Registry φ) (loaded : Loaded φ) :
    (r.withPlugin loaded).initialized = r.initialized := by
  unfold Registry.withPlugin
  cases loaded with
  | metadata m =>
    dsimp only
    split <;> rfl
  | other | broken _ => rfl

theorem initialized_withPlugins (r : Registry φ) (plugins : Plugins φ) :
    (r.withPlugins plugins).initialized = r.initialized := by
  unfold Registry.withPlugins
  cases plugins with
  | error failure => rfl
  | ok plugins =>
    dsimp only
    induction plugins generalizing r with
    | nil => rfl
    | cons plugin plugins ih => rw [List.foldl_cons, ih, initialized_withPlugin]

theorem initialized_readied : h.readied.initialized = true := by
  unfold readied
  split
  · next hready => exact hready
  · rw [initialized_withPlugins, initialized_withFree]

/-- Readying is done once. -/
theorem readied_readied : { h with registry := h.readied }.readied = h.readied := by
  rw [readied, if_pos h.initialized_readied]

end Host

/-- The built-in filters, of which nothing has been asked yet. -/
def builtinHost : Host Builtin := ⟨Builtin.all.map (Builtin.metadata id), .ok [], .empty⟩

/-- Makes a built-in filter beside a host that it does not look at. -/
def makeBuiltin (b : Builtin) (given : Fields) : Act (Host Builtin) Filter := liftM (b.make given)

end DocFilter
