import DocFilter.Proofs.Registry.Lookup
import DocFilter.Proofs.Registry.Pipeline

/-!
# Options by name and by spelling

A chain is made filter by filter, each of the options that reach it: those given under its own name,
or else those given under the name that the chain has for it. Options given under any other of its
names do not reach it. So a chain can be spelled in any way if its options are given under the own
names of its filters.
-/

namespace DocFilter

theorem run_merged_bind_congr {ε σ τ α β : Type} {x y : ExceptT ε (StateT σ (StateM τ)) α}
    {f g : α → ExceptT ε (StateT σ (StateM τ)) β} {t t' : σ × τ}
    (hx : (merged x).run t = (merged y).run t')
    (hf : ∀ a u, (merged y).run t' = (.ok a, u) → (merged (f a)).run u = (merged (g a)).run u) :
    (merged (x >>= f)).run t = (merged (y >>= g)).run t' := by
  rw [merged_bind, merged_bind, run_bind, run_bind, hx]
  cases hout : ((merged y).run t').1 with
  | error e => rfl
  | ok a => exact hf a _ (Prod.ext hout rfl)

theorem run_merged_ofExcept_bind_congr {σ α β : Type} (x : Except Failure α) {f g : α → Act σ β}
    {t : σ × World} (hf : ∀ a, (merged (f a)).run t = (merged (g a)).run t) :
    (merged (MonadExcept.ofExcept x >>= f)).run t =
      (merged (MonadExcept.ofExcept x >>= g)).run t := by
  apply run_merged_bind_congr rfl
  intro a u hx
  rw [run_merged_ofExcept] at hx
  cases hx
  exact hf a

/-! ### Making one filter -/

namespace Metadata
variable {φ : Type}

/-- The world once it is known that some of the options given are none of the filter's. -/
def warned (m : Metadata φ) (given : Fields) (w : World) : World :=
  if m.strange given = [] then w
  else
    let name := m.name
    let list := joinWith ", " (m.strange given)
    w.log ⟨.warning, logName, s!"Ignoring unknown option(s) for filter '{name}': {list}", none⟩

/-- What comes of making the filter: a failure about its arguments is one of the filter. -/
def reported {α : Type} (m : Metadata φ) : Except Failure α → Except Failure α
  | .ok f => .ok f
  | .error failure => .error (if failure.isAboutArguments then .filterNotMade m.name failure else failure)

theorem run_create {σ α : Type} (make : φ → Fields → Act σ α) (m : Metadata φ) (given : Fields)
    (s : σ) (w : World) :
    (merged (m.create make given)).run (s, w) =
      let made := (merged (make m.factory (m.understood given))).run (s, m.warned given w)
      (m.reported made.1, made.2) := by
  have hmade (u : World) := run_merged_attempt (make m.factory (m.understood given)) (s, u)
  have hwarn (text : String) : (merged (liftM (Run.warn logName text) : Act σ Unit)).run (s, w) =
      (.ok (), (s, w.log ⟨.warning, logName, text, none⟩)) := rfl
  unfold create warned
  dsimp only
  by_cases hstrange : m.strange given = []
  case' pos =>
    rw [if_pos hstrange, if_neg (by simp [hstrange]), merged_bind, run_bind_of_ok (hmade w)]
  case' neg =>
    rw [if_neg hstrange, if_pos (by simp [hstrange]), merged_bind, run_bind_of_ok (hwarn _),
      merged_bind, run_bind_of_ok (hmade _)]
  all_goals
    generalize (merged (make m.factory (m.understood given))).run _ = made
    obtain ⟨outcome, t⟩ := made
    cases outcome with
    | ok f => rfl
    | error failure =>
      dsimp only [reported]
      split <;> rfl

end Metadata

namespace Host
variable {φ : Type} {h : Host φ} {name canonical : String}

/-- Whether a name or alias is answered with the filter of a certain name. -/
structure Spells (h : Host φ) (name canonical : String) : Prop where
  has : h.Turns (Host.has name) true h.readied
  resolves : h.Turns (Host.resolve name) canonical h.readied

/-- Whether a key is a certain name or stands for it. -/
def Names (h : Host φ) (canonical key : String) : Prop :=
  key = canonical ∨ h.Turns (Host.resolve key) canonical h.readied

theorem Spells.find?_eq (hspells : h.Spells name canonical) :
    h.readied.canonical name = canonical ∧
      ∃ m, h.readied.find? name = some m ∧ h.readied.filters.lookup canonical = some m := by
  obtain ⟨hfound, -⟩ := (h.has_turns name).eq hspells.has
  obtain ⟨hname, -⟩ := (h.resolve_turns name).eq hspells.resolves
  obtain ⟨m, hm⟩ := Option.isSome_iff_exists.mp hfound
  exact ⟨hname, m, hm, hname ▸ hm⟩

theorem spells_of_find? (hcanonical : h.readied.canonical name = canonical)
    (hfound : (h.readied.find? name).isSome = true) : h.Spells name canonical := by
  have hhas := h.has_turns name
  have hresolves := h.resolve_turns name
  rw [hfound] at hhas
  rw [hcanonical] at hresolves
  exact ⟨hhas, hresolves⟩

/-! ### Asking a host that is ready -/

theorem run_ensureReady (hready : h.registry.initialized = true) (w : World) :
    (merged ensureReady).run (h, w) = (.ok (), (h, w)) := by
  unfold ensureReady
  rw [merged_bind, run_bind_of_ok (run_merged_getState _)]
  dsimp only
  rw [hready]
  rfl

theorem run_ready (hready : h.registry.initialized = true) (w : World) :
    (merged ready).run (h, w) = (.ok h.registry, (h, w)) := by
  unfold ready
  rw [merged_bind, run_bind_of_ok (run_ensureReady hready w)]
  rfl

theorem run_resolve (hready : h.registry.initialized = true) (name : String) (w : World) :
    (merged (resolve name)).run (h, w) = (.ok (h.registry.canonical name), (h, w)) := by
  unfold resolve
  rw [merged_bind, run_bind_of_ok (run_ready hready w)]
  rfl

theorem run_metadata_of_ready (hready : h.registry.initialized = true) (name : String) (w : World) :
    (merged (metadata name)).run (h, w) = ((h.registry.find? name).elim
      (.error (.unknownFilter name (h.registry.names none))) .ok, (h, w)) := by
  unfold metadata
  rw [merged_bind, run_bind_of_ok (run_ready hready w)]
  cases h.registry.find? name <;> rfl

theorem readied_of_initialized (hready : h.registry.initialized = true) :
    h.readied = h.registry := if_pos hready

/-! ### Computations beside a host -/

/-- Whether a computation leaves the host as it is. -/
def Leaves {α : Type} (x : Act (Host φ) α) : Prop :=
  ∀ h w, ((merged x).run (h, w)).2.1 = h

namespace Leaves
variable {α β : Type} {x : Act (Host φ) α}

theorem bind {f : α → Act (Host φ) β} (hx : Leaves x) (hf : ∀ a, Leaves (f a)) :
    Leaves (x >>= f) := by
  intro h w
  have hfirst := hx h w
  rw [merged_bind, run_bind]
  cases hout : ((merged x).run (h, w)).1 with
  | error failure => exact hfirst
  | ok a => exact (hf a _ _).trans hfirst

theorem lift (x : Run α) : Leaves (liftM x : Act (Host φ) α) := fun _ _ => rfl

theorem ofExcept (x : Except Failure α) : Leaves (MonadExcept.ofExcept x : Act (Host φ) α) := by
  intro h w
  rw [run_merged_ofExcept]

end Leaves

end Host

namespace Pipeline
variable {φ : Type} {make : φ → Fields → Act (Host φ) Filter} {options : Fields}
variable {h : Host φ} {canonical name : String} {w : World}

def Tables (options : Fields) : Prop :=
  ∀ key v, options.get? key = some v → ∃ given, v = .obj given

def under (options : Fields) (key : String) : Fields :=
  match options.get? key with
  | some (.obj given) => given
  | _ => []

/-- The options that reach a filter: those under its own name, or else those under the name that it
is asked for by. -/
def reaching (options : Fields) (canonical name : String) : Fields :=
  if under options canonical = [] then under options name else under options canonical

/-- Whether each filter is given options under one key at most, among its own name and the names that
stand for it. -/
def OneTableEach (h : Host φ) (options : Fields) : Prop :=
  ∀ canonical key key', h.Names canonical key → h.Names canonical key' →
    under options key ≠ [] → under options key' ≠ [] → key = key'

theorem optionsFor_of_tables (htables : Tables options) (canonical name : String) :
    optionsFor options canonical name = .ok (reaching options canonical name) := by
  have hgiven (key : String) : (options.get? key).filter Json.isTruthy =
      if under options key = [] then none else some (.obj (under options key)) := by
    unfold under
    cases hkey : options.get? key with
    | none => rfl
    | some v =>
      obtain ⟨given, rfl⟩ := htables key v hkey
      cases given <;> rfl
  unfold optionsFor reaching
  dsimp only
  rw [hgiven, hgiven]
  by_cases hown : under options canonical = []
  · by_cases hname : under options name = []
    · rw [if_pos hown, if_pos hown, if_pos hname, hname]
      rfl
    · rw [if_pos hown, if_pos hown, if_neg hname]
      rfl
  · rw [if_neg hown, if_neg hown]
    rfl

/-! ### The parts of a chain -/

/-- What a name of a chain stands for: the metadata or the failure to find any, and the options that
reach the filter. -/
structure Part (h : Host φ) (options : Fields) (name : String)
    (part : Except Failure (Metadata φ) × Fields) : Prop where
  found : h.Turns (Host.metadata name).attempt part.1 h.readied
  reached : ∃ canonical, h.Turns (Host.resolve name) canonical h.readied ∧
    part.2 = reaching options canonical name

/-- The filter of a part, made of the options that reach it. -/
def makePart (make : φ → Fields → Act (Host φ) Filter)
    (part : Except Failure (Metadata φ) × Fields) : Act (Host φ) Filter := do
  MonadExcept.ofExcept
    (Host.checkNames "FilterRegistry.get_filter()" ["self", "name"] part.2)
  (← MonadExcept.ofExcept part.1).create make part.2

def makeParts (make : φ → Fields → Act (Host φ) Filter) (isSafe : Bool) :
    List (Except Failure (Metadata φ) × Fields) → Act (Host φ) (List Filter)
  | [] => pure []
  | part :: parts => do
    let f ← makePart make part
    return taken isSafe f :: (← makeParts make isSafe parts)

def compose (filters : List Filter) : Act (Host φ) Filter := do
  let list := if filters.isEmpty then "(empty)" else joinWith ", " (filters.map (·.name))
  (Run.debug logName s!"Built filter pipeline: {list}" : Run Unit)
  return Filter.compose filters

def assemble (make : φ → Fields → Act (Host φ) Filter) (isSafe : Bool)
    (parts : List (Except Failure (Metadata φ) × Fields)) : Act (Host φ) Filter := do
  compose (← makeParts make isSafe parts)

theorem part_iff {part : Except Failure (Metadata φ) × Fields} : Part h options name part ↔
    part = ((h.readied.find? name).elim
      (.error (.unknownFilter name (h.readied.names none))) .ok,
      reaching options (h.readied.canonical name) name) := by
  constructor
  · rintro ⟨hfound, canonical, hresolves, hreached⟩
    obtain ⟨hpart, -⟩ := hfound.eq (h.attempt_metadata_turns name)
    obtain ⟨rfl, -⟩ := hresolves.eq (h.resolve_turns name)
    exact Prod.ext hpart hreached
  · rintro rfl
    exact ⟨h.attempt_metadata_turns name, _, h.resolve_turns name, rfl⟩

theorem Part.ready {part : Except Failure (Metadata φ) × Fields} (hpart : Part h options name part) :
    Part { h with registry := h.readied } options name part := by
  rw [part_iff] at hpart ⊢
  rw [h.readied_readied]
  exact hpart

/-- Two spellings of one filter, which the same options reach, are the same part of a chain. -/
theorem Part.respelled {name' : String} {options' : Fields}
    {part : Except Failure (Metadata φ) × Fields} (hpart : Part h options name part)
    (hname : h.Spells name canonical) (hname' : h.Spells name' canonical)
    (hreaching : reaching options canonical name = reaching options' canonical name') :
    Part h options' name' part := by
  obtain ⟨hcanonical, m, hm, hlookup⟩ := hname.find?_eq
  obtain ⟨hcanonical', m', hm', hlookup'⟩ := hname'.find?_eq
  obtain rfl : m = m' := Option.some.inj (hlookup.symm.trans hlookup')
  rw [part_iff] at hpart ⊢
  rw [hpart, hm, hm', hcanonical, hcanonical', hreaching]
  rfl

/-- Of the tables that could be a filter's, that under its own name reaches it and that under the
name that it is asked for by; the table under any other name of it does not. -/
theorem reaching_eq (hone : OneTableEach h options)
    (hresolves : h.Turns (Host.resolve name) canonical h.readied) {key : String}
    (hkey : h.Names canonical key) (hsome : under options key ≠ []) :
    reaching options canonical name =
      if key = canonical ∨ key = name then under options key else [] := by
  unfold reaching
  by_cases hown : under options canonical = []
  · rw [if_pos hown]
    by_cases hname : under options name = []
    · rw [if_neg, hname]
      rintro (rfl | rfl)
      · exact hsome hown
      · exact hsome hname
    · obtain rfl := hone canonical key name hkey (.inr hresolves) hsome hname
      rw [if_pos (.inr rfl)]
  · obtain rfl := hone canonical key canonical hkey (.inl rfl) hsome hown
    rw [if_neg hown, if_pos (.inl rfl)]

theorem forall₂_part (h : Host φ) (options : Fields) (names : List String) :
    ∃ parts, List.Forall₂ (Part h options) names parts := by
  induction names with
  | nil => exact ⟨[], .nil⟩
  | cons name names ih =>
    obtain ⟨parts, hparts⟩ := ih
    exact ⟨_ :: parts, .cons (part_iff.mpr rfl) hparts⟩

/-- The first name of a chain readies the registry. -/
theorem run_chain_cons {v : World}
    (hready : (merged Host.ensureReady).run (h, w) = (.ok (), ({ h with registry := h.readied }, v)))
    (options : Fields) (isSafe : Bool) (name : String) (names : List String) :
    (merged (chain make options isSafe (name :: names))).run (h, w) =
      (merged (chain make options isSafe (name :: names))).run
        ({ h with registry := h.readied }, v) := by
  let ready : Host φ := { h with registry := h.readied }
  have hresolve : (merged (Host.resolve name)).run (h, w) =
      (merged (Host.resolve name)).run (ready, v) := by
    rw [Host.run_resolve (h := ready) h.initialized_readied]
    unfold Host.resolve Host.ready
    simp only [bind_assoc, merged_bind]
    rw [run_bind_of_ok hready]
    rfl
  unfold chain
  exact run_merged_bind_congr hresolve fun _ _ _ => rfl

theorem run_create_of_ready (make : φ → Fields → Act (Host φ) Filter)
    (hready : h.registry.initialized = true) (name : String) (given : Fields) (w : World) :
    (merged (Host.create make name given)).run (h, w) =
      (merged (makePart make ((h.registry.find? name).elim
        (.error (.unknownFilter name (h.registry.names none))) .ok, given))).run (h, w) := by
  unfold Host.create makePart
  apply run_merged_ofExcept_bind_congr
  intro _
  apply run_merged_bind_congr
  · rw [Host.run_metadata_of_ready hready, run_merged_ofExcept]
  · intro _ _ _
    rfl

section Chain
variable (hmake : ∀ f given, Host.Leaves (make f given))
include hmake

theorem leaves_makePart (part : Except Failure (Metadata φ) × Fields) :
    Host.Leaves (makePart make part) := by
  apply (Host.Leaves.ofExcept _).bind
  intro _
  apply (Host.Leaves.ofExcept _).bind
  intro m h w
  rw [m.run_create]
  exact hmake _ _ h _

/-- Beside a registry that is ready, a chain is made part by part. -/
theorem run_chain_of_ready (htables : Tables options) (isSafe : Bool)
    (hready : h.registry.initialized = true) {names : List String}
    {parts : List (Except Failure (Metadata φ) × Fields)}
    (hparts : List.Forall₂ (Part h options) names parts) (w : World) :
    (merged (chain make options isSafe names)).run (h, w) =
      (merged (makeParts make isSafe parts)).run (h, w) := by
  induction hparts generalizing w with
  | nil => rfl
  | @cons name part names parts hpart _ ih =>
    obtain rfl := part_iff.mp hpart
    rw [Host.readied_of_initialized hready]
    unfold chain makeParts
    rw [merged_bind, run_bind_of_ok (Host.run_resolve hready name w), merged_bind,
      run_bind_of_ok (by rw [run_merged_ofExcept, optionsFor_of_tables htables])]
    apply run_merged_bind_congr (run_create_of_ready make hready name _ w)
    intro f t hmade
    obtain ⟨h', u⟩ := t
    -- making the filter leaves the host, so the rest of the chain finds the same registry
    obtain rfl : h' = h := by
      rw [← leaves_makePart hmake _ h w, hmade]
    apply run_merged_bind_congr (ih u)
    intro _ _ _
    rfl

theorem run_build {v : World}
    (hready : (merged Host.ensureReady).run (h, w) = (.ok (), ({ h with registry := h.readied }, v)))
    (htables : Tables options) (isSafe : Bool) {names : List String}
    {parts : List (Except Failure (Metadata φ) × Fields)}
    (hparts : List.Forall₂ (Part h options) names parts) :
    (merged (build make names options isSafe)).run (h, w) =
      (merged (assemble make isSafe parts)).run
        (if names = [] then (h, w) else ({ h with registry := h.readied }, v)) := by
  unfold build assemble
  apply run_merged_bind_congr
  · cases hparts with
    | nil => rfl
    | @cons name part names parts hpart hparts =>
      rw [run_chain_cons hready, if_neg (List.cons_ne_nil name names)]
      have hall := List.Forall₂.cons hpart hparts
      exact run_chain_of_ready hmake htables isSafe h.initialized_readied
        (hall.imp fun _ _ hpart => hpart.ready) v
  · intro _ _ _
    rfl

end Chain

end Pipeline

/-- Each filter of a chain is made of the options that reach it: those given under its own name or
under the name that the chain has for it, and none of those given under any other name of it. So two
chains of the same filters, which the same options reach, come to the same, however the chains spell
the filters and whichever of the two names the options are given under. -/
theorem chain_made_of_reaching_options {φ : Type} {make : φ → Fields → Act (Host φ) Filter}
    (hmake : ∀ f given, Host.Leaves (make f given)) (h : Host φ) (w : World) :
    (∃ v, w.OnlyLogged v ∧ ∀ names options isSafe, Pipeline.Tables options →
      (∃ parts, List.Forall₂ (Pipeline.Part h options) names parts) ∧
      ∀ parts, List.Forall₂ (Pipeline.Part h options) names parts →
        (merged (Pipeline.build make names options isSafe)).run (h, w) =
          (merged (Pipeline.assemble make isSafe parts)).run
            (if names = [] then (h, w) else ({ h with registry := h.readied }, v))) ∧
    (∀ options, Pipeline.OneTableEach h options → ∀ name canonical key,
      h.Turns (Host.resolve name) canonical h.readied → h.Names canonical key →
      Pipeline.under options key ≠ [] →
      Pipeline.reaching options canonical name =
        if key = canonical ∨ key = name then Pipeline.under options key else []) ∧
    ∀ names names' options options' isSafe, Pipeline.Tables options → Pipeline.Tables options' →
      List.Forall₂ (fun name name' => ∃ canonical,
        h.Spells name canonical ∧ h.Spells name' canonical ∧
        Pipeline.reaching options canonical name = Pipeline.reaching options' canonical name')
        names names' →
      (merged (Pipeline.build make names options isSafe)).run (h, w) =
        (merged (Pipeline.build make names' options' isSafe)).run (h, w) := by
  obtain ⟨v, hready, hlogs⟩ := h.ensureReady_turns w
  refine ⟨⟨v, hlogs, ?_⟩, ?_, ?_⟩
  · intro names options isSafe htables
    refine ⟨Pipeline.forall₂_part h options names, ?_⟩
    intro parts hparts
    exact Pipeline.run_build hmake hready htables isSafe hparts
  · intro options hone name canonical key hresolves hkey hsome
    exact Pipeline.reaching_eq hone hresolves hkey hsome
  · intro names names' options options' isSafe htables htables' hsame
    obtain ⟨parts, hparts⟩ := Pipeline.forall₂_part h options names
    have hparts' : List.Forall₂ (Pipeline.Part h options') names' parts := by
      induction hsame generalizing parts with
      | nil =>
        cases hparts
        exact .nil
      | cons hname _ ih =>
        obtain ⟨canonical, hspells, hspells', hreaching⟩ := hname
        cases hparts with
        | cons hpart hparts =>
          exact .cons (hpart.respelled hspells hspells' hreaching) (ih _ hparts)
    have hempty : names = [] ↔ names' = [] := by
      rw [← List.length_eq_zero_iff, hsame.length_eq, List.length_eq_zero_iff]
    rw [Pipeline.run_build hmake hready htables isSafe hparts,
      Pipeline.run_build hmake hready htables' isSafe hparts']
    simp only [hempty]

def databaseOptions (key : String) : Fields := [(key, .obj [("db", .str "x.db")])]

theorem tables_databaseOptions (key : String) : Pipeline.Tables (databaseOptions key) := by
  intro key' v hv
  rw [databaseOptions, Fields.get?, Dictionary.lookup_cons] at hv
  split at hv
  · cases hv
    exact ⟨_, rfl⟩
  · cases hv

theorem oneTableEach_databaseOptions (h : Host Builtin) (key : String) :
    Pipeline.OneTableEach h (databaseOptions key) := by
  have honly (key' : String) (hsome : Pipeline.under (databaseOptions key) key' ≠ []) :
      key' = key := by
    by_contra hne
    apply hsome
    rw [Pipeline.under, databaseOptions, Fields.get?, Dictionary.lookup_cons, if_neg (by simpa)]
    rfl
  intro _ key₁ key₂ _ _ hkey₁ hkey₂
  rw [honly key₁ hkey₁, honly key₂ hkey₂]

theorem spells_sql : builtinHost.Spells "sqlite" "sqlite-exec" ∧
    builtinHost.Spells "sqlite-exec" "sqlite-exec" :=
  ⟨Host.spells_of_find? (by decide +kernel) (by decide +kernel),
    Host.spells_of_find? (by decide +kernel) (by decide +kernel)⟩

theorem chain_made_of_reaching_options_for_sql :
    let w := World.initial ⟨[]⟩ "/"
    let options := databaseOptions "sqlite-exec"
    Pipeline.reaching options "sqlite-exec" "sqlite" = [("db", .str "x.db")] ∧
    (merged (Pipeline.build makeBuiltin ["sqlite"] options false)).run (builtinHost, w) =
      (merged (Pipeline.build makeBuiltin ["sqlite-exec"] options false)).run (builtinHost, w) := by
  intro w options
  obtain ⟨hsqlite, hsql⟩ := spells_sql
  have htables := tables_databaseOptions "sqlite-exec"
  have hmake (b : Builtin) (given : Fields) : Host.Leaves (makeBuiltin b given) := .lift _
  obtain ⟨-, hreaching, hsame⟩ := chain_made_of_reaching_options hmake builtinHost w
  constructor
  · exact hreaching options (oneTableEach_databaseOptions _ _) "sqlite" "sqlite-exec" "sqlite-exec"
      hsqlite.resolves (.inl rfl) (by decide)
  · exact hsame _ _ options options false htables htables
      (.cons ⟨"sqlite-exec", hsqlite, hsql, rfl⟩ .nil)

/-- A list of settings with a single text is known by this text. -/
theorem eq_ok_of_text {outcome : Except Failure (List Fields)} {key s : String}
    (h : outcome.toOption.map (·.map (·.map fun e => (e.1, e.2.text?))) =
      some [[(key, some s)]]) : outcome = .ok [[(key, .str s)]] := by
  cases outcome with
  | error failure => cases h
  | ok made =>
    obtain ⟨fields, rfl, hfields⟩ := List.map_eq_singleton_iff.mp (Option.some.inj h)
    obtain ⟨⟨key', v⟩, rfl, hentry⟩ := List.map_eq_singleton_iff.mp hfields
    obtain ⟨rfl, htext⟩ := Prod.mk.inj hentry
    cases v <;> cases htext
    rfl

/-- A table under an alias reaches the filter only where the chain has the alias for it. -/
theorem table_under_other_alias_is_missed :
    let options := databaseOptions "sqlite"
    let made (name : String) :=
      ((merged (Pipeline.chain makeBuiltin options false [name])).run
        (builtinHost, .initial ⟨[]⟩ "/")).1.map fun filters => filters.map (·.settings)
    Pipeline.Tables options ∧ Pipeline.OneTableEach builtinHost options ∧
      builtinHost.Spells "sqlite" "sqlite-exec" ∧ builtinHost.Spells "sqlite-exec" "sqlite-exec" ∧
      made "sqlite" = .ok [[("db", .str "x.db")]] ∧
      made "sqlite-exec" = .ok [[("db", .str ":memory:")]] :=
  ⟨tables_databaseOptions _, oneTableEach_databaseOptions _ _, spells_sql.1, spells_sql.2,
    eq_ok_of_text (by decide +kernel), eq_ok_of_text (by decide +kernel)⟩

end DocFilter
