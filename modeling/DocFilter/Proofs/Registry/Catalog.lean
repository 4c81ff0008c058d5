import DocFilter.Proofs.Registry.Removal
import Mathlib.Data.Set.Insert

/-!
# The registry as a set of filters

If different filters have no spelling in common, then a registry is a set: each operation adds
filters to it or takes one out, and every lookup answers with the only filter of the set that has the
spelling. The set and the registry start empty and take each step together.
-/

namespace DocFilter

/-- The registered filters, and whether the built-in ones have been added. -/
structure Catalog (φ : Type) where
  members : Set (Metadata φ)
  isReady : Bool

namespace Catalog
variable {φ : Type}

def empty : Catalog φ := ⟨∅, false⟩

def withPlugins (c : Catalog φ) (plugins : Plugins φ) : Catalog φ :=
  { c with members := c.members ∪ {m | m ∈ plugins.metadata} }

/-- The catalog once something is looked up in it. -/
def readied (c : Catalog φ) (h : Host φ) : Catalog φ :=
  if c.isReady then c
  else withPlugins ⟨c.members ∪ {m | m ∈ h.builtins}, true⟩ h.plugins

def after (c : Catalog φ) (h : Host φ) : Registry.Operation φ → Catalog φ
  | .register m => { c with members := insert m c.members }
  | .unregister s => { c with members := c.members \ {m | s ∈ m.spellings} }
  | .discover => c.withPlugins h.plugins
  | .resolve _ | .has _ | .metadata _ | .list _ => c.readied h

def afterAll (c : Catalog φ) (h : Host φ) (ops : List (Registry.Operation φ)) : Catalog φ :=
  ops.foldl (·.after h) c

end Catalog

namespace Registry
variable {φ : Type} {seen : Metadata φ → Prop} {r : Registry φ} {s : String} {m : Metadata φ}
variable {members : Set (Metadata φ)}

/-- Whether different metadata have no spelling in common. -/
def FiltersApart (seen : Metadata φ → Prop) : Prop :=
  ∀ m m' s, seen m → seen m' → s ∈ m.spellings → s ∈ m'.spellings → m = m'

/-- Whether the registered filters are those of a set, under all of their spellings. -/
structure Holds (r : Registry φ) (members : Set (Metadata φ)) : Prop where
  sound : r.Sound (· ∈ members)
  listed : ∀ m ∈ members, r.filters.lookup m.name = some m
  declares : r.Declares

theorem Sound.mono {seen' : Metadata φ → Prop} (h : r.Sound seen) (hle : ∀ m, seen m → seen' m) :
    r.Sound seen' where
  nodup := h.nodup
  named name m hlookup := ⟨(h.named name m hlookup).1, hle m (h.named name m hlookup).2⟩
  aliased name other hlookup := by
    obtain ⟨m, hm, hrest⟩ := h.aliased name other hlookup
    exact ⟨m, hle m hm, hrest⟩

namespace FiltersApart

theorem mono {seen' : Metadata φ → Prop} (h : FiltersApart seen') (hle : ∀ m, seen m → seen' m) :
    FiltersApart seen :=
  fun m m' s hm hm' => h m m' s (hle m hm) (hle m' hm')

theorem of_pairwise {ms : List (Metadata φ)}
    (h : ms.Pairwise fun m m' => ∀ s ∈ m.spellings, s ∉ m'.spellings) :
    FiltersApart (· ∈ ms) := by
  intro m m' s hm hm' hs hs'
  let R (m m' : Metadata φ) : Prop := (∃ s ∈ m.spellings, s ∈ m'.spellings) → m = m'
  have hforth : ms.Pairwise R := h.imp fun hnone ⟨s, hs, hs'⟩ => absurd hs' (hnone s hs)
  have hback : ms.Pairwise (flip R) := h.imp fun hnone ⟨s, hs', hs⟩ => absurd hs' (hnone s hs)
  have hshared : R m m' := hforth.forall_of_forall_of_flip (fun _ _ _ => rfl) hback hm hm'
  exact hshared ⟨s, hs, hs'⟩

theorem namesApart (h : FiltersApart seen) : NamesApart seen :=
  fun m m' s hm hm' hs hs' => congrArg _ (h m m' s hm hm' hs hs')

theorem eq_of_name (h : FiltersApart seen) {m' : Metadata φ} (hm : seen m) (hm' : seen m')
    (hname : m.name = m'.name) : m = m' := by
  apply h m m' m.name hm hm' (name_mem_spellings m)
  rw [hname]
  exact name_mem_spellings m'

/-- There is one filter to take out under each spelling. -/
theorem diff_spelled (h : FiltersApart (· ∈ members)) (hm : m ∈ members) (hs : s ∈ m.spellings) :
    members \ {m | s ∈ m.spellings} = members \ {m} := by
  ext m'
  constructor
  · rintro ⟨hm', hs'⟩
    refine ⟨hm', ?_⟩
    rintro rfl
    exact hs' hs
  · rintro ⟨hm', hne⟩
    exact ⟨hm', fun hs' => hne (h m' m s hm' hm hs' hs)⟩

end FiltersApart

theorem sublist_names (r : Registry φ) (tags : List String) :
    (r.names (some tags)).Sublist (r.names none) :=
  sorted_sublist (List.filter_sublist.map _)

namespace Holds

theorem empty : Holds (Registry.empty : Registry φ) ∅ where
  sound := .empty _
  listed _ hm := hm.elim
  declares _ _ h := by cases h

theorem initialized (h : r.Holds members) : Holds { r with initialized := true } members :=
  ⟨h.sound.initialized, h.listed, h.declares⟩

variable (h : r.Holds members)
include h

theorem mem_names : s ∈ r.names none ↔ ∃ m ∈ members, m.name = s := by
  rw [names, mem_sorted, Dictionary.mem_keys_iff]
  constructor
  · rintro ⟨m, hm⟩
    obtain ⟨rfl, hmem⟩ := h.sound.named s m hm
    exact ⟨m, hmem, rfl⟩
  · rintro ⟨m, hm, rfl⟩
    exact ⟨m, h.listed m hm⟩

theorem mem_names_tagged {tags : List String} :
    s ∈ r.names (some tags) ↔ ∃ m ∈ members, m.name = s ∧ ∃ t ∈ tags, t ∈ m.tags := by
  have hkeys : s ∈ r.names (some tags) ↔
      ∃ m, r.filters.lookup s = some m ∧ ∃ t ∈ tags, t ∈ m.tags := by
    simp [names, mem_sorted, Dictionary.keys, Dictionary.mem_iff_lookup h.sound.nodup]
  rw [hkeys]
  constructor
  · rintro ⟨m, hm, htag⟩
    obtain ⟨rfl, hmem⟩ := h.sound.named s m hm
    exact ⟨m, hmem, rfl, htag⟩
  · rintro ⟨m, hm, rfl, htag⟩
    exact ⟨m, h.listed m hm, htag⟩

variable (hapart : FiltersApart (· ∈ members))
include hapart

/-- The filter that is found is the only one of the set with the spelling. -/
theorem find?_eq_some : r.find? s = some m ↔ m ∈ members ∧ s ∈ m.spellings := by
  constructor
  · intro hfind
    have hm := (h.sound.named _ m hfind).2
    refine ⟨hm, ?_⟩
    rcases h.sound.canonical_cases s with hself | ⟨former, hformer, halias, hcanonical⟩
    · rw [← hself, h.sound.name_eq hfind]
      exact name_mem_spellings m
    · have hname := hcanonical.symm.trans (h.sound.name_eq hfind)
      rw [← hapart.eq_of_name hformer hm hname]
      exact mem_spellings_of_alias halias
  · rintro ⟨hm, hs⟩
    exact hapart.namesApart.find?_of_mem_spellings h.sound h.declares (h.listed m hm) hs

theorem find?_eq_none : r.find? s = none ↔ ∀ m ∈ members, s ∉ m.spellings := by
  rw [Option.eq_none_iff_forall_ne_some]
  constructor
  · intro hnone m hm hs
    exact hnone m ((h.find?_eq_some hapart).mpr ⟨hm, hs⟩)
  · intro hnone m hfind
    obtain ⟨hm, hs⟩ := (h.find?_eq_some hapart).mp hfind
    exact hnone m hm hs

end Holds

/-! ### Steps -/

namespace Holds
variable (h : r.Holds members)
include h

theorem insert (hapart : FiltersApart (· ∈ Insert.insert m members)) :
    (r.insert m).Holds (Insert.insert m members) := by
  have hm : m ∈ Insert.insert m members := Set.mem_insert m members
  have hsound : r.Sound (· ∈ Insert.insert m members) :=
    h.sound.mono fun _ => Set.mem_insert_of_mem m
  refine ⟨hsound.insert hm, ?_, hapart.namesApart.declares_insert hsound h.declares hm⟩
  intro m' hm'
  rw [Registry.insert, Dictionary.lookup_set]
  split
  · next hname => rw [hapart.eq_of_name hm hm' (eq_of_beq hname).symm]
  · next hname =>
    rcases Set.mem_insert_iff.mp hm' with rfl | hm'
    · exact absurd BEq.rfl hname
    · exact h.listed m' hm'

theorem without (hapart : FiltersApart (· ∈ members)) (s : String) :
    (r.without s).Holds (members \ {m | s ∈ m.spellings}) := by
  have hdeclares := hapart.namesApart.declares_without h.sound h.declares s
  cases hfind : r.find? s with
  | none =>
    have hrest : members \ {m | s ∈ m.spellings} = members := by
      rw [sdiff_eq_left, Set.disjoint_left]
      exact (h.find?_eq_none hapart).mp hfind
    rw [without_of_none hfind, hrest]
    exact h
  | some m =>
    obtain ⟨hm, hs⟩ := (h.find?_eq_some hapart).mp hfind
    -- the removed filter is the only one of its name and of each of its aliases
    have hother {m' : Metadata φ} (hm' : m' ∈ members) (hne : m' ≠ m) : s ∉ m'.spellings :=
      fun hs' => hne (hapart m' m s hm' hm hs' hs)
    refine ⟨⟨(h.sound.without s).nodup, ?_, ?_⟩, ?_, hdeclares⟩
    · intro name m' hlookup
      rw [lookup_without h.sound hfind] at hlookup
      split at hlookup
      · cases hlookup
      · next hne =>
        obtain ⟨rfl, hm'⟩ := h.sound.named name m' hlookup
        exact ⟨rfl, hm', hother hm' fun heq => hne (congrArg _ heq)⟩
    · intro name other hlookup
      rw [without_of_some hfind, Dictionary.lookup_foldl_erase_eq] at hlookup
      split at hlookup
      · cases hlookup
      · next halias =>
        obtain ⟨m', hm', hmem, hname⟩ := h.sound.aliased name other hlookup
        refine ⟨m', ⟨hm', hother hm' ?_⟩, hmem, hname⟩
        rintro rfl
        exact halias hmem
    · rintro m' ⟨hm', hs'⟩
      rw [lookup_without h.sound hfind, if_neg]
      · exact h.listed m' hm'
      · intro hname
        rw [hapart.eq_of_name hm' hm hname] at hs'
        exact hs' hs

/-- A name that is taken is taken by the filter itself. -/
theorem insert_of_taken {other : Metadata φ} (htaken : r.filters.lookup m.name = some other)
    (hapart : FiltersApart (· ∈ Insert.insert m members)) :
    r.Holds (Insert.insert m members) := by
  obtain ⟨hname, hother⟩ := h.sound.named _ other htaken
  obtain rfl : other = m :=
    hapart.eq_of_name (Set.mem_insert_of_mem m hother) (Set.mem_insert m members) hname
  rw [Set.insert_eq_of_mem hother]
  exact h

end Holds

/-- Filters that are added one by one end up in the set. -/
theorem Holds.foldl {f : Registry φ → Metadata φ → Registry φ}
    (hf : ∀ r members m, Holds r members → FiltersApart (· ∈ Insert.insert m members) →
      (f r m).Holds (Insert.insert m members))
    (h : r.Holds members) (ms : List (Metadata φ))
    (hapart : FiltersApart (· ∈ members ∪ {m | m ∈ ms})) :
    (ms.foldl f r).Holds (members ∪ {m | m ∈ ms}) := by
  induction ms generalizing r members with
  | nil =>
    have hnone : members ∪ {m | m ∈ ([] : List (Metadata φ))} = members := by simp
    rw [hnone]
    exact h
  | cons m ms ih =>
    have hcons : members ∪ {m' | m' ∈ m :: ms} = Insert.insert m members ∪ {m | m ∈ ms} := by
      ext m'
      simp only [Set.mem_union, Set.mem_ofPred_eq, List.mem_cons, Set.mem_insert_iff]
      tauto
    rw [hcons] at hapart ⊢
    apply ih
    · apply hf r members m h
      exact hapart.mono fun _ => Set.mem_union_left _
    · exact hapart

theorem Holds.withFree (h : r.Holds members) (ms : List (Metadata φ))
    (hapart : FiltersApart (· ∈ members ∪ {m | m ∈ ms})) :
    (r.withFree ms).Holds (members ∪ {m | m ∈ ms}) := by
  refine Holds.foldl ?_ h ms hapart
  intro r members m h hapart
  split
  · next hhas =>
    have hkey : m.name ∈ Dictionary.keys r.filters := by
      simpa [Dictionary.has, Dictionary.keys] using hhas
    obtain ⟨other, hother⟩ := Dictionary.mem_keys_iff.mp hkey
    exact h.insert_of_taken hother hapart
  · exact h.insert hapart

theorem Holds.withPlugins (h : r.Holds members) (plugins : Plugins φ)
    (hapart : FiltersApart (· ∈ members ∪ {m | m ∈ plugins.metadata})) :
    (r.withPlugins plugins).Holds (members ∪ {m | m ∈ plugins.metadata}) := by
  cases plugins with
  | error failure =>
    have hnone : members ∪ {m | m ∈ Plugins.metadata (.error failure : Plugins φ)} = members := by
      simp [Plugins.metadata]
    rw [hnone]
    exact h
  | ok plugins =>
    have hfold : r.withPlugins (.ok plugins) =
        (Plugins.metadata (.ok plugins)).foldl (fun r m => r.withPlugin (.metadata m)) r := by
      rw [Registry.withPlugins, Plugins.metadata, List.foldl_filterMap]
      congr 1
      funext r p
      cases p.2 <;> rfl
    rw [hfold]
    refine Holds.foldl ?_ h _ hapart
    intro r members m h hapart
    unfold Registry.withPlugin
    dsimp only
    split
    · next hknown =>
      obtain ⟨other, hother, -⟩ := Option.map_eq_some_iff.mp hknown
      exact h.insert_of_taken hother hapart
    · exact h.insert hapart

/-! ### Runs -/

/-- Whether a registry and a catalog have taken the same steps. -/
structure Matches (seen : Metadata φ → Prop) (r : Registry φ) (c : Catalog φ) : Prop where
  holds : r.Holds c.members
  initialized : r.initialized = c.isReady
  met : ∀ m ∈ c.members, seen m

section Run
variable {h : Host φ} {c : Catalog φ} (hapart : FiltersApart seen)
variable (hbuiltins : ∀ m ∈ h.builtins, seen m)
variable (hplugins : ∀ m ∈ Plugins.metadata h.plugins, seen m)
include hapart hplugins

theorem Matches.withPlugins (hr : Matches seen r c) :
    Matches seen (r.withPlugins h.plugins) (c.withPlugins h.plugins) := by
  have hmet : ∀ m ∈ c.members ∪ {m | m ∈ Plugins.metadata h.plugins}, seen m := by
    rintro m (hm | hm)
    · exact hr.met m hm
    · exact hplugins m hm
  refine ⟨hr.holds.withPlugins _ (hapart.mono hmet), ?_, hmet⟩
  rw [Host.initialized_withPlugins, hr.initialized]
  rfl

include hbuiltins

theorem Matches.readied (hr : Matches seen h.registry c) :
    Matches seen h.readied (c.readied h) := by
  unfold Host.readied Catalog.readied
  rw [hr.initialized]
  split
  · exact hr
  · apply Matches.withPlugins hapart hplugins
    have hmet : ∀ m ∈ c.members ∪ {m | m ∈ h.builtins}, seen m := by
      rintro m (hm | hm)
      · exact hr.met m hm
      · exact hbuiltins m hm
    refine ⟨hr.holds.initialized.withFree _ (hapart.mono hmet), ?_, hmet⟩
    rw [Host.initialized_withFree]

/-- Each operation is a step of the catalog. -/
theorem Matches.after (op : Operation φ) (hop : ∀ m, op = .register m → seen m)
    (hr : Matches seen h.registry c) : Matches seen (h.after op) (c.after h op) := by
  cases op with
  | register m =>
    have hmet : ∀ m' ∈ Insert.insert m c.members, seen m' := by
      rintro m' (rfl | hm')
      · exact hop m' rfl
      · exact hr.met m' hm'
    exact ⟨hr.holds.insert (hapart.mono hmet), hr.initialized, hmet⟩
  | unregister s =>
    refine ⟨hr.holds.without (hapart.mono hr.met) s, ?_, fun m hm => hr.met m hm.1⟩
    exact (initialized_without _ s).trans hr.initialized
  | discover => exact hr.withPlugins hapart hplugins
  | resolve _ | has _ | metadata _ | list _ => exact hr.readied hapart hbuiltins hplugins

theorem Matches.afterAll (ops : List (Operation φ)) (hops : ∀ m, .register m ∈ ops → seen m)
    (hr : Matches seen h.registry c) :
    Matches seen (h.afterAll ops).registry (c.afterAll h ops) := by
  induction ops generalizing h c with
  | nil => exact hr
  | cons op ops ih =>
    have hstep : Matches seen (h.after op) (c.after h op) :=
      hr.after hapart hbuiltins hplugins op fun m hm => hops m (hm ▸ List.mem_cons_self)
    refine ih (h := { h with registry := h.after op }) hbuiltins hplugins ?_ hstep
    exact fun m hm => hops m (List.mem_cons_of_mem op hm)

end Run

end Registry

/-! ### Answers -/

/-- What a host that stands for a set of filters answers. -/
structure Host.Answers {φ : Type} (h : Host φ) (members : Set (Metadata φ)) : Prop where
  finds : ∀ s m, h.Finds s m ↔ m ∈ members ∧ s ∈ m.spellings
  misses : ∀ s, h.Misses s ↔ ∀ m ∈ members, s ∉ m.spellings
  unique : ∀ s m m', h.Finds s m → m' ∈ members → s ∈ m'.spellings → m' = m
  resolves : ∀ s m, h.Finds s m → h.Turns (Host.resolve s) m.name h.readied
  keeps : ∀ s, h.Misses s → h.Turns (Host.resolve s) s h.readied
  lists : ∃ names, h.Turns (Host.list none) names h.readied ∧ names.Pairwise (· < ·) ∧
    (∀ s, s ∈ names ↔ ∃ m ∈ members, m.name = s) ∧
    ∀ tags, ∃ chosen, h.Turns (Host.list (some tags)) chosen h.readied ∧ chosen.Sublist names ∧
      ∀ s, s ∈ chosen ↔ ∃ m ∈ members, m.name = s ∧ ∃ t ∈ tags, t ∈ m.tags

theorem Registry.Holds.answers {φ : Type} {h : Host φ} {members : Set (Metadata φ)}
    (hr : h.readied.Holds members) (hapart : Registry.FiltersApart (· ∈ members)) :
    h.Answers members where
  finds s m := by rw [Host.finds_iff, hr.find?_eq_some hapart]
  misses s := by rw [Host.misses_iff, hr.find?_eq_none hapart]
  unique s m m' hfinds hm' hs' := by
    obtain ⟨hm, hs⟩ := (hr.find?_eq_some hapart).mp (Host.finds_iff.mp hfinds)
    exact hapart m' m s hm' hm hs' hs
  resolves s m hfinds := by
    rw [← hr.sound.name_eq (Host.finds_iff.mp hfinds)]
    exact h.resolve_turns s
  keeps s hmisses := by
    have hnone := (hr.find?_eq_none hapart).mp (Host.misses_iff.mp hmisses)
    have hself : h.readied.canonical s = s := by
      rcases hr.sound.canonical_cases s with hself | ⟨m, hm, halias, -⟩
      · exact hself
      · exact absurd (mem_spellings_of_alias halias) (hnone m hm)
    have hturns := h.resolve_turns s
    rwa [hself] at hturns
  lists := by
    refine ⟨_, h.list_turns none, strict_sorted hr.sound.nodup, fun s => hr.mem_names, ?_⟩
    intro tags
    exact ⟨_, h.list_turns (some tags), sublist_names _ tags, fun s => hr.mem_names_tagged⟩

/-- A registry whose filters have no spelling in common is a set of filters: after any sequence of
operations it answers as the set of those that were registered and not unregistered since, the
built-in filters and plugins being registered with the first lookup. A filter is unregistered under
any of its spellings and is the only one that the set then lacks; any other name changes nothing. -/
theorem registry_refines_catalog {φ : Type} (builtins : List (Metadata φ)) (plugins : Plugins φ)
    (ops : List (Registry.Operation φ)) (w : World)
    (hapart : Registry.FiltersApart (· ∈ (Host.mk builtins plugins .empty).met ops)) :
    let start : Host φ := ⟨builtins, plugins, .empty⟩
    let c := Catalog.empty.afterAll start ops
    ∃ h u, (merged (Host.performAll ops)).run (start, w) = (.ok (), (h, u)) ∧ w.OnlyLogged u ∧
      h.Answers (c.readied start).members ∧
      (c.isReady → (c.readied start).members = c.members ∧ h.readied = h.registry) ∧
      (∀ s, ∀ m ∈ c.members, s ∈ m.spellings →
        let rest := c.after start (.unregister s)
        ∃ r, h.Turns (Host.unregister s) true r ∧ rest.members = c.members \ {m} ∧
          Host.Answers { h with registry := r } (rest.readied start).members) ∧
      ∀ s, (∀ m ∈ c.members, s ∉ m.spellings) → h.Turns (Host.unregister s) false h.registry := by
  intro start c
  obtain ⟨u, hrun, hlogs⟩ := start.run_performAll ops w
  have hbuiltins (m : Metadata φ) (hm : m ∈ builtins) : m ∈ start.met ops :=
    Host.met_of_builtin hm
  have hplugins (m : Metadata φ) (hm : m ∈ Plugins.metadata plugins) : m ∈ start.met ops :=
    Host.met_of_plugin hm
  have hempty : Registry.Matches (· ∈ start.met ops) start.registry Catalog.empty :=
    ⟨.empty, rfl, fun _ hm => hm.elim⟩
  have hmatches : Registry.Matches (· ∈ start.met ops) (start.afterAll ops).registry c :=
    hempty.afterAll hapart hbuiltins hplugins ops fun m hm => Host.met_of_registered hm
  have hanswers {r : Registry φ} {c : Catalog φ} (hr : Registry.Matches (· ∈ start.met ops) r c) :
      Host.Answers { start with registry := r } (c.readied start).members := by
    have hready := hr.readied (h := { start with registry := r }) hapart hbuiltins hplugins
    exact hready.holds.answers (hapart.mono hready.met)
  let h : Host φ := { start with registry := (start.afterAll ops).registry }
  have hstarts : start.afterAll ops = h := (start.afterAll_eq ops).symm
  have hmembers : Registry.FiltersApart (· ∈ c.members) := hapart.mono hmatches.met
  rw [hstarts] at hrun
  refine ⟨h, u, hrun, hlogs, hanswers hmatches, ?_, ?_, ?_⟩
  · intro hready
    constructor
    · rw [Catalog.readied, if_pos hready]
    · rw [Host.readied, if_pos (hmatches.initialized.trans hready)]
  · intro s m hm hs rest
    have hfind : h.registry.find? s = some m := (hmatches.holds.find?_eq_some hmembers).mpr ⟨hm, hs⟩
    have hstep := hmatches.after (h := h) hapart hbuiltins hplugins (.unregister s)
      fun _ hm => by cases hm
    exact ⟨_, Host.unregister_turns_of_some hfind, hmembers.diff_spelled hm hs, hanswers hstep⟩
  · intro s hs
    exact Host.unregister_turns_of_none ((hmatches.holds.find?_eq_none hmembers).mpr hs)

theorem registry_refines_catalog_beside_builtins :
    let added := addedFilter ["y"]
    let ops := [.has "uml", .register added, .unregister "uml", .unregister "y", .register added]
    Registry.FiltersApart (· ∈ builtinHost.met ops) ∧
    ∃ h u, (merged (Host.performAll ops)).run (builtinHost, .initial ⟨[]⟩ "/") = (.ok (), (h, u)) ∧
      h.Finds "y" added ∧ h.Turns (Host.resolve "y") "x" h.registry ∧ h.Misses "plantuml" ∧
      h.Turns (Host.unregister "uml") false h.registry := by
  intro added ops
  have hmet : ∀ m ∈ builtinHost.met ops, m ∈ builtinHost.builtins ++ [added] := by
    simp [Host.met, Plugins.metadata, builtinHost, ops, Registry.Operation.given?]
  have hapart : Registry.FiltersApart (· ∈ builtinHost.met ops) :=
    (Registry.FiltersApart.of_pairwise (by decide)).mono hmet
  refine ⟨hapart, ?_⟩
  obtain ⟨h, u, hrun, -, hanswers, hready, -, hmissed⟩ :=
    registry_refines_catalog builtinHost.builtins (.ok []) ops (.initial ⟨[]⟩ "/") hapart
  let c := Catalog.empty.afterAll builtinHost ops
  have hadded : added ∈ c.members := Set.mem_insert added _
  have hgone : ∀ m ∈ c.members, "uml" ∉ m.spellings ∧ "plantuml" ∉ m.spellings := by
    have hbuiltins : ∀ m ∈ builtinHost.builtins, "uml" ∉ m.spellings → "plantuml" ∉ m.spellings := by
      decide
    have hx : "uml" ∉ added.spellings ∧ "plantuml" ∉ added.spellings := by decide
    rintro m (rfl | ⟨⟨rfl | (hm | hm) | hm, huml⟩, -⟩)
    · exact hx
    · exact hx
    · exact hm.elim
    · exact ⟨huml, hbuiltins m hm huml⟩
    · cases hm
  obtain ⟨hmembers, hreadied⟩ := hready rfl
  rw [hmembers] at hanswers
  have hfinds : h.Finds "y" added := (hanswers.finds "y" added).mpr ⟨hadded, by decide⟩
  have hresolves := hanswers.resolves "y" added hfinds
  rw [hreadied] at hresolves
  refine ⟨h, u, hrun, hfinds, hresolves, ?_, ?_⟩
  · exact (hanswers.misses "plantuml").mpr fun m hm => (hgone m hm).2
  · exact hmissed "uml" fun m hm => (hgone m hm).1

end DocFilter
