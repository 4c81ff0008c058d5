import DocFilter.Proofs.Registry.Lookup

/-!
# Unregistering a filter

Removing a filter takes it out of the listing and makes every alias that its metadata declare stand
for itself. As long as filters of different names share no spelling, exactly the spellings of the
removed filter are gone, those of metadata that it replaced included, and all other filters stay
where they were.

An alias that the removed filter shares with another one is lost for both, and the registry does not
remember who else declared it.
-/

namespace DocFilter

theorem Dictionary.keys_erase {κ α : Type} [BEq κ] (d : List (κ × α)) (key : κ) :
    keys (erase d key) = (keys d).filter fun k => !(k == key) := by
  unfold keys erase
  rw [List.filter_map]
  rfl

namespace Registry
variable {φ : Type} {seen : Metadata φ → Prop} {r : Registry φ} {n s : String}
variable {m other : Metadata φ}

/-- Whether metadata that share a spelling have the same name. -/
def NamesApart (seen : Metadata φ → Prop) : Prop :=
  ∀ m m' s, seen m → seen m' → s ∈ m.spellings → s ∈ m'.spellings → m.name = m'.name

/-- Whether each alias that a registered filter declares stands for that filter. -/
def Declares (r : Registry φ) : Prop :=
  ∀ name m, r.filters.lookup name = some m → ∀ s ∈ m.aliases, r.aliases.lookup s = some name

theorem mem_spellings_of_alias (h : s ∈ m.aliases) : s ∈ m.spellings := List.mem_cons_of_mem _ h

theorem name_mem_spellings (m : Metadata φ) : m.name ∈ m.spellings := List.mem_cons_self

namespace NamesApart
variable (hapart : NamesApart seen)
include hapart

theorem declares_insert (hr : r.Sound seen) (hdeclares : r.Declares) (hm : seen m) :
    (r.insert m).Declares := by
  intro name m' hlookup s hs
  rw [insert, Dictionary.lookup_foldl_set_eq]
  rw [insert, Dictionary.lookup_set] at hlookup
  split at hlookup
  · next hname =>
    cases hlookup
    rw [if_pos hs, eq_of_beq hname]
  · obtain ⟨rfl, hm'⟩ := hr.named name m' hlookup
    by_cases hshared : s ∈ m.aliases
    · have hname := hapart m m' s hm hm' (mem_spellings_of_alias hshared) (mem_spellings_of_alias hs)
      rw [if_pos hshared, hname]
    · rw [if_neg hshared]
      exact hdeclares _ m' hlookup s hs

theorem declares_without (hr : r.Sound seen) (hdeclares : r.Declares) (n : String) :
    (r.without n).Declares := by
  cases hfind : r.find? n with
  | none =>
    rw [without_of_none hfind]
    exact hdeclares
  | some m =>
    intro name m' hlookup s hs
    rw [lookup_without hr hfind] at hlookup
    split at hlookup
    · cases hlookup
    · next hne =>
      obtain ⟨rfl, hm'⟩ := hr.named name m' hlookup
      rw [without_of_some hfind, Dictionary.lookup_foldl_erase_eq, if_neg]
      · exact hdeclares _ m' hlookup s hs
      · intro hshared
        have hm := (hr.named _ m hfind).2
        exact hne (hapart m' m s hm' hm (mem_spellings_of_alias hs) (mem_spellings_of_alias hshared))

theorem kept_declares : Kept seen fun r => r.Sound seen ∧ r.Declares where
  insert _ _ hm h := ⟨h.1.insert hm, hapart.declares_insert h.1 h.2 hm⟩
  without _ n h := ⟨h.1.without n, hapart.declares_without h.1 h.2 n⟩
  initialized _ h := ⟨h.1.initialized, h.2⟩

/-- A registered filter is found under each of its spellings. -/
theorem find?_of_mem_spellings (hr : r.Sound seen) (hdeclares : r.Declares)
    (hm : r.filters.lookup m.name = some m) (hs : s ∈ m.spellings) : r.find? s = some m := by
  have hcanonical : r.canonical s = m.name := by
    rcases List.mem_cons.mp hs with rfl | halias
    · rcases hr.canonical_cases m.name with hself | ⟨other, hother, halias, hcanonical⟩
      · exact hself
      · have hseen := (hr.named _ m hm).2
        have hname := hapart other m m.name hother hseen (mem_spellings_of_alias halias)
          (name_mem_spellings m)
        exact hcanonical.trans hname
    · rw [canonical, hdeclares _ m hm s halias, Option.getD_some]
  rw [find?, hcanonical, hm]

end NamesApart

/-! ### What a removal leaves -/

section Removal
variable (hr : r.Sound seen) (hfind : r.find? n = some m)
include hr hfind

/-- Whatever is found after a removal is another registered filter that has the name or the alias,
or had it before it was replaced. -/
theorem of_find?_without (hother : (r.without n).find? s = some other) :
    other.name ≠ m.name ∧ r.filters.lookup other.name = some other ∧ seen other ∧
      (s ∈ m.aliases → other.name = s) ∧
      (s ∈ other.spellings ∨ ∃ former, seen former ∧ former.name = other.name ∧ s ∈ former.aliases) := by
  rw [find?_without hr hfind] at hother
  dsimp only at hother
  generalize hc : (if s ∈ m.aliases then s else r.canonical s) = c at hother
  split at hother
  · cases hother
  · next hne =>
    obtain ⟨rfl, hseen⟩ := hr.named c other hother
    refine ⟨hne, hother, hseen, ?_, ?_⟩
    · intro hs
      rw [← hc, if_pos hs]
    · split at hc
      · exact .inl (hc ▸ name_mem_spellings other)
      · rcases hr.canonical_cases s with hself | ⟨former, hformer, halias, hcanonical⟩
        · rw [hself] at hc
          exact .inl (hc ▸ name_mem_spellings other)
        · exact .inr ⟨former, hformer, hcanonical.symm.trans hc, halias⟩

theorem find?_without_of_ne (hother : r.find? s = some other) (hne : other.name ≠ m.name)
    (hs : s ∉ m.aliases ∨ s = other.name) : (r.without n).find? s = some other := by
  have hcanonical := hr.name_eq hother
  have hlookup := hr.lookup_name hother
  have hstands : (if s ∈ m.aliases then s else r.canonical s) = other.name := by
    split
    · next hshared => exact hs.resolve_left (not_not_intro hshared)
    · exact hcanonical
  rw [find?_without hr hfind]
  dsimp only
  rw [hstands, if_neg hne, hlookup]

theorem names_without :
    (r.without n).names none = (r.names none).filter (· != m.name) := by
  rw [without_of_some hfind, names, names, Dictionary.keys_erase, hr.name_eq hfind]
  exact sorted_filter _ _

theorem NamesApart.find?_without_eq_none (hapart : NamesApart seen) {former : Metadata φ}
    (hformer : seen former) (hname : former.name = m.name) (hs : s ∈ former.spellings) :
    (r.without n).find? s = none := by
  cases hother : (r.without n).find? s with
  | none => rfl
  | some other =>
    obtain ⟨hne, -, hseen, -, hspelled⟩ := of_find?_without hr hfind hother
    exfalso
    apply hne
    rw [← hname]
    rcases hspelled with hspelled | ⟨earlier, hearlier, hsame, halias⟩
    · exact hapart other former s hseen hformer hspelled hs
    · rw [← hsame]
      exact hapart earlier former s hearlier hformer (mem_spellings_of_alias halias) hs

theorem NamesApart.find?_without_of_registered (hapart : NamesApart seen) (hdeclares : r.Declares)
    (hother : r.filters.lookup other.name = some other) (hne : other.name ≠ m.name)
    (hs : s ∈ other.spellings) : (r.without n).find? s = some other := by
  have hfound := hapart.find?_of_mem_spellings hr hdeclares hother hs
  apply find?_without_of_ne hr hfind hfound hne
  left
  intro hshared
  have hm := (hr.named _ m hfind).2
  have hseen := (hr.named _ other hother).2
  exact hne (hapart other m s hseen hm hs (mem_spellings_of_alias hshared))

end Removal

end Registry

/-! ### Hosts after a removal -/

namespace Host
variable {φ : Type} {seen : Metadata φ → Prop} {h : Host φ} {n s : String} {m other : Metadata φ}

theorem readied_without (h : Host φ) (n : String) :
    { h with registry := h.readied.without n }.readied = h.readied.without n := by
  apply if_pos
  rw [Registry.initialized_without]
  exact h.initialized_readied

theorem finds_without : { h with registry := h.readied.without n }.Finds s other ↔
    (h.readied.without n).find? s = some other := by
  rw [finds_iff, readied_without]

theorem misses_without : { h with registry := h.readied.without n }.Misses s ↔
    (h.readied.without n).find? s = none := by
  rw [misses_iff, readied_without]

theorem list_turns_without (hr : h.readied.Sound seen) (hfind : h.readied.find? n = some m) :
    { h with registry := h.readied.without n }.Turns (list none)
      ((h.readied.names none).filter (· != m.name)) (h.readied.without n) := by
  have hturns := { h with registry := h.readied.without n }.list_turns none
  rw [readied_without, Registry.names_without hr hfind] at hturns
  exact hturns

/-- After a removal nothing is found under a name, or another filter that was listed before. -/
theorem misses_or_finds_without (hr : h.readied.Sound seen) (hfind : h.readied.find? n = some m)
    (s : String) :
    { h with registry := h.readied.without n }.Misses s ∨
    ∃ other, { h with registry := h.readied.without n }.Finds s other ∧ other.name ≠ m.name ∧
      other.name ∈ h.readied.names none ∧ (s ∈ m.aliases → other.name = s) ∧
      (s ∈ other.spellings ∨ ∃ former, seen former ∧ former.name = other.name ∧ s ∈ former.aliases) := by
  cases hother : (h.readied.without n).find? s with
  | none => exact .inl (misses_without.mpr hother)
  | some other =>
    right
    obtain ⟨hne, hlisted, -, hshared, hspelled⟩ := Registry.of_find?_without hr hfind hother
    refine ⟨other, finds_without.mpr hother, hne, ?_, hshared, hspelled⟩
    exact mem_sorted.mpr (Dictionary.mem_keys_iff.mpr ⟨other, hlisted⟩)

end Host

/-- After any sequence of operations, a filter that is found under a name or alias is unregistered
under it. It is no longer listed, and all others are. What is found afterwards under any name is
another filter, with that spelling or replacing one that had it; and every other filter is still
found where it was found, except under an alias that the removed filter declares too. So if only
metadata of one name share spellings, then all spellings of the removed filter and of those that it
replaced are gone, and every other filter is found under all of its own. Without a lookup before it,
a filter is unregistered if and only if it was registered so far. -/
theorem unregister_removes_one_filter {φ : Type} (builtins : List (Metadata φ))
    (plugins : Plugins φ) (ops : List (Registry.Operation φ)) (w : World) :
    let start : Host φ := ⟨builtins, plugins, .empty⟩
    ∃ h u, (merged (Host.performAll ops)).run (start, w) = (.ok (), (h, u)) ∧ w.OnlyLogged u ∧
      (∀ n, h.Turns (Host.unregister n) (h.registry.find? n).isSome (h.registry.without n)) ∧
      ∀ n m, h.Finds n m →
        let ready : Host φ := { h with registry := h.readied }
        let rest : Host φ := { h with registry := h.readied.without n }
        ready.Turns (Host.unregister n) true rest.registry ∧
        rest.Turns (Host.list none) ((h.readied.names none).filter (· != m.name)) rest.registry ∧
        (∀ s, rest.Misses s ∨ ∃ other, rest.Finds s other ∧ other.name ≠ m.name ∧
          other.name ∈ h.readied.names none ∧ (s ∈ m.aliases → other.name = s) ∧
          (s ∈ other.spellings ∨
            ∃ former ∈ start.met ops, former.name = other.name ∧ s ∈ former.aliases)) ∧
        (∀ s other, h.Finds s other → other.name ≠ m.name → s ∉ m.aliases ∨ s = other.name →
          rest.Finds s other) ∧
        (Registry.NamesApart (· ∈ start.met ops) →
          (∀ former ∈ start.met ops, former.name = m.name → ∀ s ∈ former.spellings,
            rest.Misses s) ∧
          ∀ other, h.Finds other.name other → other.name ≠ m.name → ∀ s ∈ other.spellings,
            rest.Finds s other) := by
  intro start
  obtain ⟨u, hrun, hlogs⟩ := start.run_performAll ops w
  refine ⟨start.afterAll ops, u, hrun, hlogs, ?_, ?_⟩
  · intro n
    rw [← Registry.isSome_remove?]
    exact Host.unregister_turns _ n
  intro n m hfinds ready rest
  have hsound : (start.afterAll ops).readied.Sound (· ∈ start.met ops) :=
    Host.kept_readied_afterAll (Registry.kept_sound _) (.empty _)
  have hfind := Host.finds_iff.mp hfinds
  refine ⟨?_, ?_, ?_, ?_, ?_⟩
  · exact Host.unregister_turns_of_some (h := ready) hfind
  · exact Host.list_turns_without hsound hfind
  · exact Host.misses_or_finds_without hsound hfind
  · intro s other hother hne hs
    exact Host.finds_without.mpr
      (Registry.find?_without_of_ne hsound hfind (Host.finds_iff.mp hother) hne hs)
  · intro hapart
    obtain ⟨-, hdeclares⟩ : (start.afterAll ops).readied.Sound (· ∈ start.met ops) ∧
        (start.afterAll ops).readied.Declares :=
      Host.kept_readied_afterAll hapart.kept_declares ⟨.empty _, fun _ _ h => by cases h⟩
    constructor
    · intro former hformer hname s hs
      exact Host.misses_without.mpr
        (hapart.find?_without_eq_none hsound hfind hformer hname hs)
    · intro other hother hne s hs
      have hlisted := hsound.lookup_name (Host.finds_iff.mp hother)
      exact Host.finds_without.mpr
        (hapart.find?_without_of_registered hsound hfind hdeclares hlisted hne hs)

theorem unregister_removes_one_filter_beside_builtins :
    let added := addedFilter ["y"]
    let ops := [.register (addedFilter ["was"]), .register added, .has "y"]
    Registry.NamesApart (· ∈ builtinHost.met ops) ∧
    ∃ h u, (merged (Host.performAll ops)).run (builtinHost, .initial ⟨[]⟩ "/") = (.ok (), (h, u)) ∧
      h.Finds "y" added ∧ h.Turns (Host.unregister "y") true (h.registry.without "y") ∧
      let rest : Host Builtin := { h with registry := h.readied.without "y" }
      rest.Misses "x" ∧ rest.Misses "y" ∧ rest.Misses "was" ∧
      rest.Finds "uml" (Builtin.metadata id .diagram) := by
  intro added ops
  have hapart : ∀ m ∈ builtinHost.met ops, ∀ m' ∈ builtinHost.met ops, ∀ s ∈ m.spellings,
      s ∈ m'.spellings → m.name = m'.name := by decide
  have hnames : Registry.NamesApart (· ∈ builtinHost.met ops) :=
    fun m m' s hm hm' hs => hapart m hm m' hm' s hs
  refine ⟨hnames, ?_⟩
  obtain ⟨h, u, hrun, -, hunregister, hremoved⟩ :=
    unregister_removes_one_filter builtinHost.builtins (.ok []) ops (.initial ⟨[]⟩ "/")
  obtain ⟨u', hafter, -⟩ := builtinHost.run_performAll ops (.initial ⟨[]⟩ "/")
  obtain rfl : builtinHost.afterAll ops = h := by
    have hsame := hafter.symm.trans hrun
    injection hsame with _ hsame
    injection hsame
  have hadded : (builtinHost.afterAll ops).Finds "y" added := Host.finds_iff.mpr rfl
  have hdiagram : (builtinHost.afterAll ops).Finds "plantuml" (Builtin.metadata id .diagram) :=
    Host.finds_iff.mpr rfl
  obtain ⟨-, -, -, -, hgone⟩ := hremoved "y" added hadded
  obtain ⟨hmissed, hkept⟩ := hgone hnames
  have hmet : added ∈ builtinHost.met ops :=
    Host.met_of_registered (List.mem_cons_of_mem _ List.mem_cons_self)
  have hformer : addedFilter ["was"] ∈ builtinHost.met ops :=
    Host.met_of_registered List.mem_cons_self
  refine ⟨_, u, hrun, hadded, hunregister "y", ?_, ?_, ?_, ?_⟩
  · exact hmissed added hmet rfl "x" (by decide)
  · exact hmissed added hmet rfl "y" (by decide)
  · exact hmissed (addedFilter ["was"]) hformer rfl "was" (by decide)
  · exact hkept _ hdiagram (by decide) "uml" (by decide)

/-- Of two filters with one alias, the first is unregistered and takes the alias of the second. -/
theorem shared_alias_is_lost :
    let other : Metadata Builtin := { addedFilter ["y"] with identity := 10, name := "z" }
    let ops := [.register (addedFilter ["y"]), .register other]
    ∃ h u, (merged (Host.performAll ops)).run (builtinHost, .initial ⟨[]⟩ "/") = (.ok (), (h, u)) ∧
      h.Finds "x" (addedFilter ["y"]) ∧ h.Finds "y" other ∧
      let rest : Host Builtin := { h with registry := h.registry.without "x" }
      h.Turns (Host.unregister "x") true rest.registry ∧ rest.Finds "z" other ∧ rest.Misses "y" := by
  intro other ops
  obtain ⟨u, hrun, -⟩ := builtinHost.run_performAll ops (.initial ⟨[]⟩ "/")
  have hadded : (builtinHost.afterAll ops).registry.find? "x" = some (addedFilter ["y"]) := rfl
  refine ⟨_, u, hrun, Host.finds_iff.mpr rfl, Host.finds_iff.mpr rfl, ?_, ?_, ?_⟩
  · exact Host.unregister_turns_of_some hadded
  · exact Host.finds_iff.mpr rfl
  · exact Host.misses_iff.mpr (Option.isNone_iff_eq_none.mp (by decide +kernel))

end DocFilter
