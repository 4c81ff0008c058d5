import DocFilter.Proofs.Registry.Names
import Mathlib.Data.List.Sort
import Mathlib.Data.String.Basic

/-!
# Looking up filters

What asking a host for a name tells, and how registering and removing a filter change the answers.
A name is looked up in two steps: what it stands for, and which filter is registered under that.
-/

namespace DocFilter

theorem sorted_perm (names : List String) : (sorted names).Perm names := List.mergeSort_perm names _

theorem mem_sorted {names : List String} {s : String} : s ∈ sorted names ↔ s ∈ names :=
  (sorted_perm names).mem_iff

theorem pairwise_sorted (names : List String) : (sorted names).Pairwise (· ≤ ·) := by
  have hle (a b : String) : (!decide (b < a)) = true ↔ a ≤ b := by
    rw [Bool.not_eq_true', decide_eq_false_iff_not, not_lt]
  have hsorted : (sorted names).Pairwise fun a b => (!decide (b < a)) = true := by
    apply List.pairwise_mergeSort
    · intro a b c hab hbc
      rw [hle] at hab hbc ⊢
      exact hab.trans hbc
    · intro a b
      rw [Bool.or_eq_true, hle, hle]
      exact le_total a b
  exact hsorted.imp fun hab => (hle _ _).mp hab

theorem strict_sorted {names : List String} (h : names.Nodup) :
    (sorted names).Pairwise (· < ·) := by
  have hnodup : (sorted names).Nodup := (sorted_perm names).nodup_iff.mpr h
  exact ((pairwise_sorted names).and hnodup).imp fun ⟨hle, hne⟩ => lt_of_le_of_ne hle hne

theorem sorted_sublist {few many : List String} (h : few.Sublist many) :
    (sorted few).Sublist (sorted many) := by
  have hsub : (sorted few).Subperm (sorted many) :=
    (sorted_perm few).subperm.trans (h.subperm.trans (sorted_perm many).symm.subperm)
  exact List.sublist_of_subperm_of_pairwise hsub (pairwise_sorted few) (pairwise_sorted many)

theorem sorted_filter (names : List String) (p : String → Bool) :
    sorted (names.filter p) = (sorted names).filter p := by
  have hperm : (sorted (names.filter p)).Perm ((sorted names).filter p) :=
    (sorted_perm _).trans ((sorted_perm names).filter p).symm
  exact hperm.eq_of_pairwise (fun a b _ _ => le_antisymm) (pairwise_sorted _)
    ((pairwise_sorted names).filter p)

namespace Metadata

/-- What a filter is asked for by: its name and its aliases. -/
def spellings {φ : Type} (m : Metadata φ) : List String := m.name :: m.aliases

end Metadata

namespace Registry
variable {φ : Type} {seen : Metadata φ → Prop} {r : Registry φ} {name s : String} {m : Metadata φ}

theorem without_of_none (h : r.find? name = none) : r.without name = r := by
  unfold without remove?
  dsimp only
  rw [show r.filters.lookup (r.canonical name) = none from h]
  rfl

theorem without_of_some (h : r.find? name = some m) : r.without name =
    { r with
      filters := Dictionary.erase r.filters (r.canonical name)
      aliases := m.aliases.foldl Dictionary.erase r.aliases } := by
  unfold without remove?
  dsimp only
  rw [show r.filters.lookup (r.canonical name) = some m from h]
  rfl

theorem isSome_remove? (r : Registry φ) (name : String) :
    (r.remove? name).isSome = (r.find? name).isSome :=
  Option.isSome_map

theorem Sound.name_eq (h : r.Sound seen) (hfind : r.find? name = some m) :
    r.canonical name = m.name :=
  (h.named _ m hfind).1.symm

theorem Sound.lookup_name (h : r.Sound seen) (hfind : r.find? name = some m) :
    r.filters.lookup m.name = some m := by
  rw [← h.name_eq hfind]
  exact hfind

theorem lookup_without (h : r.Sound seen) (hfind : r.find? name = some m) (s : String) :
    (r.without name).filters.lookup s = if s = m.name then none else r.filters.lookup s := by
  rw [without_of_some hfind, Dictionary.lookup_erase, h.name_eq hfind]
  by_cases hs : s = m.name
  · rw [if_pos hs, if_pos (beq_iff_eq.mpr hs)]
  · rw [if_neg hs, if_neg (mt beq_iff_eq.mp hs)]

theorem canonical_without (hfind : r.find? name = some m) (s : String) :
    (r.without name).canonical s = if s ∈ m.aliases then s else r.canonical s := by
  rw [without_of_some hfind]
  unfold canonical
  rw [Dictionary.lookup_foldl_erase_eq]
  split <;> rfl

/-- Once a filter is removed, its aliases stand for themselves, and every other name for what it
stood for; what that filter was registered under stands for nothing. -/
theorem find?_without (h : r.Sound seen) (hfind : r.find? name = some m) (s : String) :
    (r.without name).find? s =
      let c := if s ∈ m.aliases then s else r.canonical s
      if c = m.name then none else r.filters.lookup c := by
  rw [find?, lookup_without h hfind, canonical_without hfind]

theorem initialized_without (r : Registry φ) (name : String) :
    (r.without name).initialized = r.initialized := by
  cases hfind : r.find? name with
  | none => rw [without_of_none hfind]
  | some m => rw [without_of_some hfind]

end Registry

namespace Host
variable {φ : Type} {h : Host φ} {s : String} {m : Metadata φ}

theorem Turns.eq {α : Type} {x : Act (Host φ) α} {a b : α} {r r' : Registry φ}
    (hx : h.Turns x a r) (hx' : h.Turns x b r') : a = b ∧ r = r' := by
  obtain ⟨u, hrun, -⟩ := hx (.initial ⟨[]⟩ "/")
  obtain ⟨u', hrun', -⟩ := hx' (.initial ⟨[]⟩ "/")
  rw [hrun] at hrun'
  cases hrun'
  exact ⟨rfl, rfl⟩

/-- Whether a name or alias is answered with certain metadata. -/
structure Finds (h : Host φ) (s : String) (m : Metadata φ) : Prop where
  has : h.Turns (Host.has s) true h.readied
  metadata : h.Turns (Host.metadata s) m h.readied

/-- Whether nothing is known under a name. -/
structure Misses (h : Host φ) (s : String) : Prop where
  has : h.Turns (Host.has s) false h.readied
  metadata : h.Turns (Host.metadata s).attempt
    (.error (.unknownFilter s (h.readied.names none))) h.readied

theorem finds_iff : h.Finds s m ↔ h.readied.find? s = some m := by
  constructor
  · intro hfinds
    have hanswer := h.attempt_metadata_turns s
    obtain ⟨houtcome, -⟩ := hanswer.eq hfinds.metadata.attempt
    cases hfind : h.readied.find? s with
    | none =>
      rw [hfind] at houtcome
      cases houtcome
    | some other =>
      rw [hfind] at houtcome
      cases houtcome
      rfl
  · intro hfind
    have hhas := h.has_turns s
    rw [hfind] at hhas
    exact ⟨hhas, h.metadata_turns hfind⟩

theorem misses_iff : h.Misses s ↔ h.readied.find? s = none := by
  constructor
  · intro hmisses
    obtain ⟨hhas, -⟩ := (h.has_turns s).eq hmisses.has
    exact Option.isSome_eq_false_iff.mp hhas |> Option.isNone_iff_eq_none.mp
  · intro hfind
    have hhas := h.has_turns s
    have hmetadata := h.attempt_metadata_turns s
    rw [hfind] at hhas hmetadata
    exact ⟨hhas, hmetadata⟩

theorem unregister_turns_of_some (hfind : h.registry.find? s = some m) :
    h.Turns (unregister s) true (h.registry.without s) := by
  have hturns := h.unregister_turns s
  rw [Registry.isSome_remove?, hfind] at hturns
  exact hturns

theorem unregister_turns_of_none (hfind : h.registry.find? s = none) :
    h.Turns (unregister s) false h.registry := by
  have hturns := h.unregister_turns s
  rw [Registry.isSome_remove?, hfind, Registry.without_of_none hfind] at hturns
  exact hturns

theorem builtins_afterAll (h : Host φ) (ops : List (Registry.Operation φ)) :
    (h.afterAll ops).builtins = h.builtins := by
  rw [← h.afterAll_eq]

theorem plugins_afterAll (h : Host φ) (ops : List (Registry.Operation φ)) :
    (h.afterAll ops).plugins = h.plugins := by
  rw [← h.afterAll_eq]

section Met
variable {ops : List (Registry.Operation φ)}

theorem met_of_builtin (hm : m ∈ h.builtins) : m ∈ h.met ops :=
  List.mem_append_left _ (List.mem_append_left _ hm)

theorem met_of_plugin (hm : m ∈ Plugins.metadata h.plugins) : m ∈ h.met ops :=
  List.mem_append_left _ (List.mem_append_right _ hm)

theorem met_of_registered (hm : .register m ∈ ops) : m ∈ h.met ops :=
  List.mem_append_right _ (List.mem_filterMap.mpr ⟨_, hm, rfl⟩)

theorem kept_afterAll {kept : Registry φ → Prop} (hkept : Registry.Kept (· ∈ h.met ops) kept)
    (hr : kept h.registry) : kept (h.afterAll ops).registry := by
  refine hkept.afterAll ?_ ?_ ?_ hr
  · exact fun m hm => met_of_builtin hm
  · exact fun m hm => met_of_plugin hm
  · exact fun m hm => met_of_registered hm

/-- What registering and removing filters keep holds of whatever is looked up after a sequence of
operations. -/
theorem kept_readied_afterAll {kept : Registry φ → Prop}
    (hkept : Registry.Kept (· ∈ h.met ops) kept) (hr : kept h.registry) :
    kept (h.afterAll ops).readied := by
  refine hkept.readied ?_ ?_ (kept_afterAll hkept hr)
  · rw [builtins_afterAll]
    exact fun m hm => met_of_builtin hm
  · rw [plugins_afterAll]
    exact fun m hm => met_of_plugin hm

end Met

end Host

end DocFilter
