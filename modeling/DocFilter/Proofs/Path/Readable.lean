import DocFilter.Proofs.Disk
import DocFilter.Proofs.Path.Canonical
import DocFilter.Proofs.World
import Mathlib.Data.Set.Card

/-!
# Readable paths

The canonical paths at which text can be read. Such a path leads to the place that its steps name,
so there are at most two for each entry of the disk, one for each root.
-/

namespace DocFilter

namespace Disk

/-- Steps that do not go up lead to the place that they name. -/
theorem moves_eq_append {names : List String} (hup : ∀ s ∈ names, s ≠ "..") (here : Place) :
    names.foldl move here = here ++ names.filter fun s => s != "" && s != "." := by
  induction names generalizing here with
  | nil => simp
  | cons name rest ih =>
    have hmove : move here name = here ++ [name].filter fun s => s != "" && s != "." := by
      unfold move
      rw [if_neg (hup name List.mem_cons_self)]
      split
      · next hstay => rcases Bool.or_eq_true_iff.mp hstay with hname | hname <;> simp_all
      · next hdown =>
        have hkept : (name != "" && name != ".") = true := by simpa using hdown
        rw [List.filter_cons, if_pos hkept]
        rfl
    have hrest := ih (fun s hs => hup s (List.mem_cons_of_mem _ hs)) (move here name)
    rw [List.foldl_cons, hrest, hmove, List.append_assoc, ← List.filter_append,
      List.singleton_append]

/-- A canonical path leads to the place that its steps name. -/
theorem target_of_isCanonical {p : String} (hp : Path.IsCanonical p) (cwd : Place) :
    target cwd p = Path.steps p := by
  have hup : ∀ s ∈ splitAtChar '/' p, s ≠ ".." := by
    rintro s hs rfl
    have hstep : ".." ∈ Path.steps p := List.mem_filter.mpr ⟨hs, rfl⟩
    exact (hp.steps_plain _ hstep).ne_parent rfl
  rw [target, hp.isAbsolute, if_pos rfl, moves_eq_append hup, List.nil_append]
  rfl

theorem mem_entries_of_read {d : Disk} {cwd : Place} {p : String} {content : List UInt8}
    (hp : Path.IsCanonical p) (h : d.read cwd p = .ok content) :
    ∃ e ∈ d.entries, e.1 = Path.steps p := by
  obtain ⟨place, hplace, hfind⟩ := exists_place_of_read h
  obtain rfl : place = Path.steps p :=
    (locate_eq_target hplace).trans (target_of_isCanonical hp cwd)
  unfold find? at hfind
  split at hfind
  · cases hfind
  · obtain ⟨before, after, hentries, -⟩ := List.lookup_eq_some_iff.mp hfind
    exact ⟨(Path.steps p, .file content), by simp [hentries], rfl⟩

end Disk

/-- The canonical paths at which text can be read. -/
def readablePaths (w : World) : Set String :=
  {p | Path.IsCanonical p ∧ ∃ text, ((Run.readText p).run w).1 = .ok text}

theorem mem_readablePaths {w : World} {p : String} :
    p ∈ readablePaths w ↔ Path.IsCanonical p ∧ ∃ text, w.textAt p = .ok text := by
  unfold readablePaths
  rw [Set.mem_ofPred_eq, (run_readText p w).1]

/-- The two canonical paths to each entry. -/
def spelledEntries (d : Disk) : List String :=
  d.entries.flatMap fun e => [Path.spell "/" e.1, Path.spell "//" e.1]

theorem readablePaths_subset (w : World) :
    readablePaths w ⊆ ((spelledEntries w.disk).toFinset : Set String) := by
  intro p hp
  obtain ⟨hcanonical, text, htext⟩ := mem_readablePaths.mp hp
  have hread : ∃ bytes, w.disk.read w.here p = .ok bytes := by
    unfold World.textAt at htext
    split at htext
    · cases htext
    · split at htext
      · cases htext
      · next bytes hbytes => exact ⟨bytes, hbytes⟩
  obtain ⟨bytes, hbytes⟩ := hread
  obtain ⟨e, he, hsteps⟩ := Disk.mem_entries_of_read hcanonical hbytes
  rw [Finset.mem_coe, List.mem_toFinset]
  refine List.mem_flatMap.mpr ⟨e, he, ?_⟩
  rw [hsteps]
  have hspell := hcanonical.eq_spell
  rcases Path.isRoot_root hcanonical.isAbsolute with hroot | hroot <;>
  · rw [hroot] at hspell
    simp [← hspell]

theorem finite_readablePaths (w : World) : (readablePaths w).Finite :=
  (Finset.finite_toSet _).subset (readablePaths_subset w)

theorem ncard_readablePaths_le (w : World) :
    (readablePaths w).ncard ≤ 2 * w.disk.entries.length := by
  calc (readablePaths w).ncard
      ≤ ((spelledEntries w.disk).toFinset : Set String).ncard :=
        Set.ncard_le_ncard (readablePaths_subset w) (Finset.finite_toSet _)
    _ = (spelledEntries w.disk).toFinset.card := Set.ncard_coe_finset _
    _ ≤ (spelledEntries w.disk).length := List.toFinset_card_le _
    _ = 2 * w.disk.entries.length := by
        simp [spelledEntries, List.length_flatMap, Nat.mul_comm]

end DocFilter
