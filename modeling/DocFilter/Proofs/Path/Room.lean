import DocFilter.Proofs.Disk
import DocFilter.Proofs.Path.Parents

/-!
# Paths that are too long

The files cannot be asked about a path that is too long as a whole or in one of its parts. Going up
makes no path longer, and joining a name adds little, so below a path with room for one more name no
path of this kind is met on the way up.
-/

namespace DocFilter

namespace Disk
variable {d : Disk} {cwd here next place : Place} {name p : String} {names : List String}

/-- A step that leads somewhere is not too long. -/
theorem size_le_of_step (h : d.step here name = .ok next) : name.utf8ByteSize ≤ 255 := by
  unfold step at h
  split at h
  · cases h
  · cases h
  split at h
  · next hstay =>
    rcases Bool.or_eq_true_iff.mp hstay with hname | hname
    · rw [decide_eq_true_iff.mp hname]
      decide
    · rw [decide_eq_true_iff.mp hname]
      decide
  split at h
  · next hup =>
    rw [hup]
    decide
  split at h
  · cases h
  · next hshort => exact Nat.not_lt.mp hshort

theorem size_le_of_steps (h : names.foldlM d.step here = .ok place) :
    ∀ s ∈ names, s.utf8ByteSize ≤ 255 := by
  induction names generalizing here with
  | nil => simp
  | cons name names ih =>
    rw [List.foldlM_cons] at h
    obtain ⟨next, hfirst, hrest⟩ := bind_eq_ok h
    rw [List.forall_mem_cons]
    exact ⟨size_le_of_step hfirst, ih hrest⟩

theorem size_gt_of_step (h : d.step here name = .error .nameTooLong) :
    255 < name.utf8ByteSize := by
  unfold step at h
  grind

theorem size_gt_of_steps (h : names.foldlM d.step here = .error .nameTooLong) :
    ∃ s ∈ names, 255 < s.utf8ByteSize := by
  induction names generalizing here with
  | nil => cases h
  | cons name names ih =>
    rw [List.foldlM_cons] at h
    rcases bind_eq_error h with hfirst | ⟨place, -, hrest⟩
    · exact ⟨name, List.mem_cons_self, size_gt_of_step hfirst⟩
    · obtain ⟨s, hs, hlong⟩ := ih hrest
      exact ⟨s, List.mem_cons_of_mem name hs, hlong⟩

/-- A path that is too long to be followed is so as a whole or in a part. -/
theorem size_gt_of_locate (h : d.locate cwd p = .error .nameTooLong) :
    4096 ≤ p.utf8ByteSize ∨ ∃ s ∈ splitAtChar '/' p, 255 < s.utf8ByteSize := by
  unfold locate at h
  split at h
  · cases h
  split at h
  · next hsize => exact .inl hsize
  · exact .inr (size_gt_of_steps h)

theorem locate_of_size (h : 4096 ≤ p.utf8ByteSize) (d : Disk) (cwd : Place) :
    d.locate cwd p = .error .nameTooLong := by
  have hne : p ≠ "" := by
    rintro rfl
    exact absurd h (by decide)
  rw [locate, if_neg hne, if_pos h]

end Disk

namespace Path
variable {p s directory name : String}

/-- Whether there is room for a slash and a name of fourteen bytes below a path, in which every step
is a name that a file can have. -/
structure HasRoom (p : String) : Prop where
  size : p.utf8ByteSize + 15 < 4096
  steps : ∀ s ∈ steps p, s.utf8ByteSize ≤ 255

/-- A path that leads somewhere has room for a name, unless it is almost too long as a whole. -/
theorem hasRoom_of_locate {d : Disk} {cwd place : Place} (h : d.locate cwd p = .ok place)
    (hsize : p.utf8ByteSize + 15 < 4096) : HasRoom p := by
  refine ⟨hsize, fun s hs => ?_⟩
  unfold Disk.locate at h
  split at h
  · cases h
  split at h
  · cases h
  · exact Disk.size_le_of_steps h s (List.mem_filter.mp hs).1

theorem mem_steps_of_long (hs : s ∈ splitAtChar '/' p) (hlong : 255 < s.utf8ByteSize) :
    s ∈ steps p := by
  refine List.mem_filter.mpr ⟨hs, ?_⟩
  have hempty : s ≠ "" := by
    rintro rfl
    exact absurd hlong (by decide)
  have hdot : s ≠ "." := by
    rintro rfl
    exact absurd hlong (by decide)
  simp [hempty, hdot]

/-- The parts of a name put below a directory are those of the directory, and the name. -/
theorem mem_splitAtChar_join (habs : isAbsolute name = false)
    (hname : splitAtChar '/' name = [name]) (hs : s ∈ splitAtChar '/' (join directory name)) :
    s ∈ splitAtChar '/' directory ∨ s = name := by
  rw [join, habs, if_neg Bool.false_ne_true] at hs
  split at hs
  · next hend =>
    rcases Bool.or_eq_true_iff.mp hend with hempty | hslash
    · rw [decide_eq_true_iff.mp hempty, String.empty_append, hname] at hs
      exact .inr (List.mem_singleton.mp hs)
    · obtain ⟨front, rfl⟩ := exists_eq_append_slash (beq_iff_eq.mp hslash)
      rw [splitAtChar_append, hname] at hs
      rw [splitAtChar_append_slash_end]
      rcases List.mem_append.mp hs with hs | hs
      · exact .inl (List.mem_append_left _ hs)
      · exact .inr (List.mem_singleton.mp hs)
  · rw [splitAtChar_append, hname] at hs
    rcases List.mem_append.mp hs with hs | hs
    · exact .inl hs
    · exact .inr (List.mem_singleton.mp hs)

theorem size_join_le (habs : isAbsolute name = false) :
    (join directory name).utf8ByteSize ≤ directory.utf8ByteSize + 1 + name.utf8ByteSize := by
  rw [join, habs, if_neg Bool.false_ne_true]
  split
  · rw [String.utf8ByteSize_append]
    omega
  · rw [String.utf8ByteSize_append, String.utf8ByteSize_append]
    exact le_rfl

theorem size_directory_le (p : String) : (Path.directory p).utf8ByteSize ≤ p.utf8ByteSize := by
  obtain ⟨rest, hrest⟩ := exists_eq_directory_append p
  have hsize := congrArg String.utf8ByteSize hrest
  rw [String.utf8ByteSize_append] at hsize
  omega

theorem size_directory_iterate_le (p : String) (level : Nat) :
    (Path.directory^[level] p).utf8ByteSize ≤ p.utf8ByteSize := by
  induction level with
  | zero => exact le_rfl
  | succ level ih =>
    rw [Function.iterate_succ_apply']
    exact (size_directory_le _).trans ih

/-- Where there is room, the files can be asked about a short name in every directory above. -/
theorem HasRoom.not_refusesToLook (hroom : HasRoom p) (h : IsCanonical p) (level : Nat)
    (habs : isAbsolute name = false) (hname : splitAtChar '/' name = [name])
    (hshort : name.utf8ByteSize ≤ 14) (d : Disk) (cwd : Place) :
    d.locate cwd (join (Path.directory^[level] p) name) ≠ .error .nameTooLong := by
  intro hlocate
  have hsize := hroom.size
  rcases Disk.size_gt_of_locate hlocate with hlong | ⟨step, hstep, hlong⟩
  · have hdirectory := size_directory_iterate_le p level
    have hjoin : (join (Path.directory^[level] p) name).utf8ByteSize ≤ _ := size_join_le habs
    omega
  · rcases mem_splitAtChar_join habs hname hstep with hstep | rfl
    · have hmem := mem_steps_of_long hstep hlong
      rw [h.steps_iterate] at hmem
      have hfits := hroom.steps step (List.mem_of_mem_take hmem)
      omega
    · omega

end Path

end DocFilter
