import DocFilter.Disk
import DocFilter.Proofs.Computation

/-!
# Writing to the disk

There are no links, so where a path leads is a matter of its steps alone. Writing to a path changes
the one place that it names, never a directory, and what was written is what the path then reads as.
-/

namespace DocFilter

namespace Disk

/-! ### Where a path leads -/

/-- One step from a place, whatever stands there. -/
def move (here : Place) (name : String) : Place :=
  if name = "" || name = "." then here
  else if name = ".." then here.dropLast
  else here ++ [name]

/-- The place that a path names from a directory. -/
def target (cwd : Place) (p : String) : Place :=
  (splitAtChar '/' p).foldl move (if Path.isAbsolute p then [] else cwd)

variable {d d' : Disk} {cwd here next place : Place} {name p : String} {names : List String}

theorem step_eq_move (h : d.step here name = .ok next) : next = move here name := by
  unfold step at h
  unfold move
  split at h
  · cases h
  · cases h
  split at h
  · next hstay =>
    cases h
    exact (if_pos hstay).symm
  next hmove =>
  rw [if_neg hmove]
  split at h
  · next hup =>
    cases h
    exact (if_pos hup).symm
  next hdown =>
  rw [if_neg hdown]
  split at h
  · cases h
  split at h
  · cases h
    rfl
  · cases h

theorem steps_eq_moves (h : names.foldlM d.step here = .ok place) :
    place = names.foldl move here := by
  induction names generalizing here with
  | nil =>
    cases h
    rfl
  | cons name names ih =>
    rw [List.foldlM_cons] at h
    cases hstep : d.step here name with
    | error refusal =>
      rw [hstep] at h
      cases h
    | ok next =>
      rw [hstep] at h
      rw [List.foldl_cons, ← step_eq_move hstep]
      exact ih h

theorem locate_eq_target (h : d.locate cwd p = .ok place) : place = target cwd p := by
  unfold locate at h
  split at h
  · cases h
  split at h
  · cases h
  · exact steps_eq_moves h

/-- What is read stands at the place that the path leads to. -/
theorem exists_place_of_read {content : List UInt8} (h : d.read cwd p = .ok content) :
    ∃ place, d.locate cwd p = .ok place ∧ d.find? place = some (.file content) := by
  obtain ⟨place, hplace, h⟩ := bind_eq_ok h
  refine ⟨place, hplace, ?_⟩
  split at h
  · next hfile =>
    cases h
    exact hfile
  · cases h
  · cases h

/-! ### Larger disks -/

/-- Whether another disk has all directories, and something wherever something stands. -/
structure Within (d d' : Disk) : Prop where
  directory : ∀ place, d.find? place = some .directory → d'.find? place = some .directory
  entry : ∀ place, (d.find? place).isSome → (d'.find? place).isSome

theorem Within.refl (d : Disk) : d.Within d := ⟨fun _ => id, fun _ => id⟩

theorem Within.trans {d'' : Disk} (hin : d.Within d') (hin' : d'.Within d'') : d.Within d'' :=
  ⟨fun place h => hin'.directory place (hin.directory place h),
    fun place h => hin'.entry place (hin.entry place h)⟩

theorem Within.step (hin : d.Within d') (h : d.step here name = .ok next) :
    d'.step here name = .ok next := by
  unfold Disk.step at h ⊢
  split at h
  · cases h
  · cases h
  next hdir =>
  rw [hin.directory here hdir]
  dsimp only
  split at h
  · next hstay => rwa [if_pos hstay]
  next hmove =>
  rw [if_neg hmove]
  split at h
  · next hup => rwa [if_pos hup]
  next hdown =>
  rw [if_neg hdown]
  split at h
  · cases h
  next hsize =>
  rw [if_neg hsize]
  split at h
  · next hfind => rwa [if_pos (hin.entry _ hfind)]
  · cases h

theorem Within.steps (hin : d.Within d') (h : names.foldlM d.step here = .ok place) :
    names.foldlM d'.step here = .ok place := by
  induction names generalizing here with
  | nil => exact h
  | cons name names ih =>
    rw [List.foldlM_cons] at h ⊢
    cases hstep : d.step here name with
    | error refusal =>
      rw [hstep] at h
      cases h
    | ok next =>
      rw [hstep] at h
      rw [hin.step hstep]
      exact ih h

theorem Within.locate (hin : d.Within d') (h : d.locate cwd p = .ok place) :
    d'.locate cwd p = .ok place := by
  unfold Disk.locate at h ⊢
  split at h
  · cases h
  split at h
  · cases h
  next hempty hlong =>
  rw [if_neg hempty, if_neg hlong]
  exact hin.steps h

theorem ne_nil_of_not_directory (h : d.find? place ≠ some .directory) : place ≠ [] := by
  rintro rfl
  exact h (if_pos rfl)

theorem find?_put_self (h : d.find? place ≠ some .directory) (e : Entry) :
    (d.put place e).find? place = some e := by
  rw [find?_put d place place e (ne_nil_of_not_directory h), beq_self_eq_true, if_pos rfl]

theorem find?_put_of_ne {other : Place} (hne : other ≠ place) (e : Entry) :
    (d.put place e).find? other = d.find? other := by
  by_cases hroot : other = []
  · subst hroot
    rfl
  · rw [find?_put d place other e hroot, beq_false_of_ne hne, if_neg Bool.false_ne_true]

theorem within_put (h : d.find? place ≠ some .directory) (e : Entry) :
    d.Within (d.put place e) := by
  constructor
  · intro other hother
    rwa [find?_put_of_ne (by rintro rfl; exact h hother)]
  · intro other hother
    by_cases hne : other = place
    · rw [hne, find?_put_self h]
      rfl
    · rwa [find?_put_of_ne hne]

/-! ### Writing -/

/-- A new file gets the last part of its path as its name, in the directory that the other parts
lead to. -/
structure IsNew (d : Disk) (cwd : Place) (p : String) (parent : Place) (name : String) : Prop where
  nonempty : p ≠ ""
  short : ¬ 4096 ≤ p.utf8ByteSize
  names : ∃ before, splitAtChar '/' p = before ++ [name] ∧
    before.foldlM d.step (if Path.isAbsolute p then [] else cwd) = .ok parent
  directory : d.find? parent = some .directory
  missing : d.step parent name = .error .missing

theorem locateNew_cases (h : d.locateNew cwd p = .ok place) :
    d.locate cwd p = .ok place ∨
      ∃ parent name, IsNew d cwd p parent name ∧ place = parent ++ [name] := by
  unfold locateNew at h
  split at h
  · next hfound =>
    cases h
    exact .inl hfound
  · next hmissing =>
    split at h
    · cases h
    next hempty =>
    obtain ⟨parent, hparent, h⟩ := bind_eq_ok h
    split at h
    · next name hdir hlast =>
      cases h
      obtain ⟨before, hnames⟩ := List.getLast?_eq_some_iff.mp hlast
      rw [hnames, List.dropLast_concat] at hparent
      unfold locate at hmissing
      rw [if_neg hempty] at hmissing
      split at hmissing
      · cases hmissing
      next hlong =>
      rw [hnames, List.foldlM_append, hparent] at hmissing
      refine .inr ⟨parent, name, ⟨hempty, hlong, ⟨before, hnames, hparent⟩, hdir, ?_⟩, rfl⟩
      cases hstep : d.step parent name with
      | error refusal => simpa [bind, Except.bind, hstep] using hmissing
      | ok next => simp [bind, Except.bind, hstep, pure, Except.pure] at hmissing
    · cases h
  · cases h

/-- A directory lacks a name only if nothing stands under it, and the name is not one of the two
that every directory has. -/
theorem missing_cases (hdir : d.find? here = some .directory)
    (h : d.step here name = .error .missing) :
    move here name = here ++ [name] ∧ d.find? (here ++ [name]) = none ∧
      ∀ e, (d.put (here ++ [name]) e).step here name = .ok (here ++ [name]) := by
  have hother : here ≠ here ++ [name] := by simp
  unfold step at h ⊢
  rw [hdir] at h
  dsimp only at h
  unfold move
  split at h
  · cases h
  next hmove =>
  split at h
  · cases h
  next hdown =>
  split at h
  · cases h
  next hsize =>
  split at h
  · cases h
  next hsome =>
  have hnone : d.find? (here ++ [name]) = none := by simpa using hsome
  refine ⟨by rw [if_neg hmove, if_neg hdown], hnone, ?_⟩
  intro e
  have hself : (d.put (here ++ [name]) e).find? (here ++ [name]) = some e :=
    find?_put_self (by simp [hnone]) e
  rw [find?_put_of_ne hother, hdir]
  dsimp only
  rw [if_neg hmove, if_neg hdown, if_neg hsize, hself]
  rfl

theorem locateNew_eq_target (h : d.locateNew cwd p = .ok place) : place = target cwd p := by
  rcases locateNew_cases h with hfound | ⟨parent, name, hnew, rfl⟩
  · exact locate_eq_target hfound
  · obtain ⟨before, hnames, hparent⟩ := hnew.names
    rw [target, hnames, List.foldl_append, ← steps_eq_moves hparent]
    exact (missing_cases hnew.directory hnew.missing).1.symm

/-- Once something stands where a path leads or would lead, the path leads there. -/
theorem locate_put (h : d.locateNew cwd p = .ok place) (hfile : d.find? place ≠ some .directory)
    (e : Entry) : (d.put place e).locate cwd p = .ok place := by
  have hin := within_put hfile e
  rcases locateNew_cases h with hfound | ⟨parent, name, hnew, rfl⟩
  · exact hin.locate hfound
  · obtain ⟨before, hnames, hparent⟩ := hnew.names
    have hlast := (missing_cases hnew.directory hnew.missing).2.2 e
    rw [locate, if_neg hnew.nonempty, if_neg hnew.short, hnames, List.foldlM_append,
      hin.steps hparent]
    simp only [bind, Except.bind, List.foldlM_cons, hlast]
    rfl

theorem write_eq_ok {content : List UInt8} (h : d.write cwd p content = .ok d') :
    d.locateNew cwd p = .ok (target cwd p) ∧ d.find? (target cwd p) ≠ some .directory ∧
      d' = d.put (target cwd p) (.file content) := by
  obtain ⟨place, hplace, h⟩ := bind_eq_ok h
  obtain rfl := locateNew_eq_target hplace
  split at h
  · cases h
  · next hfile =>
    cases h
    exact ⟨hplace, hfile, rfl⟩

theorem append_eq_ok {content : List UInt8} (h : d.append cwd p content = .ok d') :
    d.find? (target cwd p) ≠ some .directory ∧
      ∃ all, d' = d.put (target cwd p) (.file all) := by
  obtain ⟨place, hplace, h⟩ := bind_eq_ok h
  obtain rfl := locateNew_eq_target hplace
  split at h
  · cases h
  · next old hold =>
    cases h
    exact ⟨by simp [hold], old ++ content, rfl⟩
  · next hnone =>
    cases h
    exact ⟨by simp [hnone], content, rfl⟩

/-- What was written to a path is read there. -/
theorem read_of_write {content : List UInt8} (h : d.write cwd p content = .ok d') :
    d'.read cwd p = .ok content := by
  obtain ⟨hplace, hfile, rfl⟩ := write_eq_ok h
  unfold read
  rw [locate_put hplace hfile]
  simp only [bind, Except.bind, find?_put_self hfile]
  rfl

/-! ### Paths that take a file -/

/-- Whether a file can be opened at a path to be written. -/
def Takes (d : Disk) (cwd : Place) (p : String) : Prop :=
  d.locateNew cwd p = .ok (target cwd p) ∧ d.find? (target cwd p) ≠ some .directory

theorem Takes.write (h : d.Takes cwd p) (content : List UInt8) :
    d.write cwd p content = .ok (d.put (target cwd p) (.file content)) := by
  unfold Disk.write
  rw [h.1]
  dsimp only [bind, Except.bind]
  split
  · next hdir => exact absurd hdir h.2
  · rfl

theorem step_eq_step (hhere : d'.find? here = d.find? here)
    (hnext : d'.find? (here ++ [name]) = d.find? (here ++ [name])) :
    d'.step here name = d.step here name := by
  unfold step
  rw [hhere, hnext]

theorem IsNew.locateNew {parent : Place} (h : IsNew d cwd p parent name) :
    d.locateNew cwd p = .ok (parent ++ [name]) := by
  obtain ⟨before, hnames, hparent⟩ := h.names
  have hmissing : d.locate cwd p = .error .missing := by
    rw [locate, if_neg h.nonempty, if_neg h.short, hnames, List.foldlM_append, hparent]
    simp only [bind, Except.bind, List.foldlM_cons, h.missing]
  unfold Disk.locateNew
  rw [hmissing]
  dsimp only
  rw [if_neg h.nonempty, hnames, List.dropLast_concat, hparent]
  simp only [bind, Except.bind, h.directory, List.getLast?_concat]
  rfl

/-- A path that takes a file goes on to take one while nothing is removed and nothing changes where
it leads. -/
theorem Takes.within (h : d.Takes cwd p) (hin : d.Within d')
    (hsame : d'.find? (target cwd p) = d.find? (target cwd p)) : d'.Takes cwd p := by
  refine ⟨?_, by rw [hsame]; exact h.2⟩
  rcases locateNew_cases h.1 with hfound | ⟨parent, name, hnew, hplace⟩
  · unfold Disk.locateNew
    rw [hin.locate hfound]
  · obtain ⟨before, hnames, hparent⟩ := hnew.names
    have hdir := hin.directory parent hnew.directory
    rw [hplace] at hsame ⊢
    have hsteps := hin.steps hparent
    refine IsNew.locateNew ⟨hnew.nonempty, hnew.short, ⟨before, hnames, hsteps⟩, hdir, ?_⟩
    rw [step_eq_step (hdir.trans hnew.directory.symm) hsame]
    exact hnew.missing

end Disk

end DocFilter
