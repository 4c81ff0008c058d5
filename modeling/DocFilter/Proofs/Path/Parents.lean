import DocFilter.Proofs.Path.Resolving

/-!
# The directories above a path

The directory of a canonical path is the path without its last step; a root is its own directory.
So going up from a canonical path comes to the root in as many steps as the path has, and stays
there.
-/

namespace DocFilter

theorem joinWith_concat {sep : String} {parts : List String} (hne : parts ≠ []) (last : String) :
    joinWith sep (parts ++ [last]) = joinWith sep parts ++ sep ++ last := by
  induction parts with
  | nil => exact absurd rfl hne
  | cons s rest ih =>
    cases rest with
    | nil => rfl
    | cons t rest =>
      change s ++ sep ++ joinWith sep ((t :: rest) ++ [last]) = _
      rw [ih (by simp)]
      simp only [joinWith, String.append_assoc]

namespace Path

/-- What stands before the last slash, the slash included. -/
theorem dropWhile_reverse_append_slash {cs ds : List Char} (h : '/' ∉ ds) :
    (cs ++ '/' :: ds).reverse.dropWhile (· ≠ '/') = '/' :: cs.reverse := by
  have hds : ∀ c ∈ ds.reverse, decide (c ≠ '/') = true := by
    intro c hc
    rw [decide_eq_true_iff]
    rintro rfl
    exact h (List.mem_reverse.mp hc)
  have hsplit : (cs ++ '/' :: ds).reverse = ds.reverse ++ '/' :: cs.reverse := by simp
  rw [hsplit, List.dropWhile_append_of_pos hds]
  simp

/-- Under slashes alone, what stands before the last slash is kept with it. -/
theorem directory_root_append {r s : String} (hr : IsRoot r) (hs : '/' ∉ s.toList) :
    directory (r ++ s) = r := by
  obtain ⟨cs, hcs, hall⟩ : ∃ cs, r.toList = cs ++ ['/'] ∧ ∀ c ∈ cs, c = '/' := by
    rcases hr with rfl | rfl
    · exact ⟨[], rfl, by simp⟩
    · exact ⟨['/'], rfl, by simp⟩
  have hlist : (r ++ s).toList = cs ++ '/' :: s.toList := by simp [hcs]
  unfold directory
  rw [hlist, dropWhile_reverse_append_slash hs]
  dsimp only
  rw [if_pos]
  · rw [← String.toList_inj]
    simp [hcs]
  · simpa [List.all_eq_true] using hall

/-- Otherwise the slash is left out. -/
theorem directory_append_slash {p s : String} (hp : p ≠ "") (hlast : p.toList.getLast? ≠ some '/')
    (hs : '/' ∉ s.toList) : directory (p ++ "/" ++ s) = p := by
  obtain ⟨cs, c, hc⟩ : ∃ cs c, p.toList = cs ++ [c] := by
    refine ⟨_, _, (List.dropLast_append_getLast ?_).symm⟩
    rwa [Ne, String.toList_eq_nil_iff]
  have hslash : c ≠ '/' := by simpa [hc] using hlast
  have hlist : (p ++ "/" ++ s).toList = p.toList ++ '/' :: s.toList := by simp
  unfold directory
  rw [hlist, dropWhile_reverse_append_slash hs]
  dsimp only
  rw [if_neg]
  · rw [← String.toList_inj]
    simp [hc, hslash]
  · simp [hc, hslash]

/-- The directory of a root with plain steps below it lacks the last step. -/
theorem directory_spell {r : String} (hr : IsRoot r) {parts : List String}
    (h : ∀ s ∈ parts, IsPlainStep s) : directory (spell r parts) = spell r parts.dropLast := by
  have hroot : spell r [] = r := by rw [spell_eq_append hr, joinWith, String.append_empty]
  rcases List.eq_nil_or_concat' parts with rfl | ⟨init, last, rfl⟩
  · have hself := directory_root_append hr (s := "") (by simp)
    rw [String.append_empty] at hself
    rw [List.dropLast_nil, hroot, hself]
  · have hlast : '/' ∉ last.toList := (h last (by simp)).no_slash
    have hinit : ∀ s ∈ init, IsPlainStep s := fun s hs => h s (List.mem_append_left _ hs)
    rw [List.dropLast_concat]
    by_cases hne : init = []
    · rw [hne, hroot]
      change directory (spell r [last]) = r
      rw [spell_eq_append hr]
      exact directory_root_append hr hlast
    · have hspell : spell r (init ++ [last]) = spell r init ++ "/" ++ last := by
        rw [spell_eq_append hr, spell_eq_append hr, joinWith_concat hne]
        simp only [String.append_assoc]
      rw [hspell]
      refine directory_append_slash ?_ (getLast?_spell_ne_slash hr hinit hne) hlast
      rw [spell_eq_append hr]
      rcases hr with rfl | rfl <;> simp

/-- Going up leaves the outermost steps. -/
theorem directory_iterate_spell {r : String} (hr : IsRoot r) {parts : List String}
    (h : ∀ s ∈ parts, IsPlainStep s) (level : Nat) :
    directory^[level] (spell r parts) = spell r (parts.take (parts.length - level)) := by
  induction level with
  | zero => rw [Function.iterate_zero_apply, Nat.sub_zero, List.take_length]
  | succ level ih =>
    rw [Function.iterate_succ_apply', ih,
      directory_spell hr fun s hs => h s (List.mem_of_mem_take hs), List.dropLast_eq_take,
      List.take_take, List.length_take]
    congr 2
    omega

/-- A path begins with its directory. -/
theorem exists_eq_directory_append (p : String) : ∃ rest, p = directory p ++ rest := by
  have hprefix {tail : List Char} (h : tail <:+ p.toList.reverse) :
      ∃ rest, p = String.ofList tail.reverse ++ rest := by
    obtain ⟨front, hfront⟩ := h
    refine ⟨String.ofList front.reverse, ?_⟩
    rw [← String.toList_inj]
    simp [← List.reverse_append, hfront]
  unfold directory
  dsimp only
  split
  · exact hprefix (List.dropWhile_suffix _)
  · exact hprefix ((List.dropWhile_suffix _).trans (List.dropWhile_suffix _))

namespace IsCanonical
variable {p : String}

theorem directory_iterate (h : IsCanonical p) (level : Nat) :
    directory^[level] p = spell (root p) ((steps p).take ((steps p).length - level)) := by
  conv_lhs => rw [h.eq_spell]
  exact directory_iterate_spell (isRoot_root h.isAbsolute) h.steps_plain level

/-- The directories above a canonical path are canonical. -/
theorem iterate (h : IsCanonical p) (level : Nat) : IsCanonical (directory^[level] p) := by
  rw [h.directory_iterate]
  exact spell_isCanonical (isRoot_root h.isAbsolute) fun s hs =>
    h.steps_plain s (List.mem_of_mem_take hs)

theorem steps_iterate (h : IsCanonical p) (level : Nat) :
    steps (directory^[level] p) = (steps p).take ((steps p).length - level) := by
  rw [h.directory_iterate]
  exact steps_spell (isRoot_root h.isAbsolute) fun s hs => h.steps_plain s (List.mem_of_mem_take hs)

/-- Going up comes to the top at the first path that is its own directory. -/
theorem directory_eq_self_iff (h : IsCanonical p) (level : Nat) :
    directory (directory^[level] p) = directory^[level] p ↔ (steps p).length ≤ level := by
  rw [← Function.iterate_succ_apply' directory level p]
  constructor
  · intro heq
    have hsteps := congrArg (fun q => (steps q).length) heq
    simp only [h.steps_iterate, List.length_take] at hsteps
    omega
  · intro hle
    rw [h.directory_iterate, h.directory_iterate, Nat.sub_eq_zero_of_le hle,
      Nat.sub_eq_zero_of_le (Nat.le_succ_of_le hle)]

end IsCanonical

end Path

end DocFilter
