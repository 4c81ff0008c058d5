import DocFilter.Path
import Mathlib.Data.List.TakeWhile

/-!
# Canonical paths

The paths that normalization leaves alone. A normalized absolute path is its root followed by plain
steps, none of them empty, `.` or `..`, and such a path is read back as the same root and the same
steps. Whatever is resolved against an absolute directory, or from an absolute working directory,
is canonical.
-/

namespace DocFilter

/-! ### Splitting and joining -/

theorem splitChars_of_not_mem {sep : Char} {cs : List Char} (h : sep ∉ cs) :
    splitChars sep cs = [cs] := by
  induction cs with
  | nil => rfl
  | cons c cs ih =>
    have hc : c ≠ sep := fun hc => h (by simp [hc])
    rw [splitChars, if_neg hc, ih fun hm => h (List.mem_cons_of_mem _ hm)]

theorem splitChars_append_sep {sep : Char} {cs : List Char} (h : sep ∉ cs) (ds : List Char) :
    splitChars sep (cs ++ sep :: ds) = cs :: splitChars sep ds := by
  induction cs with
  | nil => simp [splitChars]
  | cons c cs ih =>
    have hc : c ≠ sep := fun hc => h (by simp [hc])
    rw [List.cons_append, splitChars, if_neg hc, ih fun hm => h (List.mem_cons_of_mem _ hm)]

theorem not_mem_of_mem_splitChars {sep : Char} {cs p : List Char} (h : p ∈ splitChars sep cs) :
    sep ∉ p := by
  induction cs generalizing p with
  | nil =>
    rw [splitChars, List.mem_singleton] at h
    simp [h]
  | cons c cs ih =>
    rw [splitChars] at h
    split at h
    · rcases List.mem_cons.mp h with rfl | h
      · simp
      · exact ih h
    · next hc =>
      split at h
      · rw [List.mem_singleton.mp h]
        simpa using Ne.symm hc
      · next q qs hq =>
        have ht (r : List Char) (hr : r ∈ q :: qs) : sep ∉ r := ih (by rwa [hq])
        rcases List.mem_cons.mp h with rfl | h
        · intro hm
          rcases List.mem_cons.mp hm with rfl | hm
          · exact hc rfl
          · exact ht q List.mem_cons_self hm
        · exact ht p (List.mem_cons_of_mem _ h)

theorem splitAtChar_append_slash {s : String} (h : '/' ∉ s.toList) (p : String) :
    splitAtChar '/' (s ++ "/" ++ p) = s :: splitAtChar '/' p := by
  have hl : (s ++ "/" ++ p).toList = s.toList ++ '/' :: p.toList := by simp
  rw [splitAtChar, hl, splitChars_append_sep h, List.map_cons, String.ofList_toList]
  rfl

theorem splitAtChar_slash_append (p : String) :
    splitAtChar '/' ("/" ++ p) = "" :: splitAtChar '/' p := by
  have h : '/' ∉ ("" : String).toList := by simp
  simpa using splitAtChar_append_slash h p

theorem splitAtChar_joinWith {parts : List String} (hne : parts ≠ [])
    (h : ∀ s ∈ parts, '/' ∉ s.toList) : splitAtChar '/' (joinWith "/" parts) = parts := by
  induction parts with
  | nil => exact absurd rfl hne
  | cons s rest ih =>
    have hs := h s List.mem_cons_self
    cases rest with
    | nil => simp [joinWith, splitAtChar, splitChars_of_not_mem hs]
    | cons t rest =>
      have ht := ih (by simp) fun r hr => h r (List.mem_cons_of_mem _ hr)
      change splitAtChar '/' (s ++ "/" ++ joinWith "/" (t :: rest)) = _
      rw [splitAtChar_append_slash hs, ht]

namespace Path

/-! ### Plain steps -/

/-- A step that normalization keeps: neither empty nor `.` nor `..`, and without a slash. -/
structure IsPlainStep (s : String) : Prop where
  ne_empty : s ≠ ""
  ne_dot : s ≠ "."
  ne_parent : s ≠ ".."
  no_slash : '/' ∉ s.toList

theorem of_mem_steps {p s : String} (h : s ∈ steps p) :
    s ≠ "" ∧ s ≠ "." ∧ '/' ∉ s.toList := by
  obtain ⟨hs, hkept⟩ := List.mem_filter.mp h
  obtain ⟨cs, hcs, rfl⟩ := List.mem_map.mp hs
  have hslash := not_mem_of_mem_splitChars hcs
  simp only [Bool.and_eq_true, bne_iff_ne] at hkept
  exact ⟨hkept.1, hkept.2, by simpa using hslash⟩

@[simp] theorem steps_slash_append (p : String) : steps ("/" ++ p) = steps p := by
  rw [steps, splitAtChar_slash_append]
  simp [steps]

/-- Plain steps are read back from the path that they make. -/
theorem steps_joinWith {parts : List String} (h : ∀ s ∈ parts, IsPlainStep s) :
    steps (joinWith "/" parts) = parts := by
  cases parts with
  | nil => rfl
  | cons s rest =>
    rw [steps, splitAtChar_joinWith (by simp) fun r hr => (h r hr).no_slash]
    refine List.filter_eq_self.mpr fun r hr => ?_
    simp [(h r hr).ne_empty, (h r hr).ne_dot]

/-- From the top, plain steps only go down. -/
theorem evaluate_of_plain {parts : List String} (h : ∀ s ∈ parts, IsPlainStep s)
    (position : List String) :
    parts.foldl (follow true) position = parts.reverse ++ position := by
  induction parts generalizing position with
  | nil => rfl
  | cons s rest ih =>
    have hs : follow true position s = s :: position := by
      simp only [follow, if_neg (h s List.mem_cons_self).ne_parent]
    rw [List.foldl_cons, hs, ih fun r hr => h r (List.mem_cons_of_mem _ hr)]
    simp

/-- Following a step from a place reached by plain steps leads to such a place. -/
theorem follow_plain {position : List String} (hp : ∀ s ∈ position, IsPlainStep s) {s : String}
    (hs : s ≠ "" ∧ s ≠ "." ∧ '/' ∉ s.toList) : ∀ r ∈ follow true position s, IsPlainStep r := by
  intro r hr
  unfold follow at hr
  split at hr
  · cases position with
    | nil => simp at hr
    | cons last rest =>
      have hlast : last ≠ ".." := (hp last List.mem_cons_self).ne_parent
      simp only [if_neg hlast] at hr
      exact hp r (List.mem_cons_of_mem _ hr)
  · next hparent =>
    rcases List.mem_cons.mp hr with rfl | hr
    · exact ⟨hs.1, hs.2.1, hparent, hs.2.2⟩
    · exact hp r hr

theorem foldl_follow_plain {ss : List String} (h : ∀ s ∈ ss, s ≠ "" ∧ s ≠ "." ∧ '/' ∉ s.toList)
    {position : List String} (hp : ∀ s ∈ position, IsPlainStep s) :
    ∀ r ∈ ss.foldl (follow true) position, IsPlainStep r := by
  induction ss generalizing position with
  | nil => exact hp
  | cons s rest ih =>
    exact ih (fun r hr => h r (List.mem_cons_of_mem _ hr))
      (follow_plain hp (h s List.mem_cons_self))

/-- What an absolute path is evaluated to. -/
theorem evaluate_steps_plain (p : String) : ∀ s ∈ evaluate true [] (steps p), IsPlainStep s := by
  intro s hs
  rw [evaluate, List.mem_reverse] at hs
  exact foldl_follow_plain (fun _ => of_mem_steps) (by simp) s hs

/-! ### Canonical paths -/

/-- An absolute path that normalization leaves as it is. -/
structure IsCanonical (p : String) : Prop where
  isAbsolute : isAbsolute p = true
  normalize_eq : normalize p = p

def IsRoot (r : String) : Prop := r = "/" ∨ r = "//"

theorem isRoot_root {p : String} (h : isAbsolute p = true) : IsRoot (root p) := by
  cases hp : p.toList with
  | nil => simp [isAbsolute, hp] at h
  | cons c cs =>
    obtain rfl : c = '/' := by simpa [isAbsolute, hp] using h
    unfold root
    rw [hp]
    split
    · exact .inl rfl
    · exact .inr rfl
    · exact .inl rfl
    · next hnone => exact absurd rfl (hnone cs)

theorem head?_joinWith_ne_slash {parts : List String} (h : ∀ s ∈ parts, IsPlainStep s) :
    (joinWith "/" parts).toList.head? ≠ some '/' := by
  cases parts with
  | nil => simp [joinWith]
  | cons s rest =>
    have hs := h s List.mem_cons_self
    -- the path starts with the first character of its first step
    obtain ⟨more, hmore⟩ : ∃ more, (joinWith "/" (s :: rest)).toList = s.toList ++ more := by
      cases rest with
      | nil => exact ⟨[], by simp [joinWith]⟩
      | cons t rest => exact ⟨'/' :: (joinWith "/" (t :: rest)).toList, by simp [joinWith]⟩
    have hfirst := hs.no_slash
    cases hc : s.toList with
    | nil => exact absurd (String.toList_eq_nil_iff.mp hc) hs.ne_empty
    | cons c cs =>
      rw [hmore, hc]
      rw [hc] at hfirst
      intro hhead
      exact hfirst (by simp at hhead; simp [hhead])

theorem root_append {r p : String} (hr : IsRoot r) (hp : p.toList.head? ≠ some '/') :
    root (r ++ p) = r := by
  cases hl : p.toList with
  | nil =>
    obtain rfl : p = "" := String.toList_eq_nil_iff.mp hl
    rcases hr with rfl | rfl <;> rfl
  | cons c cs =>
    have hc : c ≠ '/' := by simpa [hl] using hp
    rcases hr with rfl | rfl <;> simp [root, hl, hc]

theorem spell_eq_append {r : String} (hr : IsRoot r) (parts : List String) :
    spell r parts = r ++ joinWith "/" parts := by
  have hne : r ++ joinWith "/" parts ≠ "" := by
    rcases hr with rfl | rfl <;> simp
  rw [spell, if_neg hne]

/-- The steps below a root are read back from the path. -/
theorem steps_spell {r : String} (hr : IsRoot r) {parts : List String}
    (h : ∀ s ∈ parts, IsPlainStep s) : steps (spell r parts) = parts := by
  rw [spell_eq_append hr]
  rcases hr with rfl | rfl
  · rw [steps_slash_append, steps_joinWith h]
  · have htwo : "//" ++ joinWith "/" parts = "/" ++ ("/" ++ joinWith "/" parts) := by
      rw [← String.append_assoc]
      rfl
    rw [htwo, steps_slash_append, steps_slash_append, steps_joinWith h]

/-- A root with plain steps below it is canonical. -/
theorem spell_isCanonical {r : String} (hr : IsRoot r) {parts : List String}
    (h : ∀ s ∈ parts, IsPlainStep s) : IsCanonical (spell r parts) := by
  have habs : Path.isAbsolute (spell r parts) = true := by
    rw [spell_eq_append hr]
    rcases hr with rfl | rfl <;> simp [Path.isAbsolute]
  have hroot : root (spell r parts) = r := by
    rw [spell_eq_append hr, root_append hr (head?_joinWith_ne_slash h)]
  refine ⟨habs, ?_⟩
  rw [normalize, hroot, habs, steps_spell hr h, evaluate, evaluate_of_plain h, List.append_nil,
    List.reverse_reverse]

theorem normalize_isCanonical {p : String} (h : isAbsolute p = true) :
    IsCanonical (normalize p) := by
  rw [normalize, h]
  exact spell_isCanonical (isRoot_root h) (evaluate_steps_plain p)

namespace IsCanonical
variable {p : String}

/-- The steps of a canonical path are where it leads. -/
theorem evaluate_steps (h : IsCanonical p) : evaluate true [] (steps p) = steps p := by
  have heq : spell (root p) (evaluate true [] (steps p)) = p := by
    have hnormalize := h.normalize_eq
    rwa [normalize, h.isAbsolute] at hnormalize
  have hsteps := steps_spell (isRoot_root h.isAbsolute) (evaluate_steps_plain p)
  rw [heq] at hsteps
  exact hsteps.symm

theorem steps_plain (h : IsCanonical p) : ∀ s ∈ steps p, IsPlainStep s := by
  rw [← h.evaluate_steps]
  exact evaluate_steps_plain p

/-- A canonical path is its root and its steps. -/
theorem eq_spell (h : IsCanonical p) : p = spell (root p) (steps p) := by
  have heq := h.normalize_eq
  rw [normalize, h.isAbsolute, h.evaluate_steps] at heq
  exact heq.symm

end IsCanonical

/-! ### Resolving references -/

theorem isAbsolute_join {base : String} (h : isAbsolute base = true) (p : String) :
    isAbsolute (join base p) = true := by
  unfold join
  split
  · assumption
  · cases hb : base.toList with
    | nil => simp [isAbsolute, hb] at h
    | cons c cs =>
      split <;> simpa [isAbsolute, hb] using h

theorem absolute_isCanonical {cwd p : String} (h : isAbsolute (join cwd p) = true) :
    IsCanonical (absolute cwd p) :=
  normalize_isCanonical h

theorem real_isCanonical {cwd p : String} (h : isAbsolute (join cwd p) = true) :
    IsCanonical (real cwd p) :=
  spell_isCanonical (.inl rfl) (absolute_isCanonical h).steps_plain

/-- Resolved against an absolute directory, a reference is canonical whatever the working directory
is. -/
theorem resolve_isCanonical {base : String} (h : isAbsolute base = true) (cwd p : String) :
    IsCanonical (resolve cwd p (some base)) := by
  have hne : base ≠ "" := by
    rintro rfl
    simp [isAbsolute] at h
  unfold resolve
  split
  · next hp => exact normalize_isCanonical hp
  · have hbase : join cwd base = base := by rw [join, if_pos h]
    simp only [if_neg hne]
    have habs : IsCanonical (absolute cwd base) := absolute_isCanonical (by rwa [hbase])
    exact normalize_isCanonical (isAbsolute_join habs.isAbsolute p)

theorem resolve_none_isCanonical {cwd : String} (h : isAbsolute cwd = true) (p : String) :
    IsCanonical (resolve cwd p none) := by
  unfold resolve
  split
  · next hp => exact normalize_isCanonical hp
  · have habs : IsCanonical (absolute cwd ".") := absolute_isCanonical (isAbsolute_join h ".")
    exact normalize_isCanonical (isAbsolute_join habs.isAbsolute p)

/-- What is left of a list from the first element on that fails a test ends as the list does. -/
theorem getLast?_dropWhile {α : Type} {p : α → Bool} {l : List α} (h : l.dropWhile p ≠ []) :
    (l.dropWhile p).getLast? = l.getLast? := by
  obtain ⟨front, hfront⟩ := List.dropWhile_suffix p (l := l)
  have hl : l.getLast? = (front ++ l.dropWhile p).getLast? := by rw [hfront]
  rw [hl, List.getLast?_append]
  cases hd : (l.dropWhile p).getLast? with
  | none => exact absurd (List.getLast?_eq_none_iff.mp hd) h
  | some a => rfl

theorem isAbsolute_directory {p : String} (h : isAbsolute p = true) :
    isAbsolute (directory p) = true := by
  rw [isAbsolute, beq_iff_eq] at h ⊢
  have hlast : p.toList.reverse.getLast? = some '/' := by rw [List.getLast?_reverse, h]
  have hmem : '/' ∈ p.toList.reverse := List.mem_of_getLast? hlast
  have hhead : p.toList.reverse.dropWhile (· ≠ '/') ≠ [] := by
    intro hnil
    have hall := List.dropWhile_eq_nil_iff.mp hnil '/' hmem
    simp at hall
  unfold directory
  dsimp only
  split
  · rw [String.toList_ofList, List.head?_reverse, getLast?_dropWhile hhead, hlast]
  · next hall =>
    have hrest : (p.toList.reverse.dropWhile (· ≠ '/')).dropWhile (· = '/') ≠ [] := by
      intro hnil
      exact hall (List.all_eq_true.mpr (List.dropWhile_eq_nil_iff.mp hnil))
    rw [String.toList_ofList, List.head?_reverse, getLast?_dropWhile hrest,
      getLast?_dropWhile hhead, hlast]

end Path

end DocFilter
