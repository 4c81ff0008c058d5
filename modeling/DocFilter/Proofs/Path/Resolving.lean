import DocFilter.Proofs.Path.Readable

/-!
# Resolving references

A normalized absolute path is settled by two things: its root, and the place that it names. Joining
follows one reference after the other, from the last absolute one on, so it makes no difference
whether a reference is normalized on the way. Hence a resolved path is canonical, and it names the
place that the components of all references lead to in turn.
-/

namespace DocFilter

theorem splitChars_ne_nil (sep : Char) (cs : List Char) : splitChars sep cs ≠ [] := by
  cases cs with
  | nil => simp [splitChars]
  | cons c cs =>
    rw [splitChars]
    split
    · simp
    · split <;> simp

theorem splitChars_append (sep : Char) (cs ds : List Char) :
    splitChars sep (cs ++ sep :: ds) = splitChars sep cs ++ splitChars sep ds := by
  induction cs with
  | nil => simp [splitChars]
  | cons c cs ih =>
    rw [List.cons_append, splitChars, splitChars, ih]
    split
    · rfl
    · cases hcs : splitChars sep cs with
      | nil => exact absurd hcs (splitChars_ne_nil sep cs)
      | cons p ps => rfl

theorem splitAtChar_append (p q : String) :
    splitAtChar '/' (p ++ "/" ++ q) = splitAtChar '/' p ++ splitAtChar '/' q := by
  have hlist : (p ++ "/" ++ q).toList = p.toList ++ '/' :: q.toList := by simp
  rw [splitAtChar, hlist, splitChars_append, List.map_append]
  rfl

theorem exists_eq_append_slash {p : String} (h : p.toList.getLast? = some '/') :
    ∃ front, p = front ++ "/" := by
  obtain ⟨cs, hcs⟩ := List.getLast?_eq_some_iff.mp h
  refine ⟨String.ofList cs, String.toList_inj.mp ?_⟩
  simp [hcs]

theorem splitAtChar_append_slash_end (p : String) :
    splitAtChar '/' (p ++ "/") = splitAtChar '/' p ++ [""] := by
  have hsplit := splitAtChar_append p ""
  rwa [String.append_empty] at hsplit

/-! ### The place that a path names -/

namespace Disk

theorem mem_move {here : Place} {name s : String} (h : s ∈ move here name) :
    s ∈ here ∨ s = name ∧ s ≠ ".." := by
  unfold move at h
  split at h
  · exact .inl h
  · split at h
    · exact .inl (List.mem_of_mem_dropLast h)
    · next hup =>
      rcases List.mem_append.mp h with h | h
      · exact .inl h
      · obtain rfl := List.mem_singleton.mp h
        exact .inr ⟨rfl, hup⟩

theorem target_of_isAbsolute {p : String} (h : Path.isAbsolute p = true) (here : Place) :
    target here p = (splitAtChar '/' p).foldl move [] := by
  rw [target, if_pos h]

theorem target_of_relative {p : String} (h : Path.isAbsolute p = false) (here : Place) :
    target here p = (splitAtChar '/' p).foldl move here := by
  rw [target, h, if_neg Bool.false_ne_true]

theorem foldl_move_append (p q : String) (here : Place) :
    (splitAtChar '/' (p ++ "/" ++ q)).foldl move here =
      (splitAtChar '/' q).foldl move ((splitAtChar '/' p).foldl move here) := by
  rw [splitAtChar_append, List.foldl_append]

end Disk

namespace Path

open Disk

/-- Kept by normalization before `..` is resolved. -/
theorem follow_of_ne_parent {s : String} (hs : s ≠ "..") (position : List String) :
    follow true position s = s :: position := by
  simp only [follow, if_neg hs]

/-- Below the top no step is `..`, and there following steps is moving from place to place. -/
theorem foldl_follow_eq_moves (names : List String) {here : Place} (h : ".." ∉ here) :
    (names.filter fun s => s != "" && s != ".").foldl (follow true) here.reverse =
      (names.foldl move here).reverse := by
  induction names generalizing here with
  | nil => rfl
  | cons name rest ih =>
    have hmove : ".." ∉ move here name := by
      intro hmem
      rcases mem_move hmem with hmem | ⟨-, hne⟩
      · exact h hmem
      · exact hne rfl
    rw [List.foldl_cons, ← ih hmove, List.filter_cons]
    split
    · next hkept =>
      have hstep : follow true here.reverse name = (move here name).reverse := by
        have hstay : ¬ (name = "" || name = ".") = true := by simpa using hkept
        rw [move, if_neg hstay]
        by_cases hup : name = ".."
        · simp only [hup, follow, if_pos]
          -- the last step of the place goes, and it is none that goes up itself
          rcases List.eq_nil_or_concat here with rfl | ⟨above, last, rfl⟩
          · rfl
          · have hlast : last ≠ ".." := by
              rintro rfl
              exact h (by simp)
            simp [hlast]
        · rw [if_neg hup, follow_of_ne_parent hup, List.reverse_append]
          rfl
      rw [List.foldl_cons, hstep]
    · next hstay =>
      have hsame : move here name = here := by
        have hstay : (name = "" || name = ".") = true := by
          by_contra hdown
          exact hstay (by simpa using hdown)
        rw [move, if_pos hstay]
      rw [hsame]

/-- An absolute path is evaluated to the place that it names. -/
theorem evaluate_eq_target {p : String} (h : isAbsolute p = true) (here : Place) :
    evaluate true [] (steps p) = target here p := by
  have htop : ".." ∉ ([] : Place) := by simp
  have hmoves := foldl_follow_eq_moves (splitAtChar '/' p) htop
  rw [List.reverse_nil] at hmoves
  rw [evaluate, steps, hmoves, List.reverse_reverse, target_of_isAbsolute h]

theorem normalize_eq_spell {p : String} (h : isAbsolute p = true) (here : Place) :
    normalize p = spell (root p) (target here p) := by
  rw [normalize, h, evaluate_eq_target h]

/-! ### Joining -/

/-- Naming one reference from another leads where the one leads from the place of the other. -/
theorem target_join (base p : String) (here : Place) :
    target here (join base p) = target (target here base) p := by
  cases hp : isAbsolute p with
  | true => rw [join, if_pos hp, target_of_isAbsolute hp, target_of_isAbsolute hp]
  | false =>
    rw [target_of_relative hp, join, hp, if_neg Bool.false_ne_true]
    split
    · next hend =>
      rcases Bool.or_eq_true_iff.mp hend with hempty | hslash
      · obtain rfl : base = "" := by simpa using hempty
        rw [String.empty_append, target_of_relative hp]
        rfl
      · obtain ⟨front, rfl⟩ := exists_eq_append_slash (beq_iff_eq.mp hslash)
        have habs : isAbsolute (front ++ "/" ++ p) = isAbsolute (front ++ "/") := by
          unfold isAbsolute
          cases hfront : front.toList <;> simp [hfront]
        rw [target, target, habs, foldl_move_append, splitAtChar_append_slash_end,
          List.foldl_append]
        rfl
    · next hend =>
      have hne : base.toList ≠ [] := by
        intro hnil
        exact hend (by simp [String.toList_eq_nil_iff.mp hnil])
      have habs : isAbsolute (base ++ "/" ++ p) = isAbsolute base := by
        unfold isAbsolute
        cases hbase : base.toList with
        | nil => exact absurd hbase hne
        | cons c cs => simp [hbase]
      rw [target, target, habs, foldl_move_append]

/-- What a relative reference is put after; no slash is put after one. -/
theorem exists_toList_join (base : String) {p : String} (hp : isAbsolute p = false) :
    ∃ more, (join base p).toList = base.toList ++ more ∧
      (base.toList.getLast? = some '/' → more.head? ≠ some '/') := by
  have hhead : p.toList.head? ≠ some '/' := by simpa [isAbsolute] using hp
  rw [join, hp, if_neg Bool.false_ne_true]
  split
  · exact ⟨p.toList, by simp, fun _ => hhead⟩
  · next hend =>
    refine ⟨'/' :: p.toList, by simp, fun hslash => absurd ?_ hend⟩
    simp [hslash]

theorem getElem?_zero_ne {c : Char} {cs : List Char} (h : ∀ rest, cs = c :: rest → False) :
    cs[0]? ≠ some c := by
  cases cs with
  | nil => simp
  | cons d rest =>
    have hd : d ≠ c := fun hd => h rest (by rw [hd])
    simpa using hd

/-- The root shows in the two characters after the first slash. -/
theorem root_eq {p : String} (h : isAbsolute p = true) :
    root p = if p.toList[1]? = some '/' ∧ p.toList[2]? ≠ some '/' then "//" else "/" := by
  unfold root
  split
  · next hp => simp [hp]
  · next rest hno hp =>
    have hthird : rest[0]? ≠ some '/' := getElem?_zero_ne fun more hmore => hno more (by rw [hmore])
    simp [hp, hthird]
  · next rest _ hno hp =>
    have hsecond : rest[0]? ≠ some '/' :=
      getElem?_zero_ne fun more hmore => hno more (by rw [hmore])
    simp [hp, hsecond]
  · next hno =>
    cases hp : p.toList with
    | nil => simp [isAbsolute, hp] at h
    | cons c cs =>
      obtain rfl : c = '/' := by simpa [isAbsolute, hp] using h
      exact absurd hp (hno cs)

theorem root_join {base p : String} (h : isAbsolute base = true) :
    root (join base p) = if isAbsolute p then root p else root base := by
  cases hp : isAbsolute p with
  | true => rw [join, if_pos hp, if_pos rfl]
  | false =>
    obtain ⟨more, hmore, hend⟩ := exists_toList_join base hp
    rw [if_neg Bool.false_ne_true, root_eq (isAbsolute_join h p), root_eq h, hmore]
    -- what is put after the base shows only where that is one slash or two
    have hfirst (hlast : base.toList.getLast? = some '/') : more[0]? ≠ some '/' := by
      rw [← List.head?_eq_getElem?]
      exact hend hlast
    have hslash : base.toList.head? = some '/' := by simpa [isAbsolute] using h
    rcases hbase : base.toList with _ | ⟨c, _ | ⟨d, _ | ⟨e, cs⟩⟩⟩
    · simp [hbase] at hslash
    · rw [hbase] at hfirst hslash
      simp [hfirst hslash]
    · rw [hbase] at hfirst
      by_cases hd : d = '/' <;> simp_all
    · rfl

/-! ### Normalizing on the way -/

theorem root_normalize {p : String} (h : isAbsolute p = true) : root (normalize p) = root p := by
  have hroot := isRoot_root h
  rw [normalize, h, spell_eq_append hroot]
  exact root_append hroot (head?_joinWith_ne_slash (evaluate_steps_plain p))

theorem steps_normalize {p : String} (h : isAbsolute p = true) (here : Place) :
    steps (normalize p) = target here p := by
  rw [normalize, h, steps_spell (isRoot_root h) (evaluate_steps_plain p), evaluate_eq_target h]

theorem target_normalize {p : String} (h : isAbsolute p = true) (here : Place) :
    target here (normalize p) = target here p := by
  rw [target_of_isCanonical (normalize_isCanonical h), steps_normalize h]

/-- Two absolute paths are normalized alike exactly if they have the same root and name the same
place. -/
theorem normalize_eq_iff {p q : String} (hp : isAbsolute p = true) (hq : isAbsolute q = true)
    (here : Place) :
    normalize p = normalize q ↔ root p = root q ∧ target here p = target here q := by
  constructor
  · intro h
    rw [← root_normalize hp, ← root_normalize hq, ← target_normalize hp, ← target_normalize hq, h]
    exact ⟨rfl, rfl⟩
  · rintro ⟨hroot, htarget⟩
    rw [normalize_eq_spell hp here, normalize_eq_spell hq here, hroot, htarget]

theorem isAbsolute_normalize {p : String} (h : isAbsolute p = true) :
    isAbsolute (normalize p) = true := (normalize_isCanonical h).isAbsolute

/-- A base may be normalized before something is joined to it. -/
theorem normalize_join_normalize {base : String} (h : isAbsolute base = true) (p : String) :
    normalize (join (normalize base) p) = normalize (join base p) := by
  have hbase := isAbsolute_normalize h
  rw [normalize_eq_iff (isAbsolute_join hbase p) (isAbsolute_join h p) [], root_join hbase,
    root_join h, root_normalize h, target_join, target_join, target_normalize h]
  exact ⟨rfl, rfl⟩

theorem normalize_join_congr {base base' : String} (h : isAbsolute base = true)
    (h' : isAbsolute base' = true) (hsame : normalize base = normalize base') (p : String) :
    normalize (join base p) = normalize (join base' p) := by
  rw [← normalize_join_normalize h, hsame, normalize_join_normalize h']

/-- The empty reference and `.` lead nowhere. -/
theorem normalize_join_stay {base p : String} (h : isAbsolute base = true)
    (hp : p = "" ∨ p = ".") : normalize (join base p) = normalize base := by
  have hrelative : isAbsolute p = false := by rcases hp with rfl | rfl <;> rfl
  have hstay (here : Place) : target here p = here := by rcases hp with rfl | rfl <;> rfl
  rw [normalize_eq_iff (isAbsolute_join h p) h [], root_join h, hrelative,
    if_neg Bool.false_ne_true, target_join, hstay]
  exact ⟨rfl, rfl⟩

/-- A reference is resolved as it is joined to the base and to the working directory. -/
theorem resolve_eq_normalize {cwd : String} (hcwd : isAbsolute cwd = true) (p : String)
    (base : Option String) :
    resolve cwd p base = normalize (join (join cwd (base.getD "")) p) := by
  cases hp : isAbsolute p with
  | true =>
    unfold resolve
    rw [if_pos hp, join, if_pos hp]
  | false =>
    -- an empty base is read as `.`
    have hdot : normalize (join (join cwd ".") p) = normalize (join (join cwd "") p) := by
      refine normalize_join_congr (isAbsolute_join hcwd ".") (isAbsolute_join hcwd "") ?_ p
      rw [normalize_join_stay hcwd (.inr rfl), normalize_join_stay hcwd (.inl rfl)]
    unfold resolve
    rw [hp, if_neg Bool.false_ne_true]
    cases base with
    | none =>
      dsimp only
      rw [absolute, normalize_join_normalize (isAbsolute_join hcwd "."), hdot]
      rfl
    | some base =>
      dsimp only [Option.getD_some]
      split
      · next hempty =>
        rw [hempty, absolute, normalize_join_normalize (isAbsolute_join hcwd "."), hdot]
      · rw [absolute, normalize_join_normalize (isAbsolute_join hcwd base)]

theorem IsCanonical.resolve_eq {p : String} (h : IsCanonical p) (cwd : String)
    (base : Option String) : resolve cwd p base = p := by
  unfold resolve
  rw [if_pos h.isAbsolute, h.normalize_eq]

/-- A base may be resolved by itself before a reference is resolved against it. -/
theorem resolve_resolve {cwd : String} (hcwd : isAbsolute cwd = true) (p base : String) :
    resolve cwd p (some (resolve cwd base none)) = resolve cwd p (some base) := by
  have hhere := isAbsolute_join hcwd ""
  have hbase : resolve cwd base none = normalize (join cwd base) := by
    rw [resolve_eq_normalize hcwd]
    exact normalize_join_congr hhere hcwd (normalize_join_stay hcwd (.inl rfl)) base
  have habs : isAbsolute (normalize (join cwd base)) = true :=
    isAbsolute_normalize (isAbsolute_join hcwd base)
  have hjoin : join cwd (normalize (join cwd base)) = normalize (join cwd base) := by
    rw [join, if_pos habs]
  calc resolve cwd p (some (resolve cwd base none))
      = normalize (join (normalize (join cwd base)) p) := by
        rw [hbase, resolve_eq_normalize hcwd, Option.getD_some, hjoin]
    _ = normalize (join (join cwd base) p) :=
        normalize_join_normalize (isAbsolute_join hcwd base) p
    _ = resolve cwd p (some base) := (resolve_eq_normalize hcwd p (some base)).symm

/-! ### Components -/

/-- The components of references of which each is seen from those before it: all from the last
absolute one on. -/
def components (references : List String) : List String :=
  references.foldl (fun before p =>
    if isAbsolute p then splitAtChar '/' p else before ++ splitAtChar '/' p) []

theorem foldl_move_components_concat (references : List String) (p : String) :
    (components (references ++ [p])).foldl move [] =
      target ((components references).foldl move []) p := by
  rw [components, List.foldl_append, ← components, target]
  change (if isAbsolute p then splitAtChar '/' p else _ ++ splitAtChar '/' p).foldl move [] = _
  split
  · rfl
  · rw [List.foldl_append]

/-- The place that a working directory, a base and a reference name together. -/
theorem target_join_join (cwd base p : String) :
    target [] (join (join cwd base) p) = (components [cwd, base, p]).foldl move [] := by
  have hcwd : (components [cwd]).foldl move [] = target [] cwd :=
    foldl_move_components_concat [] cwd
  have hbase : (components [cwd, base]).foldl move [] = target (target [] cwd) base := by
    rw [← hcwd]
    exact foldl_move_components_concat [cwd] base
  rw [target_join, target_join, ← hbase]
  exact (foldl_move_components_concat [cwd, base] p).symm

/-- Plain steps under a root end in a slash only if there are none. -/
theorem getLast?_spell_ne_slash {r : String} (hr : IsRoot r) {parts : List String}
    (h : ∀ s ∈ parts, IsPlainStep s) (hne : parts ≠ []) :
    (spell r parts).toList.getLast? ≠ some '/' := by
  rw [spell_eq_append hr, String.toList_append]
  intro hlast
  have hsplit := splitAtChar_joinWith hne fun s hs => (h s hs).no_slash
  cases hjoined : (joinWith "/" parts).toList with
  | nil =>
    rw [String.toList_eq_nil_iff.mp hjoined] at hsplit
    have hmem : "" ∈ parts := by
      rw [← hsplit]
      exact List.mem_singleton_self _
    exact (h "" hmem).ne_empty rfl
  | cons c cs =>
    have hend : (joinWith "/" parts).toList.getLast? = some '/' := by
      rwa [List.getLast?_append_of_ne_nil _ (by simp [hjoined])] at hlast
    obtain ⟨front, hfront⟩ := exists_eq_append_slash hend
    have hmem : "" ∈ parts := by
      rw [← hsplit, hfront, splitAtChar_append_slash_end]
      simp
    exact (h "" hmem).ne_empty rfl

namespace IsCanonical
variable {p : String}

theorem isRoot_of_slash (h : IsCanonical p) (hlast : p.toList.getLast? = some '/') : IsRoot p := by
  have hroot := isRoot_root h.isAbsolute
  cases hsteps : steps p with
  | nil =>
    have hspell := h.eq_spell
    rw [hsteps, spell_eq_append hroot] at hspell
    have hself : p = root p := by simpa [joinWith] using hspell
    rwa [← hself] at hroot
  | cons s rest =>
    have hne : steps p ≠ [] := by simp [hsteps]
    rw [h.eq_spell] at hlast
    exact absurd hlast (getLast?_spell_ne_slash hroot h.steps_plain hne)

/-- Only the root makes empty components. -/
theorem mem_components (h : IsCanonical p) {s : String} (hs : s ∈ splitAtChar '/' p) :
    s = "" ∨ IsPlainStep s := by
  have hparts (hs : s ∈ splitAtChar '/' (joinWith "/" (steps p))) : s = "" ∨ IsPlainStep s := by
    by_cases hne : steps p = []
    · rw [hne] at hs
      exact .inl (List.mem_singleton.mp hs)
    · rw [splitAtChar_joinWith hne fun r hr => (h.steps_plain r hr).no_slash] at hs
      exact .inr (h.steps_plain s hs)
  rw [h.eq_spell, spell_eq_append (isRoot_root h.isAbsolute)] at hs
  rcases isRoot_root h.isAbsolute with hroot | hroot <;> rw [hroot] at hs
  · rw [splitAtChar_slash_append] at hs
    rcases List.mem_cons.mp hs with hs | hs
    · exact .inl hs
    · exact hparts hs
  · have htwo : "//" ++ joinWith "/" (steps p) = "/" ++ ("/" ++ joinWith "/" (steps p)) := by
      rw [← String.append_assoc]
      rfl
    rw [htwo, splitAtChar_slash_append, splitAtChar_slash_append] at hs
    rcases List.mem_cons.mp hs with hs | hs
    · exact .inl hs
    rcases List.mem_cons.mp hs with hs | hs
    · exact .inl hs
    · exact hparts hs

end IsCanonical

/-- A resolved path is absolute and canonical: it is a root with plain components under it, without
`.`, `..` or a slash at its end. The components are those of the working directory, the base and the
reference, from the last absolute one on, with `..` resolved on the way and the top never left.
Resolving it again changes nothing, and a base may be resolved by itself first. -/
theorem resolve_names_place {cwd : String} (hcwd : isAbsolute cwd = true) (p : String)
    (base : Option String) :
    let resolved := resolve cwd p base
    let place := (components [cwd, base.getD "", p]).foldl move []
    isAbsolute resolved = true ∧
      (∀ s ∈ splitAtChar '/' resolved, s ≠ "." ∧ s ≠ "..") ∧
      (resolved.toList.getLast? = some '/' → resolved = "/" ∨ resolved = "//") ∧
      (∃ r, (r = "/" ∨ r = "//") ∧ resolved = r ++ joinWith "/" place) ∧ steps resolved = place ∧
      (∀ cwd' base', resolve cwd' resolved base' = resolved) ∧
      ∀ b, resolve cwd p (some (resolve cwd b none)) = resolve cwd p (some b) := by
  have hjoined := isAbsolute_join (isAbsolute_join hcwd (base.getD "")) p
  have hcanonical : IsCanonical (resolve cwd p base) := by
    rw [resolve_eq_normalize hcwd]
    exact normalize_isCanonical hjoined
  have hsteps : steps (resolve cwd p base) = (components [cwd, base.getD "", p]).foldl move [] := by
    rw [resolve_eq_normalize hcwd, steps_normalize hjoined [], target_join_join]
  refine ⟨hcanonical.isAbsolute, fun s hs => ?_, hcanonical.isRoot_of_slash, ?_, hsteps, ?_, ?_⟩
  · rcases hcanonical.mem_components hs with rfl | hplain
    · exact ⟨by decide, by decide⟩
    · exact ⟨hplain.ne_dot, hplain.ne_parent⟩
  · have hroot := isRoot_root hcanonical.isAbsolute
    refine ⟨root (resolve cwd p base), hroot, ?_⟩
    rw [← hsteps, ← spell_eq_append hroot]
    exact hcanonical.eq_spell
  · intro cwd' base'
    exact hcanonical.resolve_eq cwd' base'
  · exact resolve_resolve hcwd p

/-- From a directory under the root of two slashes, with steps up across the joints. -/
theorem resolve_names_place_across_joints :
    isAbsolute "//srv/./a/" = true ∧
      resolve "//srv/./a/" "..//x/y/../z/." (some "../b//c") = "//srv/b/x/z" ∧
      steps "//srv/b/x/z" =
        (components ["//srv/./a/", "../b//c", "..//x/y/../z/."]).foldl move [] := by
  have habs : isAbsolute "//srv/./a/" = true := by decide
  have hresolved : resolve "//srv/./a/" "..//x/y/../z/." (some "../b//c") = "//srv/b/x/z" := by
    decide +kernel
  obtain ⟨-, -, -, -, hsteps, -⟩ := resolve_names_place habs "..//x/y/../z/." (some "../b//c")
  rw [hresolved] at hsteps
  exact ⟨habs, hresolved, hsteps⟩

end Path

end DocFilter
