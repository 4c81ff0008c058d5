import DocFilter.Dictionary

/-!
# Keys of a dictionary

Setting and erasing keep each key from occurring twice. A key that is set stays where it stands, or
comes last.
-/

namespace DocFilter

namespace Dictionary

variable {κ α : Type}

@[simp] theorem keys_nil : keys ([] : List (κ × α)) = [] := rfl

@[simp] theorem keys_cons (p : κ × α) (d : List (κ × α)) : keys (p :: d) = p.1 :: keys d := rfl

theorem keys_append (d e : List (κ × α)) : keys (d ++ e) = keys d ++ keys e := List.map_append

variable [BEq κ]

theorem nodup_keys_erase {d : List (κ × α)} (h : (keys d).Nodup) (key : κ) :
    (keys (erase d key)).Nodup :=
  h.sublist (List.filter_sublist.map _)

variable [LawfulBEq κ]

theorem set_of_not_mem {d : List (κ × α)} {key : κ} (h : key ∉ keys d) (v : α) :
    set d key v = d ++ [(key, v)] := by
  induction d with
  | nil => rfl
  | cons p d ih =>
    obtain ⟨k, w⟩ := p
    obtain ⟨hk, hkeys⟩ := not_or.mp (mt List.mem_cons.mpr h)
    have hne : (k == key) = false := beq_false_of_ne (Ne.symm hk)
    rw [set, hne, ih hkeys]
    rfl

theorem keys_set_of_mem {d : List (κ × α)} {key : κ} (h : key ∈ keys d) (v : α) :
    keys (set d key v) = keys d := by
  induction d with
  | nil => cases h
  | cons p d ih =>
    obtain ⟨k, w⟩ := p
    by_cases hk : k = key
    · simp [set, hk]
    · have hmem : key ∈ keys d := (List.mem_cons.mp h).resolve_left (Ne.symm hk)
      simp [set, beq_false_of_ne hk, ih hmem]

theorem nodup_keys_set {d : List (κ × α)} (h : (keys d).Nodup) (key : κ) (v : α) :
    (keys (set d key v)).Nodup := by
  by_cases hkey : key ∈ keys d
  · rwa [keys_set_of_mem hkey]
  · rw [set_of_not_mem hkey, keys_append]
    refine List.nodup_append.mpr ⟨h, by simp, ?_⟩
    rintro k hk j hj rfl
    obtain rfl : k = key := List.mem_singleton.mp hj
    exact hkey hk

theorem mem_keys_iff {d : List (κ × α)} {key : κ} : key ∈ keys d ↔ ∃ v, d.lookup key = some v := by
  induction d with
  | nil => simp
  | cons p d ih =>
    rw [keys_cons, List.mem_cons, ih, lookup_cons]
    by_cases hk : key = p.1
    · simp [hk]
    · simp [hk]

theorem mem_iff_lookup {d : List (κ × α)} (h : (keys d).Nodup) {key : κ} {v : α} :
    (key, v) ∈ d ↔ d.lookup key = some v := by
  induction d with
  | nil => simp
  | cons p d ih =>
    obtain ⟨k, w⟩ := p
    obtain ⟨hk, hd⟩ := List.nodup_cons.mp h
    rw [lookup_cons, List.mem_cons, ih hd]
    by_cases hkey : key = k
    · subst hkey
      have hlookup : d.lookup key ≠ some v := fun hv => hk (mem_keys_iff.mpr ⟨v, hv⟩)
      simp [hlookup, eq_comm]
    · simp [hkey]

/-- Keys that are set to one value have it, and all others what they had. -/
theorem lookup_foldl_set_eq (d : List (κ × α)) (names : List κ) (key : κ) (v : α) :
    (names.foldl (fun d name => set d name v) d).lookup key =
      if key ∈ names then some v else d.lookup key := by
  induction names generalizing d with
  | nil => simp
  | cons name names ih =>
    rw [List.foldl_cons, ih, lookup_set]
    by_cases hmem : key ∈ names
    · simp [hmem]
    · by_cases hname : key = name
      · simp [hname]
      · simp [hmem, hname]

theorem lookup_foldl_erase_eq (d : List (κ × α)) (names : List κ) (key : κ) :
    (names.foldl erase d).lookup key = if key ∈ names then none else d.lookup key := by
  induction names generalizing d with
  | nil => simp
  | cons name names ih =>
    rw [List.foldl_cons, ih, lookup_erase]
    by_cases hmem : key ∈ names
    · simp [hmem]
    · by_cases hname : key = name
      · simp [hname]
      · simp [hmem, hname]

theorem lookup_foldl_set {d : List (κ × α)} {names : List κ} {key : κ} {v w : α}
    (h : (names.foldl (fun d name => set d name v) d).lookup key = some w) :
    (key ∈ names ∧ w = v) ∨ d.lookup key = some w := by
  rw [lookup_foldl_set_eq] at h
  split at h
  · next hmem =>
    cases h
    exact .inl ⟨hmem, rfl⟩
  · exact .inr h

theorem lookup_foldl_erase {d : List (κ × α)} {names : List κ} {key : κ} {v : α}
    (h : (names.foldl erase d).lookup key = some v) : d.lookup key = some v := by
  rw [lookup_foldl_erase_eq] at h
  split at h
  · cases h
  · exact h

end Dictionary

end DocFilter
