/-!
# Dictionaries

Pairs of keys and values in the order in which the keys were first given. Reading takes the first
pair with a key; writing replaces its value in place, or adds a pair at the end.
-/

namespace DocFilter

namespace Dictionary

variable {κ α : Type} [BEq κ]

def set : List (κ × α) → κ → α → List (κ × α)
  | [], key, v => [(key, v)]
  | (k, w) :: rest, key, v => if k == key then (k, v) :: rest else (k, w) :: set rest key v

def erase (d : List (κ × α)) (key : κ) : List (κ × α) := d.filter fun (k, _) => !(k == key)

def has (d : List (κ × α)) (key : κ) : Bool := d.any fun (k, _) => k == key

def keys (d : List (κ × α)) : List κ := d.map (·.1)

/-- Looking up a key in a list that starts with a pair. -/
theorem lookup_cons (p : κ × α) (rest : List (κ × α)) (key : κ) :
    (p :: rest).lookup key = if key == p.1 then some p.2 else rest.lookup key := by
  obtain ⟨k, w⟩ := p
  cases h : key == k <;> simp [List.lookup_cons, h]

variable [LawfulBEq κ]

theorem lookup_set (d : List (κ × α)) (key key' : κ) (v : α) :
    (set d key v).lookup key' = if key' == key then some v else d.lookup key' := by
  induction d with
  | nil => simp [set, lookup_cons]
  | cons p rest ih =>
    obtain ⟨k, w⟩ := p
    by_cases hk : k = key
    · subst hk
      by_cases h : key' = k <;> simp [set, lookup_cons, h]
    · by_cases h : key' = k
      · subst h
        simp [set, hk, lookup_cons]
      · simp [set, hk, lookup_cons, h, ih]

theorem lookup_erase (d : List (κ × α)) (key key' : κ) :
    (erase d key).lookup key' = if key' == key then none else d.lookup key' := by
  induction d with
  | nil => simp [erase]
  | cons p rest ih =>
    obtain ⟨k, w⟩ := p
    simp only [erase] at ih ⊢
    by_cases hk : k = key
    · subst hk
      by_cases h : key' = k
      · simpa [h] using ih
      · simpa [h, lookup_cons] using ih
    · by_cases h : key' = k
      · subst h
        simp [hk, lookup_cons]
      · simp [hk, lookup_cons, h, ih]

end Dictionary

end DocFilter
