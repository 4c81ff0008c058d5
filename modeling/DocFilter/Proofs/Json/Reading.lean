import DocFilter.Proofs.Computation
import DocFilter.Proofs.Json.RoundTrip

/-!
# Values that were read

Reading a text gives proper values only: no kind that JSON has no form for, and each key of an
object once, also where the text gives it several times. So a value that was read, if it holds no
fractions, is the one that its own text gives back.
-/

namespace DocFilter

namespace Json

/-! ### Assignments -/

theorem areProperFields_set {fields : Fields} (h : areProperFields fields = true) (key : String)
    {v : Json} (hv : v.isProper = true) :
    areProperFields (Dictionary.set fields key v) = true := by
  induction fields with
  | nil => simp [Dictionary.set, areProperFields, hv]
  | cons field fields ih =>
    obtain ⟨k, w⟩ := field
    rw [areProperFields, Bool.and_eq_true_iff] at h
    rw [Dictionary.set]
    split
    · rw [areProperFields, hv, h.2]
      rfl
    · rw [areProperFields, h.1, ih h.2]
      rfl

/-- Assigning proper values, to whatever keys, makes a proper object. -/
theorem isProper_ofFields {assignments : Fields} (h : areProperFields assignments = true) :
    (Json.ofFields assignments).isProper = true := by
  have hassign (done : Fields) (hkeys : (Dictionary.keys done).Nodup)
      (hdone : areProperFields done = true) (rest : Fields) (hrest : areProperFields rest = true) :
      (Json.obj (rest.foldl (fun fs f => Dictionary.set fs f.1 f.2) done)).isProper = true := by
    induction rest generalizing done with
    | nil =>
      rw [List.foldl_nil, isProper, hdone, decide_eq_true hkeys]
      rfl
    | cons field rest ih =>
      obtain ⟨k, v⟩ := field
      rw [areProperFields, Bool.and_eq_true_iff] at hrest
      rw [List.foldl_cons]
      exact ih (Dictionary.set done k v) (Dictionary.nodup_keys_set hkeys k v)
        (areProperFields_set hdone k hrest.1) hrest.2
  rw [ofFields_eq_foldl]
  exact hassign [] List.nodup_nil rfl assignments h

/-! ### Readers -/

theorem isProper_of_readMagnitude {negative : Bool} {cs rest : List Char} {v : Json}
    (h : readMagnitude negative cs = some (v, rest)) : v.isProper = true := by
  unfold readMagnitude at h
  obtain ⟨⟨whole, r⟩, -, h⟩ := Option.bind_eq_some_iff.mp h
  dsimp only at h
  split at h
  · cases h
    rfl
  · cases h
    rfl
  · split at h <;> cases h <;> rfl

theorem isProper_of_readScalar {cs rest : List Char} {v : Json}
    (h : readScalar cs = .ok (v, rest)) : v.isProper = true := by
  unfold readScalar at h
  split at h
  all_goals first
    | (cases h; rfl)
    | skip
  all_goals
    split at h
    · next hread =>
      cases h
      exact isProper_of_readMagnitude hread
    · cases h

/-- With some fuel, only proper values are read. -/
structure ReadsProper (fuel : Nat) : Prop where
  value : ∀ cs v rest, readValue none fuel cs = .ok (v, rest) → v.isProper = true
  items : ∀ cs vs rest, readItems none fuel cs = .ok (vs, rest) → areProperItems vs = true
  fields : ∀ cs fs rest, readFields none fuel cs = .ok (fs, rest) → areProperFields fs = true

section Step
variable {fuel : Nat} (ih : ReadsProper fuel)
include ih

theorem isProper_of_readValue (cs : List Char) (v : Json) (rest : List Char)
    (h : readValue none (fuel + 1) cs = .ok (v, rest)) : v.isProper = true := by
  rw [readValue.eq_def] at h
  dsimp only at h
  split at h
  · next hfuel => cases hfuel
  · obtain ⟨⟨s, r⟩, -, h⟩ := bind_eq_ok h
    cases h
    rfl
  · next hfuel =>
    cases hfuel
    split at h
    · cases h
      rfl
    · obtain ⟨⟨items, r⟩, hread, h⟩ := bind_eq_ok h
      cases h
      exact ih.items _ _ _ hread
  · next hfuel =>
    cases hfuel
    split at h
    · cases h
      rfl
    · obtain ⟨⟨fields, r⟩, hread, h⟩ := bind_eq_ok h
      cases h
      exact isProper_ofFields (ih.fields _ _ _ hread)
  · exact isProper_of_readScalar h

theorem areProper_of_readItems (cs : List Char) (vs : List Json) (rest : List Char)
    (h : readItems none (fuel + 1) cs = .ok (vs, rest)) : areProperItems vs = true := by
  rw [readItems] at h
  obtain ⟨⟨v, r⟩, hread, h⟩ := bind_eq_ok h
  have hv := ih.value _ _ _ hread
  dsimp only at h
  split at h
  · cases h
    simp [areProperItems, hv]
  · obtain ⟨⟨ws, r⟩, hrest, h⟩ := bind_eq_ok h
    cases h
    simp [areProperItems, hv, ih.items _ _ _ hrest]
  · cases h

theorem areProper_of_readFields (cs : List Char) (fs : Fields) (rest : List Char)
    (h : readFields none (fuel + 1) cs = .ok (fs, rest)) : areProperFields fs = true := by
  rw [readFields.eq_def] at h
  dsimp only at h
  split at h
  · next hfuel => cases hfuel
  · next hfuel =>
    cases hfuel
    obtain ⟨⟨key, r⟩, -, h⟩ := bind_eq_ok h
    dsimp only at h
    split at h
    · obtain ⟨⟨v, r⟩, hread, h⟩ := bind_eq_ok h
      have hv := ih.value _ _ _ hread
      dsimp only at h
      split at h
      · cases h
        simp [areProperFields, hv]
      · obtain ⟨⟨gs, r⟩, hrest, h⟩ := bind_eq_ok h
        cases h
        simp [areProperFields, hv, ih.fields _ _ _ hrest]
      · cases h
    · cases h
  · cases h

end Step

theorem readsProper (fuel : Nat) : ReadsProper fuel := by
  induction fuel with
  | zero =>
    refine ⟨?_, ?_, ?_⟩
    · intro cs v rest h
      cases h
    · intro cs vs rest h
      cases h
    · intro cs fs rest h
      cases h
  | succ fuel ih =>
    exact ⟨isProper_of_readValue ih, areProper_of_readItems ih, areProper_of_readFields ih⟩

/-- Whatever a text reads as is proper. -/
theorem isProper_of_parse {text : String} {v : Json} (h : parse text = .ok v) :
    v.isProper = true := by
  rw [parse_eq_ok, parseChars.eq_def] at h
  split at h
  · cases h
  · obtain ⟨⟨w, r⟩, hread, h⟩ := bind_eq_ok h
    dsimp only at h
    split at h
    · cases h
      exact (readsProper _).value _ _ _ hread
    · cases h

theorem isPlain_of_parse {text : String} {v : Json} (h : parse text = .ok v)
    (hfraction : v.hasFraction = false) : v.isPlain = true := by
  rw [isPlain, isProper_of_parse h, hfraction]
  rfl

end Json

end DocFilter
