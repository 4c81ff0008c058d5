import DocFilter.Json.Table
import DocFilter.Proofs.Decimal.Units

/-!
# Keys of tables

Two values are the same key if they come down to the same thing: a number to how many units it is,
a pair to what its parts come down to. So being the same key is symmetric and transitive, and what
is set under a key is found under it and under no other.
-/

namespace DocFilter

/-- What a key comes down to; a number that is not finite comes down to itself. -/
inductive Key where
  | null
  | number (n : Int ⊕ Binary64)
  | text (s : String)
  | pair (first second : Key)
  | foreign (v : Foreign)

namespace Json

variable {a b c : Json}

def intUnits (n : Int) : Int ⊕ Binary64 := .inl (n * twoPow 1074)

def floatUnits (x : Binary64) : Int ⊕ Binary64 := if x.isFinite then .inl x.units else .inr x

/-- What a value comes down to as a key. -/
def key? : Json → Option Key
  | .null => some .null
  | .bool b => some (.number (intUnits (if b then 1 else 0)))
  | .int n => some (.number (intUnits n))
  | .float x => some (.number (floatUnits x))
  | .str s => some (.text s)
  | .pair v w => do return .pair (← v.key?) (← w.key?)
  | .foreign v => some (.foreign v)
  | .arr _ | .obj _ | .table _ => none

theorem intUnits_inj {m n : Int} : intUnits m = intUnits n ↔ m = n := by
  unfold intUnits
  rw [Sum.inl.injEq]
  exact mul_left_inj' (Int.natCast_ne_zero.mpr (twoPow_pos 1074).ne')

theorem floatUnits_eq_intUnits {x : Binary64} {n : Int} :
    floatUnits x = intUnits n ↔ x.eqInt n = true := by
  rw [Binary64.eqInt_iff, floatUnits, intUnits]
  cases x.isFinite with
  | false => simp only [Bool.false_eq_true, if_false, reduceCtorEq, false_and]
  | true => simp only [if_true, Sum.inl.injEq, true_and]

theorem floatUnits_inj {x y : Binary64} :
    floatUnits x = floatUnits y ↔ x = y ∨ x.eqValue y = true := by
  by_cases hfinite : x.isFinite = true ∧ y.isFinite = true
  · rw [Binary64.eqValue_iff_of_isFinite hfinite.1 hfinite.2, floatUnits, floatUnits,
      if_pos hfinite.1, if_pos hfinite.2, Sum.inl.injEq]
    exact ⟨.inr, Or.rec (congrArg Binary64.units) id⟩
  · have hsame : x.eqValue y = true → x = y := Binary64.eq_of_eqValue (by
      simpa [-not_and, not_and_or] using hfinite)
    constructor
    · intro hkey
      unfold floatUnits at hkey
      split at hkey <;> split at hkey <;> simp_all
    · rintro (rfl | hvalue)
      · rfl
      · rw [hsame hvalue]

theorem key?_pair_eq_some {v w : Json} {k : Key} :
    (Json.pair v w).key? = some k ↔
      ∃ k₁ k₂, v.key? = some k₁ ∧ w.key? = some k₂ ∧ k = .pair k₁ k₂ := by
  simp only [key?, Option.bind_eq_bind, Option.bind_eq_some_iff, Option.pure_def,
    Option.some.injEq]
  grind

theorem same_null_iff : a.same .null = true ↔ a.key? = some .null := by
  cases a
  case pair v w => simp [same, isNull, key?_pair_eq_some]
  all_goals simp [same, isNull, key?]

theorem same_str_iff {s : String} : a.same (.str s) = true ↔ a.key? = some (.text s) := by
  cases a
  case pair v w => simp [same, text?, key?_pair_eq_some]
  all_goals simp [same, text?, key?]

theorem same_foreign_iff {v : Foreign} :
    a.same (.foreign v) = true ↔ a.key? = some (.foreign v) := by
  cases a
  case pair v w => simp [same, key?_pair_eq_some]
  all_goals simp [same, key?]

theorem same_int_iff {n : Int} :
    a.same (.int n) = true ↔ a.key? = some (.number (intUnits n)) := by
  cases a
  case pair v w => simp [same, sameNumber?, asInt?, key?_pair_eq_some]
  all_goals simp [same, sameNumber?, asInt?, key?, intUnits_inj, floatUnits_eq_intUnits]

theorem same_bool (a : Json) (b : Bool) :
    a.same (.bool b) = a.same (.int (if b then 1 else 0)) := by
  cases a <;> rfl

theorem same_float_iff {x : Binary64} (h : ∀ y, a ≠ .float y) :
    a.same (.float x) = true ↔ a.key? = some (.number (floatUnits x)) := by
  have hint (n : Int) : intUnits n = floatUnits x ↔ x.eqInt n = true := by
    rw [eq_comm, floatUnits_eq_intUnits]
  cases a
  case float y => exact absurd rfl (h y)
  case pair v w => simp [same, sameNumber?, asInt?, key?_pair_eq_some]
  all_goals simp [same, sameNumber?, asInt?, key?, hint]

/-- Values are the same key if they come down to the same. -/
theorem isSameKey_iff : a.isSameKey b = true ↔ ∃ k, a.key? = some k ∧ b.key? = some k := by
  fun_induction isSameKey a b with
  | case1 v w x y hv hw =>
    rw [Bool.and_eq_true, hv, hw]
    simp only [key?_pair_eq_some]
    grind
  | case2 a v w hpair =>
    simp only [Bool.false_eq_true, false_iff, not_exists, not_and]
    rintro k ha hk
    obtain ⟨k₁, k₂, -, -, rfl⟩ := key?_pair_eq_some.1 hk
    cases a
    case pair x y => exact hpair x y rfl
    all_goals simp [key?] at ha
  | case3 x y => simp [key?, floatUnits_inj, eq_comm (a := floatUnits x)]
  | case4 a x hfloat => simp [same_float_iff hfloat, key?]
  | case5 => simp [key?]
  | case6 => simp [key?]
  | case7 => simp [key?]
  | case8 a b =>
    cases b <;>
      simp_all [same_null_iff, same_bool, same_int_iff, same_str_iff, same_foreign_iff, key?]

theorem isSameKey_symm (h : a.isSameKey b = true) : b.isSameKey a = true := by
  obtain ⟨k, ha, hb⟩ := isSameKey_iff.1 h
  exact isSameKey_iff.2 ⟨k, hb, ha⟩

theorem isSameKey_trans (hab : a.isSameKey b = true) (hbc : b.isSameKey c = true) :
    a.isSameKey c = true := by
  obtain ⟨k, ha, hb⟩ := isSameKey_iff.1 hab
  obtain ⟨l, hb', hc⟩ := isSameKey_iff.1 hbc
  obtain rfl : k = l := Option.some.inj (hb.symm.trans hb')
  exact isSameKey_iff.2 ⟨k, ha, hc⟩

/-- What is the same as one of two keys that are the same is the same as the other. -/
theorem isSameKey_congr (h : b.isSameKey c = true) (a : Json) : a.isSameKey b = a.isSameKey c := by
  rw [Bool.eq_iff_iff]
  exact ⟨fun hab => isSameKey_trans hab h, fun hac => isSameKey_trans hac (isSameKey_symm h)⟩

theorem isSameKey_comm (a b : Json) : a.isSameKey b = b.isSameKey a := by
  rw [Bool.eq_iff_iff]
  exact ⟨isSameKey_symm, isSameKey_symm⟩

theorem isSameKey_self (h : a.isKey = true) : a.isSameKey a = true := by
  have hkey : a.key?.isSome = true := by
    fun_induction isKey a with
    | case1 v w hv hw =>
      rw [Bool.and_eq_true] at h
      obtain ⟨k, hk⟩ := Option.isSome_iff_exists.mp (hv h.1)
      obtain ⟨l, hl⟩ := Option.isSome_iff_exists.mp (hw h.2)
      exact Option.isSome_iff_exists.mpr ⟨_, key?_pair_eq_some.2 ⟨k, l, hk, hl, rfl⟩⟩
    | case6 a => cases a <;> simp_all [key?]
    | _ => simp_all [key?]
  obtain ⟨k, hk⟩ := Option.isSome_iff_exists.mp hkey
  exact isSameKey_iff.2 ⟨k, hk, hk⟩

/-- Two texts are the same key if they are the same text. -/
theorem isSameKey_str {s : String} : a.isSameKey (.str s) = true ↔ a = .str s := by
  cases a <;> simp [isSameKey, same, text?]

end Json

def Fields.entries (fields : Fields) : List (Json × Json) := fields.map fun p => (.str p.1, p.2)

theorem Fields.entries_cons (field : String × Json) (fields : Fields) :
    entries (field :: fields) = (.str field.1, field.2) :: fields.entries := rfl

theorem Json.entries?_obj (fields : Fields) :
    (Json.obj fields).entries? = some fields.entries := rfl

namespace Table

variable {entries : List (Json × Json)} {key key' v : Json}

/-- Keys that are keys, none of them twice. -/
structure IsDictionary (entries : List (Json × Json)) : Prop where
  keys : ∀ e ∈ entries, e.1.isKey = true
  distinct : entries.Pairwise fun e f => e.1.isSameKey f.1 = false

theorem IsDictionary.tail {e : Json × Json} (h : IsDictionary (e :: entries)) :
    IsDictionary entries :=
  ⟨fun f hf => h.keys f (List.mem_cons_of_mem _ hf), (List.pairwise_cons.mp h.distinct).2⟩

theorem get?_cons (e : Json × Json) (entries : List (Json × Json)) (key : Json) :
    get? (e :: entries) key = if e.1.isSameKey key then some e.2 else get? entries key := by
  unfold get?
  rw [List.find?_cons]
  split <;> simp_all

theorem get?_congr (h : key.isSameKey key' = true) (entries : List (Json × Json)) :
    get? entries key = get? entries key' := by
  unfold get?
  simp only [Json.isSameKey_congr h]

theorem get?_eq_none (h : ∀ e ∈ entries, e.1.isSameKey key = false) : get? entries key = none := by
  unfold get?
  rw [Option.map_eq_none_iff, List.find?_eq_none]
  intro e he
  simp [h e he]

theorem get?_set (entries : List (Json × Json)) (key key' v : Json) :
    get? (set entries key v) key' =
      if key.isSameKey key' then some v else get? entries key' := by
  induction entries with
  | nil => exact get?_cons _ _ _
  | cons e entries ih =>
    obtain ⟨k, w⟩ := e
    rw [set]
    split
    · next hsame =>
      have hboth : k.isSameKey key' = key.isSameKey key' := by
        rw [Json.isSameKey_comm k, Json.isSameKey_congr hsame, Json.isSameKey_comm]
      rw [get?_cons, get?_cons, hboth]
      split <;> rfl
    · next hother =>
      rw [get?_cons, get?_cons, ih]
      split
      · next hsame =>
        have hne : ¬ key.isSameKey key' = true := fun h =>
          hother (Json.isSameKey_trans hsame (Json.isSameKey_symm h))
        rw [if_neg hne]
      · rfl

theorem set_of_get? {old : Json} (h : get? entries key = some old) :
    set entries key old = entries := by
  induction entries with
  | nil => cases h
  | cons e entries ih =>
    obtain ⟨k, w⟩ := e
    rw [get?_cons] at h
    rw [set]
    split at h
    · next hsame =>
      obtain rfl : w = old := Option.some.inj h
      exact if_pos hsame
    · next hother => rw [if_neg hother, ih h]

theorem get?_of_mem (h : IsDictionary entries) (hmem : (key, v) ∈ entries) :
    get? entries key = some v := by
  induction entries with
  | nil => cases hmem
  | cons e entries ih =>
    obtain ⟨hne, -⟩ := List.pairwise_cons.mp h.distinct
    rw [get?_cons]
    rcases List.mem_cons.mp hmem with rfl | hmem'
    · exact if_pos (Json.isSameKey_self (h.keys _ List.mem_cons_self))
    · have hother : ¬ e.1.isSameKey key = true := by
        simpa using hne _ hmem'
      rw [if_neg hother]
      exact ih h.tail hmem'

theorem mem_set {e : Json × Json} (h : e ∈ set entries key v) :
    (e.1 = key ∨ ∃ f ∈ entries, f.1 = e.1) ∧ (e.2 = v ∨ ∃ f ∈ entries, f.2 = e.2) := by
  induction entries with
  | nil =>
    obtain rfl := List.mem_singleton.mp h
    exact ⟨.inl rfl, .inl rfl⟩
  | cons f entries ih =>
    rw [set] at h
    simp only [List.mem_cons, exists_eq_or_imp]
    split at h
    · rcases List.mem_cons.mp h with rfl | he
      · exact ⟨.inr (.inl rfl), .inl rfl⟩
      · exact ⟨.inr (.inr ⟨e, he, rfl⟩), .inr (.inr ⟨e, he, rfl⟩)⟩
    · rcases List.mem_cons.mp h with rfl | he
      · exact ⟨.inr (.inl rfl), .inr (.inl rfl)⟩
      · exact ⟨(ih he).1.imp_right .inr, (ih he).2.imp_right .inr⟩

theorem IsDictionary.set (h : IsDictionary entries) (hkey : key.isKey = true) (v : Json) :
    IsDictionary (Table.set entries key v) := by
  constructor
  · intro e he
    rcases (mem_set he).1 with heq | ⟨f, hf, heq⟩
    · rwa [heq]
    · exact heq ▸ h.keys f hf
  · induction entries with
    | nil => exact List.pairwise_singleton _ _
    | cons e entries ih =>
      obtain ⟨hne, -⟩ := List.pairwise_cons.mp h.distinct
      rw [Table.set]
      split
      · exact List.pairwise_cons.mpr ⟨hne, h.tail.distinct⟩
      · next hother =>
        refine List.pairwise_cons.mpr ⟨fun f hf => ?_, ih h.tail⟩
        rcases (mem_set hf).1 with heq | ⟨g, hg, heq⟩
        · simpa [heq] using hother
        · exact heq ▸ hne g hg

theorem mem_of_get? (h : get? entries key = some v) : ∃ e ∈ entries, e.2 = v := by
  obtain ⟨e, hfind, hv⟩ := Option.map_eq_some_iff.mp h
  exact ⟨e, List.mem_of_find?_eq_some hfind, hv⟩

theorem get?_entries (fields : Fields) (name : String) :
    get? fields.entries (.str name) = fields.get? name := by
  induction fields with
  | nil => rfl
  | cons field fields ih =>
    obtain ⟨k, v⟩ := field
    rw [Fields.entries_cons, get?_cons, ih, Fields.get?, Fields.get?, Dictionary.lookup_cons]
    by_cases hname : name = k
    · simp [hname, Json.isSameKey_str]
    · simp [hname, Json.isSameKey_str, Ne.symm hname]

theorem set_entries (fields : Fields) (name : String) (v : Json) :
    set fields.entries (.str name) v = (fields.set name v).entries := by
  induction fields with
  | nil => rfl
  | cons field fields ih =>
    obtain ⟨k, w⟩ := field
    rw [Fields.entries_cons, set, ih, Fields.set, Fields.set, Dictionary.set]
    by_cases hname : k = name
    · simp [hname, Json.isSameKey_str, Fields.entries_cons]
    · simp [hname, Json.isSameKey_str, Fields.entries_cons]

theorem isDictionary_entries {fields : Fields} (h : (Dictionary.keys fields).Nodup) :
    IsDictionary fields.entries := by
  constructor
  · intro e he
    obtain ⟨field, -, rfl⟩ := List.mem_map.mp he
    rfl
  · rw [Fields.entries, List.pairwise_map]
    refine (List.pairwise_map.mp h).imp fun hne => ?_
    rw [Bool.eq_false_iff, Ne, Json.isSameKey_str]
    simpa using hne

/-- The fields that entries are, if all keys are texts. -/
def fields? (entries : List (Json × Json)) : Option Fields :=
  entries.mapM fun e => e.1.text?.map (·, e.2)

theorem fields?_entries (fields : Fields) : fields? fields.entries = some fields := by
  induction fields with
  | nil => rfl
  | cons field fields ih =>
    rw [Fields.entries_cons, fields?, List.mapM_cons, ← fields?, ih]
    rfl

theorem entries_of_fields? {fields : Fields} (h : fields? entries = some fields) :
    fields.entries = entries := by
  induction entries generalizing fields with
  | nil =>
    cases h
    rfl
  | cons e entries ih =>
    obtain ⟨k, v⟩ := e
    rw [fields?, List.mapM_cons] at h
    obtain ⟨field, hfield, hrest⟩ := Option.bind_eq_some_iff.mp h
    obtain ⟨s, hs, rfl⟩ := Option.map_eq_some_iff.mp hfield
    obtain ⟨rest, hfields, hpure⟩ := Option.bind_eq_some_iff.mp hrest
    obtain rfl := Option.some.inj hpure
    cases k <;> cases hs
    rw [Fields.entries_cons, ih hfields]

theorem ofEntries_of_fields? {fields : Fields} (h : fields? entries = some fields) :
    ofEntries entries = .obj fields := by
  unfold ofEntries
  split
  · next fields' h' =>
    obtain rfl : fields' = fields := Option.some.inj (h'.symm.trans h)
    rfl
  · next h' => cases h.symm.trans h'

/-- A table shows the entries that it was made of. -/
theorem entries?_ofEntries (entries : List (Json × Json)) :
    (ofEntries entries).entries? = some entries := by
  unfold ofEntries
  split
  · next fields h => rw [Json.entries?_obj, entries_of_fields? h]
  · rfl

end Table

end DocFilter
