import DocFilter.Config.Merge
import DocFilter.Proofs.Json.Keys

/-!
# What merging keeps

Of settings laid over others, every path to a value that is no table leads there in the settings on
top, or leads there in those below and is not spoken of on top. Merging with itself changes nothing,
and neither does merging a second time.
-/

namespace DocFilter

namespace Json

/-- A table has each key once, and so have all tables in it. -/
inductive IsWellKeyed : Json → Prop
  | leaf {v : Json} : v.isObject = false → IsWellKeyed v
  | mapping {v : Json} {entries : List (Json × Json)} : v.entries? = some entries →
      Table.ofEntries entries = v → Table.IsDictionary entries →
      (∀ e ∈ entries, IsWellKeyed e.2) → IsWellKeyed v

theorem IsWellKeyed.obj {fields : Fields} (h : (Dictionary.keys fields).Nodup)
    (hvalues : ∀ field ∈ fields, field.2.IsWellKeyed) : (Json.obj fields).IsWellKeyed := by
  refine .mapping rfl (Table.ofEntries_of_fields? (Table.fields?_entries fields))
    (Table.isDictionary_entries h) fun e he => ?_
  obtain ⟨field, hfield, rfl⟩ := List.mem_map.mp he
  exact hvalues field hfield

/-- The value of a key, if the value is a table that has it. -/
def child? (v : Json) (key : Json) : Option Json := v.entries?.bind (Table.get? · key)

/-- What keys lead to, one after the other. -/
def at? (v : Json) : List Json → Option Json
  | [] => some v
  | key :: path => (v.child? key).bind (·.at? path)

/-- Whether a path leads to a value that is no table. -/
def LeadsTo (v : Json) (path : List Json) (x : Json) : Prop :=
  v.at? path = some x ∧ x.isObject = false

variable {v x : Json} {path : List Json}

theorem entries?_eq_none_iff : v.entries? = none ↔ v.isObject = false := by
  cases v <;> simp [entries?, isObject]

theorem isObject_of_entries? {entries : List (Json × Json)} (h : v.entries? = some entries) :
    v.isObject = true := by
  cases v <;> simp_all [entries?, isObject]

theorem child?_eq_none (h : v.isObject = false) (key : Json) : v.child? key = none := by
  rw [child?, entries?_eq_none_iff.mpr h]
  rfl

theorem child?_of_entries? {entries : List (Json × Json)} (h : v.entries? = some entries)
    (key : Json) : v.child? key = Table.get? entries key := by
  rw [child?, h]
  rfl

theorem child?_str (v : Json) (name : String) : v.child? (.str name) = v.field? name := by
  cases v with
  | obj fields => exact Table.get?_entries fields name
  | table entries =>
    have hkey (k : Json) : k.isSameKey (.str name) = (k.text? == some name) := by
      rw [isSameKey, same] <;> simp
    simp only [child?, entries?, field?, Option.bind_some, Table.get?, hkey]
  | _ => rfl

theorem child?_obj_eq_none {fields : Fields} {key : Json}
    (h : ∀ field ∈ fields, key ≠ .str field.1) : (Json.obj fields).child? key = none := by
  refine Table.get?_eq_none fun e he => ?_
  obtain ⟨field, hfield, rfl⟩ := List.mem_map.mp he
  rw [Bool.eq_false_iff, Ne, isSameKey_comm, isSameKey_str]
  exact h field hfield

theorem leadsTo_nil : v.LeadsTo [] x ↔ v = x ∧ x.isObject = false := by
  simp [LeadsTo, at?]

theorem leadsTo_cons {key : Json} :
    v.LeadsTo (key :: path) x ↔ ∃ w, v.child? key = some w ∧ w.LeadsTo path x := by
  simp only [LeadsTo, at?, Option.bind_eq_some_iff]
  grind

end Json

namespace Config

open Json

variable {a b v x : Json} {path : List Json}

/-- A value laid over what a key has, if it has something. -/
def mergeOver (old : Option Json) (v : Json) : Json := old.elim v (merge · v)

theorem layEntries_cons (base : List (Json × Json)) (key v : Json) (rest : List (Json × Json)) :
    layEntries base ((key, v) :: rest) =
      layEntries (Table.set base key (mergeOver (Table.get? base key) v)) rest := by
  rw [layEntries]
  cases Table.get? base key <;> rfl

theorem layFields_eq (base : List (Json × Json)) (fields : Fields) :
    layFields base fields = layEntries base fields.entries := by
  induction fields generalizing base with
  | nil => rfl
  | cons field fields ih =>
    rw [layFields, ih, Fields.entries_cons, layEntries]

theorem merge_of_leaf (a : Json) (h : b.isObject = false) : merge a b = b := by
  cases b <;> simp_all [merge, isObject]

theorem mergeOver_of_leaf (old : Option Json) (h : v.isObject = false) : mergeOver old v = v := by
  cases old with
  | none => rfl
  | some a => exact merge_of_leaf a h

theorem merge_leaf (h : a.isObject = false) (b : Json) : merge a b = b := by
  cases b <;> simp [merge, entries?_eq_none_iff.mpr h]

theorem merge_of_entries? {old new : List (Json × Json)} (ha : a.entries? = some old)
    (hb : b.entries? = some new) : merge a b = Table.ofEntries (layEntries old new) := by
  cases b with
  | obj fields =>
    obtain rfl : Fields.entries fields = new := Option.some.inj hb
    rw [merge, ha, ← layFields_eq]
  | table entries =>
    cases hb
    rw [merge, ha]
  | _ => cases hb

/-- What is laid over a table is found in it, laid over what was there. -/
theorem get?_layEntries {new : List (Json × Json)} (h : Table.IsDictionary new)
    (base : List (Json × Json)) (key : Json) :
    Table.get? (layEntries base new) key =
      ((Table.get? new key).map (mergeOver (Table.get? base key))).or (Table.get? base key) := by
  induction new generalizing base with
  | nil => rfl
  | cons e new ih =>
    obtain ⟨k, v⟩ := e
    obtain ⟨hne, -⟩ := List.pairwise_cons.mp h.distinct
    rw [layEntries_cons, ih h.tail, Table.get?_set, Table.get?_cons]
    split
    · next hsame =>
      have hnone : Table.get? new key = none := Table.get?_eq_none fun f hf => by
        rw [← Json.isSameKey_congr hsame, Json.isSameKey_comm]
        exact hne f hf
      rw [hnone, Table.get?_congr hsame]
      rfl
    · rfl

/-- What is laid over a value is found in it, laid over what was there. -/
theorem child?_merge {new : List (Json × Json)} (hb : b.entries? = some new)
    (hnew : Table.IsDictionary new) (a key : Json) :
    (merge a b).child? key =
      ((b.child? key).map (mergeOver (a.child? key))).or (a.child? key) := by
  rw [child?_of_entries? hb]
  cases ha : a.entries? with
  | none =>
    have hleaf := entries?_eq_none_iff.mp ha
    rw [merge_leaf hleaf, child?_eq_none hleaf, child?_of_entries? hb]
    cases Table.get? new key <;> rfl
  | some old =>
    rw [child?_of_entries? ha, merge_of_entries? ha hb,
      child?_of_entries? (Table.entries?_ofEntries _), get?_layEntries hnew]

theorem child?_mergeOver {fields : Fields} (h : (Dictionary.keys fields).Nodup) (old : Option Json)
    (key : Json) :
    (mergeOver old (.obj fields)).child? key =
      (((Json.obj fields).child? key).map (mergeOver (old.bind (·.child? key)))).or
        (old.bind (·.child? key)) := by
  cases old with
  | none =>
    have hover : mergeOver none = id := rfl
    simp [hover]
  | some a => exact child?_merge (entries?_obj fields) (Table.isDictionary_entries h) a key

theorem isObject_merge (a : Json) (h : b.isObject = true) : (merge a b).isObject = true := by
  obtain ⟨new, hb⟩ : ∃ new, b.entries? = some new :=
    Option.ne_none_iff_exists'.mp fun hnone => by simp [entries?_eq_none_iff.mp hnone] at h
  cases ha : a.entries? with
  | none => rwa [merge_leaf (entries?_eq_none_iff.mp ha)]
  | some old =>
    rw [merge_of_entries? ha hb]
    exact isObject_of_entries? (Table.entries?_ofEntries _)

/-- Settings on top speak of a path if it leads somewhere in them, or goes on beyond a value that is
no table. -/
def SpeaksOf (b : Json) (path : List Json) : Prop :=
  (b.at? path).isSome = true ∨ ∃ before y, before <+: path ∧ before ≠ path ∧ b.LeadsTo before y

theorem speaksOf_of_leaf (h : b.isObject = false) (path : List Json) : SpeaksOf b path := by
  cases path with
  | nil => exact .inl rfl
  | cons key path => exact .inr ⟨[], b, List.nil_prefix, by simp, rfl, h⟩

theorem speaksOf_cons (h : b.isObject = true) {key : Json} :
    SpeaksOf b (key :: path) ↔ ∃ v, b.child? key = some v ∧ SpeaksOf v path := by
  constructor
  · rintro (hsome | ⟨before, y, hprefix, hne, hleads⟩)
    · obtain ⟨x, hx⟩ := Option.isSome_iff_exists.mp hsome
      obtain ⟨v, hv, hpath⟩ := Option.bind_eq_some_iff.mp hx
      exact ⟨v, hv, .inl (Option.isSome_iff_exists.mpr ⟨x, hpath⟩)⟩
    · rcases List.prefix_cons_iff.mp hprefix with rfl | ⟨rest, rfl, hrest⟩
      · obtain ⟨rfl, hleaf⟩ := leadsTo_nil.mp hleads
        simp [h] at hleaf
      · obtain ⟨v, hv, hleads⟩ := leadsTo_cons.mp hleads
        exact ⟨v, hv, .inr ⟨rest, y, hrest, fun heq => hne (heq ▸ rfl), hleads⟩⟩
  · rintro ⟨v, hv, hsome | ⟨before, y, hprefix, hne, hleads⟩⟩
    · left
      rw [at?, hv]
      exact hsome
    · exact .inr ⟨key :: before, y, by simpa using hprefix, by simpa using hne,
        leadsTo_cons.mpr ⟨v, hv, hleads⟩⟩

/-- Merging overrides leaf by leaf. -/
theorem leadsTo_merge (a : Json) (hb : b.IsWellKeyed) (path : List Json) (x : Json) :
    (merge a b).LeadsTo path x ↔ b.LeadsTo path x ∨ (a.LeadsTo path x ∧ ¬ SpeaksOf b path) := by
  induction path generalizing a b with
  | nil =>
    have hspoken : SpeaksOf b [] := .inl rfl
    cases h : b.isObject with
    | false => simp [merge_of_leaf a h, hspoken]
    | true =>
      have hno {v : Json} (hv : v.isObject = true) : ¬ v.LeadsTo [] x := by
        rw [leadsTo_nil]
        rintro ⟨rfl, hleaf⟩
        simp [hv] at hleaf
      simp [hno h, hno (isObject_merge a h), hspoken]
  | cons key path ih =>
    cases hb with
    | leaf h => simp [merge_of_leaf a h, speaksOf_of_leaf h]
    | mapping hentries hform hnew hvalues =>
      rw [leadsTo_cons, leadsTo_cons, leadsTo_cons, speaksOf_cons (isObject_of_entries? hentries),
        child?_merge hentries hnew]
      cases hv : b.child? key with
      | none => simp
      | some v =>
        have hwell : v.IsWellKeyed := by
          rw [child?_of_entries? hentries] at hv
          obtain ⟨e, he, rfl⟩ := Table.mem_of_get? hv
          exact hvalues e he
        cases a.child? key with
        | none => simp [mergeOver]
        | some old => simpa [mergeOver] using ih old hwell

theorem layEntries_eq_self {base new : List (Json × Json)}
    (h : ∀ e ∈ new, ∃ old, Table.get? base e.1 = some old ∧ merge old e.2 = old) :
    layEntries base new = base := by
  induction new with
  | nil => rfl
  | cons e new ih =>
    obtain ⟨old, hold, hmerge⟩ := h e List.mem_cons_self
    rw [layEntries_cons, hold, mergeOver, Option.elim_some, hmerge, Table.set_of_get? hold]
    exact ih fun f hf => h f (List.mem_cons_of_mem _ hf)

theorem merge_self (ha : a.IsWellKeyed) : merge a a = a := by
  induction ha with
  | leaf h => exact merge_leaf h _
  | mapping hentries hform hold _ ih =>
    rw [merge_of_entries? hentries hentries, layEntries_eq_self, hform]
    intro e he
    exact ⟨e.2, Table.get?_of_mem hold he, ih e he⟩

/-- Merging a second time changes nothing. -/
theorem merge_merge (a : Json) (hb : b.IsWellKeyed) : merge (merge a b) b = merge a b := by
  induction hb generalizing a with
  | leaf h => rw [merge_of_leaf _ h, merge_of_leaf _ h]
  | @mapping b new hentries hform hnew hvalues ih =>
    cases ha : a.entries? with
    | none =>
      rw [merge_leaf (entries?_eq_none_iff.mp ha)]
      exact merge_self (.mapping hentries hform hnew hvalues)
    | some old =>
      have hmerged : (merge a b).entries? = some (layEntries old new) := by
        rw [merge_of_entries? ha hentries, Table.entries?_ofEntries]
      rw [merge_of_entries? hmerged hentries, merge_of_entries? ha hentries]
      refine congrArg Table.ofEntries (layEntries_eq_self fun e he => ?_)
      refine ⟨mergeOver (Table.get? old e.1) e.2, ?_, ?_⟩
      · rw [get?_layEntries hnew, Table.get?_of_mem hnew he]
        rfl
      · cases Table.get? old e.1 with
        | none => exact merge_self (hvalues e he)
        | some v => exact ih e he v

theorem isDictionary_layEntries {old new : List (Json × Json)} (hold : Table.IsDictionary old)
    (hnew : Table.IsDictionary new) : Table.IsDictionary (layEntries old new) := by
  induction new generalizing old with
  | nil => exact hold
  | cons e new ih =>
    rw [layEntries_cons]
    exact ih (hold.set (hnew.keys e List.mem_cons_self) _) hnew.tail

theorem values_layEntries {P : Json → Prop} {new : List (Json × Json)}
    (hmerge : ∀ e ∈ new, ∀ v, P v → P (merge v e.2)) (hnew : ∀ e ∈ new, P e.2)
    {old : List (Json × Json)} (hold : ∀ e ∈ old, P e.2) : ∀ e ∈ layEntries old new, P e.2 := by
  induction new generalizing old with
  | nil => exact hold
  | cons e new ih =>
    obtain ⟨k, v⟩ := e
    have hover : P (mergeOver (Table.get? old k) v) := by
      cases hget : Table.get? old k with
      | none => exact hnew _ List.mem_cons_self
      | some w =>
        obtain ⟨f, hf, rfl⟩ := Table.mem_of_get? hget
        exact hmerge _ List.mem_cons_self _ (hold f hf)
    rw [layEntries_cons]
    refine ih (fun f hf => hmerge f (List.mem_cons_of_mem _ hf))
      (fun f hf => hnew f (List.mem_cons_of_mem _ hf)) fun f hf => ?_
    rcases (Table.mem_set hf).2 with heq | ⟨g, hg, heq⟩
    · rwa [heq]
    · exact heq ▸ hold g hg

/-- Merging keeps each key from standing twice. -/
theorem isWellKeyed_merge (ha : a.IsWellKeyed) (hb : b.IsWellKeyed) : (merge a b).IsWellKeyed := by
  induction hb generalizing a with
  | leaf h =>
    rw [merge_of_leaf a h]
    exact .leaf h
  | mapping hentries hform hnew hvalues ih =>
    cases ha with
    | leaf h =>
      rw [merge_leaf h]
      exact .mapping hentries hform hnew hvalues
    | mapping hentries' _ hold hvalues' =>
      rw [merge_of_entries? hentries' hentries]
      exact .mapping (Table.entries?_ofEntries _) rfl (isDictionary_layEntries hold hnew)
        (values_layEntries (fun e he _ hv => ih e he hv) hvalues hvalues')

end Config

end DocFilter
