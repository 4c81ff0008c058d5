import DocFilter.Proofs.Dictionary
import DocFilter.Proofs.Json.Scalars

/-!
# Written values

Whatever the spacing, the text of a plain value is read as the value, with the fields of every
object in their order. The readers are followed by induction on their fuel, of which the length of
the text is enough.
-/

namespace DocFilter

namespace Json

mutual

/-- Whether a value is of the kinds that JSON has, all through, and no object has a key twice. -/
def isProper : Json → Bool
  | .null | .bool _ | .int _ | .float _ | .str _ => true
  | .arr items => areProperItems items
  | .obj fields => decide (Dictionary.keys fields).Nodup && areProperFields fields
  | .pair .. | .table _ | .foreign _ => false

def areProperItems : List Json → Bool
  | [] => true
  | v :: vs => v.isProper && areProperItems vs

def areProperFields : List (String × Json) → Bool
  | [] => true
  | (_, v) :: fs => v.isProper && areProperFields fs

end

mutual

/-- Whether some part of a value is a fraction. -/
def hasFraction : Json → Bool
  | .null | .bool _ | .int _ | .str _ | .foreign _ => false
  | .float _ => true
  | .arr items => anyItemHasFraction items
  | .pair v w => v.hasFraction || w.hasFraction
  | .obj fields => anyFieldHasFraction fields
  | .table entries => anyEntryHasFraction entries

def anyItemHasFraction : List Json → Bool
  | [] => false
  | v :: vs => v.hasFraction || anyItemHasFraction vs

def anyFieldHasFraction : List (String × Json) → Bool
  | [] => false
  | (_, v) :: fs => v.hasFraction || anyFieldHasFraction fs

def anyEntryHasFraction : List (Json × Json) → Bool
  | [] => false
  | (k, v) :: rest => k.hasFraction || v.hasFraction || anyEntryHasFraction rest

end

/-- Whether a value is proper and holds no fractions: the values that their text gives back. -/
def isPlain (v : Json) : Bool := v.isProper && !v.hasFraction

def arePlainItems (vs : List Json) : Bool := areProperItems vs && !anyItemHasFraction vs

def arePlainFields (fs : List (String × Json)) : Bool :=
  areProperFields fs && !anyFieldHasFraction fs

theorem isPlain_arr (items : List Json) : (Json.arr items).isPlain = arePlainItems items := by
  rw [isPlain, isProper, hasFraction, arePlainItems]

theorem isPlain_obj (fields : List (String × Json)) : (Json.obj fields).isPlain =
    (decide (Dictionary.keys fields).Nodup && arePlainFields fields) := by
  rw [isPlain, isProper, hasFraction, arePlainFields, Bool.and_assoc]

theorem arePlainItems_cons (v : Json) (vs : List Json) :
    arePlainItems (v :: vs) = (v.isPlain && arePlainItems vs) := by
  rw [arePlainItems, areProperItems, anyItemHasFraction, isPlain, arePlainItems, Bool.not_or]
  ac_rfl

theorem arePlainFields_cons (k : String) (v : Json) (fs : List (String × Json)) :
    arePlainFields ((k, v) :: fs) = (v.isPlain && arePlainFields fs) := by
  rw [arePlainFields, areProperFields, anyFieldHasFraction, isPlain, arePlainFields, Bool.not_or]
  ac_rfl

theorem isSpace_lineBreak (spacing : Spacing) (level : Nat) :
    ∀ c ∈ spacing.lineBreak level, isSpace c = true := by
  intro c hc
  cases spacing with
  | none => cases hc
  | some step =>
    rcases List.mem_cons.mp hc with rfl | hc
    · rfl
    · rw [(List.mem_replicate.mp hc).2]
      rfl

theorem skipSpace_of_not_isSpace {c : Char} (hc : isSpace c = false) (cs : List Char) :
    skipSpace (c :: cs) = c :: cs := by
  rw [skipSpace, List.dropWhile_cons, hc, if_neg Bool.false_ne_true]

theorem skipSpace_lineBreak (spacing : Spacing) (level : Nat) (cs : List Char) :
    skipSpace (spacing.lineBreak level ++ cs) = skipSpace cs :=
  List.dropWhile_append_of_pos (isSpace_lineBreak spacing level)

/-- What follows a value may start on a new line. -/
theorem Follows.lineBreak {cs : List Char} (h : Follows cs) (spacing : Spacing) (level : Nat) :
    Follows (spacing.lineBreak level ++ cs) := by
  cases spacing with
  | none => exact h
  | some step => exact .cons (.inr (.inr (.inr rfl))) _

theorem writeInt_cons (n : Int) :
    ∃ c cs, writeInt n = c :: cs ∧ (c = '-' ∨ c.isDigit = true) := by
  obtain ⟨c, cs, hcs⟩ := List.exists_cons_of_ne_nil (Nat.toDigits_ne_nil (n := n.natAbs) (b := 10))
  rw [writeInt]
  split
  · exact ⟨_, _, rfl, .inl rfl⟩
  · exact ⟨c, cs, hcs, .inr (isDigit_toDigits (hcs ▸ List.mem_cons_self))⟩

/-- A written value starts with no space and no mark, and closes nothing. -/
theorem write_cons {v : Json} (h : v.isPlain = true) (spacing : Spacing) (level : Nat) :
    ∃ c cs, write spacing level v = c :: cs ∧ isSpace c = false ∧ c ≠ ']' ∧ c ≠ '\uFEFF' := by
  cases v with
  | null => exact ⟨_, _, rfl, by decide⟩
  | bool b => cases b <;> exact ⟨_, _, rfl, by decide⟩
  | int n =>
    obtain ⟨c, cs, hcs, hc⟩ := writeInt_cons n
    have hne {d : Char} (hminus : d ≠ '-') (hdigit : d.isDigit = false) : c ≠ d := by
      rintro rfl
      rcases hc with hc | hc
      · exact hminus hc
      · rw [hdigit] at hc
        cases hc
    refine ⟨c, cs, hcs, ?_, hne (by decide) rfl, hne (by decide) rfl⟩
    simp [isSpace, hne]
  | str s => exact ⟨_, _, rfl, by decide⟩
  | arr items => cases items <;> rw [write] <;> exact ⟨_, _, rfl, by decide⟩
  | obj fields =>
    rcases fields with _ | ⟨⟨k, v⟩, fs⟩ <;> rw [write] <;> exact ⟨_, _, rfl, by decide⟩
  | float _ | pair _ _ | table _ | foreign _ => cases h

theorem skipSpace_write {v : Json} (h : v.isPlain = true) (spacing : Spacing) (level : Nat)
    (rest : List Char) :
    skipSpace (write spacing level v ++ rest) = write spacing level v ++ rest := by
  obtain ⟨c, cs, hcs, hc, -⟩ := write_cons h spacing level
  rw [hcs, List.cons_append, skipSpace_of_not_isSpace hc]

theorem readValue_writeInt (n : Int) (fuel : Nat) {rest : List Char} (hrest : Follows rest) :
    readValue none (fuel + 1) (writeInt n ++ rest) = .ok (.int n, rest) := by
  have hread := readScalar_writeInt n hrest
  obtain ⟨c, cs, hcs, hc⟩ := writeInt_cons n
  rw [hcs, List.cons_append] at hread ⊢
  rw [readValue, hread]
  all_goals
    rintro r ⟨⟩
    rcases hc with hc | hc <;> cases hc

theorem readValue_arr {fuel : Nat} {cs rest first : List Char} {items : List Json}
    (hskip : skipSpace cs = first) (hclosed : ∀ cs, first ≠ ']' :: cs)
    (hread : readItems none fuel first = .ok (items, rest)) :
    readValue none (fuel + 1) ('[' :: cs) = .ok (.arr items, rest) := by
  rw [readValue, hskip]
  split
  · exact absurd rfl (hclosed _)
  · rw [hread]
    rfl

theorem readValue_obj {fuel : Nat} {cs rest first : List Char} {fields : Fields}
    (hskip : skipSpace cs = first) (hclosed : ∀ cs, first ≠ '\x7d' :: cs)
    (hread : readFields none fuel first = .ok (fields, rest)) :
    readValue none (fuel + 1) ('\x7b' :: cs) = .ok (.ofFields fields, rest) := by
  rw [readValue, hskip]
  split
  · exact absurd rfl (hclosed _)
  · rw [hread]
    rfl

section Items
variable {fuel : Nat} {cs after rest : List Char} {v : Json}

theorem readItems_last (hread : readValue none fuel cs = .ok (v, after))
    (hskip : skipSpace after = ']' :: rest) : readItems none (fuel + 1) cs = .ok ([v], rest) := by
  rw [readItems, hread]
  simp only [bind, Except.bind, hskip]
  rfl

theorem readItems_cons {next : List Char} {vs : List Json}
    (hread : readValue none fuel cs = .ok (v, after)) (hskip : skipSpace after = ',' :: next)
    (hnext : readItems none fuel (skipSpace next) = .ok (vs, rest)) :
    readItems none (fuel + 1) cs = .ok (v :: vs, rest) := by
  rw [readItems, hread]
  simp only [bind, Except.bind, hskip, hnext]
  rfl

end Items

section Fields
variable {fuel : Nat} {quoted colon after rest : List Char} {key : String} {v : Json}

theorem readFields_last (hkey : readString none quoted = .ok (key, ':' :: colon))
    (hread : readValue none fuel (skipSpace colon) = .ok (v, after))
    (hskip : skipSpace after = '\x7d' :: rest) :
    readFields none (fuel + 1) ('"' :: quoted) = .ok ([(key, v)], rest) := by
  have hcolon : skipSpace (':' :: colon) = ':' :: colon := skipSpace_of_not_isSpace rfl colon
  rw [readFields, hkey]
  simp only [bind, Except.bind, hcolon, hread, hskip]
  rfl

theorem readFields_cons {next : List Char} {fields : Fields}
    (hkey : readString none quoted = .ok (key, ':' :: colon))
    (hread : readValue none fuel (skipSpace colon) = .ok (v, after))
    (hskip : skipSpace after = ',' :: next)
    (hnext : readFields none fuel (skipSpace next) = .ok (fields, rest)) :
    readFields none (fuel + 1) ('"' :: quoted) = .ok ((key, v) :: fields, rest) := by
  have hcolon : skipSpace (':' :: colon) = ':' :: colon := skipSpace_of_not_isSpace rfl colon
  rw [readFields, hkey]
  simp only [bind, Except.bind, hcolon, hread, hskip, hnext]
  rfl

end Fields

theorem ofFields_eq_foldl (fields : Fields) : Json.ofFields fields =
    .obj (fields.foldl (fun fs f => Dictionary.set fs f.1 f.2) []) := rfl

/-- Assignments to different keys are the fields that they make. -/
theorem ofFields_of_nodup {fields : Fields} (h : (Dictionary.keys fields).Nodup) :
    Json.ofFields fields = .obj fields := by
  have hassign (done rest : Fields) (hkeys : (Dictionary.keys (done ++ rest)).Nodup) :
      rest.foldl (fun fs f => Dictionary.set fs f.1 f.2) done = done ++ rest := by
    induction rest generalizing done with
    | nil => rw [List.foldl_nil, List.append_nil]
    | cons field rest ih =>
      obtain ⟨key, v⟩ := field
      have hkey : key ∉ Dictionary.keys done := by
        rw [Dictionary.keys_append, Dictionary.keys_cons] at hkeys
        intro hmem
        exact (List.nodup_append.mp hkeys).2.2 key hmem key List.mem_cons_self rfl
      rw [List.foldl_cons, Dictionary.set_of_not_mem hkey v, ih _ (by simpa using hkeys),
        List.append_assoc, List.singleton_append]
  rw [ofFields_eq_foldl, hassign [] fields h, List.nil_append]

section Written
variable (spacing : Spacing) (level : Nat) (rest : List Char)

theorem write_arr_append (v : Json) (vs : List Json) :
    write spacing level (.arr (v :: vs)) ++ rest =
      '[' :: (spacing.lineBreak (level + 1) ++ (write spacing (level + 1) v ++
        (writeItems spacing (level + 1) vs ++ (spacing.lineBreak level ++ ']' :: rest)))) := by
  simp [write]

theorem writeItems_cons_append (v : Json) (vs : List Json) :
    writeItems spacing level (v :: vs) ++ rest =
      ',' :: (spacing.lineBreak level ++ (write spacing level v ++
        (writeItems spacing level vs ++ rest))) := by
  simp [writeItems]

theorem write_obj_append (k : String) (v : Json) (fs : Fields) :
    write spacing level (.obj ((k, v) :: fs)) ++ rest =
      '\x7b' :: (spacing.lineBreak (level + 1) ++ (writeString k ++ (spacing.afterKey ++
        (write spacing (level + 1) v ++ (writeFields spacing (level + 1) fs ++
          (spacing.lineBreak level ++ '\x7d' :: rest)))))) := by
  simp [write]

theorem writeFields_cons_append (k : String) (v : Json) (fs : Fields) :
    writeFields spacing level ((k, v) :: fs) ++ rest =
      ',' :: (spacing.lineBreak level ++ (writeString k ++ (spacing.afterKey ++
        (write spacing level v ++ (writeFields spacing level fs ++ rest))))) := by
  simp [writeFields]

theorem skipSpace_writeString (s : String) :
    skipSpace (writeString s ++ rest) = writeString s ++ rest :=
  skipSpace_of_not_isSpace rfl _

theorem afterKey_append : ∃ colon, spacing.afterKey ++ rest = ':' :: colon ∧
    skipSpace colon = skipSpace rest := by
  cases spacing with
  | none => exact ⟨rest, rfl, rfl⟩
  | some step => exact ⟨' ' :: rest, rfl, rfl⟩

end Written

/-- With some fuel, all that was written of plain values is read back. -/
structure ReadsBack (spacing : Spacing) (fuel : Nat) : Prop where
  value : ∀ (v : Json) (level : Nat) (rest : List Char), v.isPlain = true →
    (write spacing level v).length ≤ fuel → Follows rest →
      readValue none fuel (write spacing level v ++ rest) = .ok (v, rest)
  items : ∀ (v : Json) (vs : List Json) (level outer : Nat) (rest : List Char),
    v.isPlain = true → arePlainItems vs = true →
      (write spacing level v).length + (writeItems spacing level vs).length < fuel →
        readItems none fuel (write spacing level v ++ (writeItems spacing level vs ++
          (spacing.lineBreak outer ++ ']' :: rest))) = .ok (v :: vs, rest)
  fields : ∀ (k : String) (v : Json) (fs : List (String × Json)) (level outer : Nat)
    (rest : List Char), v.isPlain = true → arePlainFields fs = true →
      (write spacing level v).length + (writeFields spacing level fs).length < fuel →
        readFields none fuel (writeString k ++ (spacing.afterKey ++ (write spacing level v ++
          (writeFields spacing level fs ++ (spacing.lineBreak outer ++ '\x7d' :: rest))))) =
            .ok ((k, v) :: fs, rest)

section Step
variable {spacing : Spacing} {fuel : Nat} (ih : ReadsBack spacing fuel)
include ih

theorem readValue_write (v : Json) (level : Nat) (rest : List Char) (h : v.isPlain = true)
    (hfuel : (write spacing level v).length ≤ fuel + 1) (hrest : Follows rest) :
    readValue none (fuel + 1) (write spacing level v ++ rest) = .ok (v, rest) := by
  match v with
  | .null => rfl
  | .bool true => rfl
  | .bool false => rfl
  | .int n =>
    rw [write]
    exact readValue_writeInt n fuel hrest
  | .str s =>
    obtain ⟨quoted, hquoted, hread⟩ := readString_writeString s rest
    rw [write, hquoted, readValue, hread]
    rfl
  | .arr [] => rfl
  | .arr (w :: ws) =>
    obtain ⟨hw, hws⟩ := Bool.and_eq_true_iff.mp (by rwa [isPlain_arr, arePlainItems_cons] at h)
    rw [write] at hfuel
    simp only [List.length_cons, List.length_append] at hfuel
    obtain ⟨c, cs, hcs, -, hclosed, -⟩ := write_cons hw spacing (level + 1)
    have hread := ih.items w ws (level + 1) level rest hw hws (by omega)
    rw [write_arr_append]
    refine readValue_arr ?_ ?_ hread
    · rw [skipSpace_lineBreak, skipSpace_write hw]
    · simp [hcs, hclosed]
  | .obj [] => rfl
  | .obj ((k, w) :: fs) =>
    rw [isPlain_obj, Bool.and_eq_true_iff, decide_eq_true_iff, arePlainFields_cons] at h
    obtain ⟨hkeys, hfields⟩ := h
    obtain ⟨hw, hfs⟩ := Bool.and_eq_true_iff.mp hfields
    rw [write] at hfuel
    simp only [List.length_cons, List.length_append] at hfuel
    have hread := ih.fields k w fs (level + 1) level rest hw hfs (by omega)
    rw [write_obj_append, ← ofFields_of_nodup hkeys]
    refine readValue_obj ?_ ?_ hread
    · rw [skipSpace_lineBreak, skipSpace_writeString]
    · simp [writeString]
  | .float _ | .pair _ _ | .table _ | .foreign _ => cases h

theorem readItems_write (v : Json) (vs : List Json) (level outer : Nat) (rest : List Char)
    (hv : v.isPlain = true) (hvs : arePlainItems vs = true)
    (hfuel : (write spacing level v).length + (writeItems spacing level vs).length < fuel + 1) :
    readItems none (fuel + 1) (write spacing level v ++ (writeItems spacing level vs ++
      (spacing.lineBreak outer ++ ']' :: rest))) = .ok (v :: vs, rest) := by
  cases vs with
  | nil =>
    have hend : Follows (spacing.lineBreak outer ++ ']' :: rest) :=
      Follows.lineBreak (.cons (by simp) rest) spacing outer
    rw [writeItems, List.nil_append]
    refine readItems_last (ih.value v level _ hv (by omega) hend) ?_
    rw [skipSpace_lineBreak, skipSpace_of_not_isSpace rfl]
  | cons w ws =>
    obtain ⟨hw, hws⟩ := Bool.and_eq_true_iff.mp (by rwa [arePlainItems_cons] at hvs)
    rw [writeItems] at hfuel
    simp only [List.length_cons, List.length_append] at hfuel
    have hnext := ih.items w ws level outer rest hw hws (by omega)
    rw [writeItems_cons_append]
    refine readItems_cons (ih.value v level _ hv (by omega) (.cons (.inl rfl) _))
      (skipSpace_of_not_isSpace rfl _) ?_
    rwa [skipSpace_lineBreak, skipSpace_write hw]

theorem readFields_write (k : String) (v : Json) (fs : List (String × Json)) (level outer : Nat)
    (rest : List Char) (hv : v.isPlain = true) (hfs : arePlainFields fs = true)
    (hfuel : (write spacing level v).length + (writeFields spacing level fs).length < fuel + 1) :
    readFields none (fuel + 1) (writeString k ++ (spacing.afterKey ++ (write spacing level v ++
      (writeFields spacing level fs ++ (spacing.lineBreak outer ++ '\x7d' :: rest))))) =
        .ok ((k, v) :: fs, rest) := by
  cases fs with
  | nil =>
    have hend : Follows (spacing.lineBreak outer ++ '\x7d' :: rest) :=
      Follows.lineBreak (.cons (by simp) rest) spacing outer
    have hread := ih.value v level _ hv (by omega) hend
    rw [writeFields, List.nil_append]
    obtain ⟨colon, hcolon, hskip⟩ := afterKey_append spacing (write spacing level v ++
      (spacing.lineBreak outer ++ '\x7d' :: rest))
    obtain ⟨quoted, hquoted, hkey⟩ := readString_writeString k (':' :: colon)
    rw [hcolon, hquoted]
    refine readFields_last hkey (by rwa [hskip, skipSpace_write hv]) ?_
    rw [skipSpace_lineBreak, skipSpace_of_not_isSpace rfl]
  | cons field fs =>
    obtain ⟨j, w⟩ := field
    obtain ⟨hw, hfs⟩ := Bool.and_eq_true_iff.mp (by rwa [arePlainFields_cons] at hfs)
    rw [writeFields] at hfuel
    simp only [List.length_cons, List.length_append] at hfuel
    have hnext := ih.fields j w fs level outer rest hw hfs (by omega)
    rw [writeFields_cons_append]
    rw [← skipSpace_writeString, ← skipSpace_lineBreak spacing level] at hnext
    generalize spacing.lineBreak level ++ (writeString j ++ _) = next at hnext ⊢
    have hread := ih.value v level _ hv (by omega) (Follows.cons (.inl rfl) next)
    obtain ⟨colon, hcolon, hskip⟩ := afterKey_append spacing (write spacing level v ++ ',' :: next)
    obtain ⟨quoted, hquoted, hkey⟩ := readString_writeString k (':' :: colon)
    rw [hcolon, hquoted]
    exact readFields_cons hkey (by rwa [hskip, skipSpace_write hv])
      (skipSpace_of_not_isSpace rfl _) hnext

end Step

theorem readsBack (spacing : Spacing) (fuel : Nat) : ReadsBack spacing fuel := by
  induction fuel with
  | zero =>
    refine ⟨?_, fun _ _ _ _ _ _ _ h => absurd h (Nat.not_lt_zero _),
      fun _ _ _ _ _ _ _ _ h => absurd h (Nat.not_lt_zero _)⟩
    intro v level rest hv hfuel
    obtain ⟨c, cs, hcs, -⟩ := write_cons hv spacing level
    rw [hcs] at hfuel
    cases hfuel
  | succ fuel ih => exact ⟨readValue_write ih, readItems_write ih, readFields_write ih⟩

/-- What was written of a plain value is read as the value. -/
theorem parse_render {v : Json} (h : v.isPlain = true) (spacing : Spacing) :
    parse (v.render spacing) = .ok v := by
  obtain ⟨c, cs, hcs, -, -, hmark⟩ := write_cons h spacing 0
  have hread := (readsBack spacing (2 * (write spacing 0 v).length + 1)).value v 0 [] h (by omega)
    (by simp [Follows])
  have hskip := skipSpace_write h spacing 0 []
  rw [List.append_nil] at hread hskip
  rw [parse_eq_ok, toList_render, parseChars, hskip, hread]
  · rfl
  · rw [hcs]
    rintro r ⟨⟩
    exact hmark rfl

end Json

end DocFilter
