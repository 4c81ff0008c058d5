import DocFilter.Proofs.Document.Source
import DocFilter.Proofs.Json.Reading

/-!
# Documents that were written

A document that was written is read as the same document, from its text or from the file that it was
written to. Reading a file changes ends of lines, which is no matter: written text has no carriage
return.
-/

namespace DocFilter

/-! ### Ends of lines -/

theorem unifyLineEnds_of_not_mem {cs : List Char} (h : '\r' ∉ cs) : unifyLineEnds cs = cs := by
  induction cs with
  | nil => rfl
  | cons c cs ih =>
    obtain ⟨hc, hcs⟩ := not_or.mp (mt List.mem_cons.mpr h)
    have hne : c ≠ '\r' := Ne.symm hc
    rw [unifyLineEnds, ih hcs]
    · simp [hne]
    · simp [hne]

namespace Json

theorem not_return_escapeChar (c : Char) : '\r' ∉ escapeChar c := by
  have hunit : '\r' ∉ '\\' :: 'u' :: hexDigits 4 c.toNat ∨ 0x20 ≤ c.toNat := by
    have hall : ∀ n < 0x20, '\r' ∉ '\\' :: 'u' :: hexDigits 4 n := by decide
    by_cases hc : c.toNat < 0x20
    · exact .inl (hall _ hc)
    · exact .inr (by omega)
  unfold escapeChar
  split
  · decide
  split
  · decide
  split
  · decide
  split
  · decide
  split
  · decide
  split
  · decide
  split
  · decide
  split
  · next hc => exact hunit.resolve_right (by omega)
  · next hc _ _ _ _ => simpa using Ne.symm hc

theorem not_return_writeString (s : String) : '\r' ∉ writeString s := by
  simp [writeString, not_return_escapeChar]

theorem not_return_writeInt (n : Int) : '\r' ∉ writeInt n := by
  have hdigits : '\r' ∉ Nat.toDigits 10 n.natAbs := by
    intro h
    cases isDigit_toDigits h
  unfold writeInt
  split
  · simpa using hdigits
  · exact hdigits

theorem not_return_lineBreak (spacing : Spacing) (level : Nat) :
    '\r' ∉ spacing.lineBreak level := by
  cases spacing with
  | none => exact List.not_mem_nil
  | some step => simp [Spacing.lineBreak, List.mem_replicate]

theorem not_return_afterKey (spacing : Spacing) : '\r' ∉ spacing.afterKey := by
  cases spacing <;> simp [Spacing.afterKey]

mutual

/-- Carriage returns are escaped where they occur in a value, and stand nowhere else. -/
theorem not_return_write (spacing : Spacing) (level : Nat) (v : Json) (h : v.isPlain = true) :
    '\r' ∉ write spacing level v := by
  have hbreak := not_return_lineBreak spacing
  match v with
  | .null | .bool true | .bool false => simp [write]
  | .int n =>
    rw [write]
    exact not_return_writeInt n
  | .str s =>
    rw [write]
    exact not_return_writeString s
  | .arr [] => simp [write]
  | .arr (w :: ws) =>
    rw [isPlain_arr, arePlainItems_cons, Bool.and_eq_true_iff] at h
    have hw := not_return_write spacing (level + 1) w h.1
    have hws := not_return_writeItems spacing (level + 1) ws h.2
    simp [write, hbreak, hw, hws]
  | .obj [] => simp [write]
  | .obj ((k, w) :: fs) =>
    rw [isPlain_obj, arePlainFields_cons, Bool.and_eq_true_iff, Bool.and_eq_true_iff] at h
    have hw := not_return_write spacing (level + 1) w h.2.1
    have hfs := not_return_writeFields spacing (level + 1) fs h.2.2
    simp [write, hbreak, hw, hfs, not_return_writeString, not_return_afterKey]
  | .float _ | .pair _ _ | .table _ | .foreign _ => simp [isPlain, isProper, hasFraction] at h

theorem not_return_writeItems (spacing : Spacing) (level : Nat) (vs : List Json)
    (h : arePlainItems vs = true) : '\r' ∉ writeItems spacing level vs := by
  match vs with
  | [] => exact List.not_mem_nil
  | w :: ws =>
    rw [arePlainItems_cons, Bool.and_eq_true_iff] at h
    have hw := not_return_write spacing level w h.1
    have hws := not_return_writeItems spacing level ws h.2
    simp [writeItems, not_return_lineBreak, hw, hws]

theorem not_return_writeFields (spacing : Spacing) (level : Nat) (fs : List (String × Json))
    (h : arePlainFields fs = true) : '\r' ∉ writeFields spacing level fs := by
  match fs with
  | [] => exact List.not_mem_nil
  | (k, w) :: fs =>
    rw [arePlainFields_cons, Bool.and_eq_true_iff] at h
    have hw := not_return_write spacing level w h.1
    have hfs := not_return_writeFields spacing level fs h.2
    simp [writeFields, not_return_lineBreak, not_return_writeString, not_return_afterKey, hw, hfs]

end

theorem unifyLineEnds_render {v : Json} (h : v.isPlain = true) (spacing : Spacing) :
    String.ofList (unifyLineEnds (v.render spacing).toList) = v.render spacing := by
  have hreturn : '\r' ∉ (v.render spacing).toList := by
    rw [toList_render]
    exact not_return_write spacing 0 v h
  rw [unifyLineEnds_of_not_mem hreturn, String.ofList_toList]

end Json

namespace Document

theorem ofText_render {v : Json} (hplain : v.isPlain = true) (hdoc : isDocument v = true)
    (spacing : Json.Spacing) (source : Option String) (w : World) :
    ((ofText (v.render spacing) source).run w).1 = .ok v := by
  obtain ⟨u, hrun, -⟩ :=
    run_ofText_of_parse (Json.parse_render hplain spacing) hdoc source w
  rw [hrun]

theorem read_of_write {v : Json} (hplain : v.isPlain = true) (hdoc : isDocument v = true)
    {spacing : Json.Spacing} {p r : String} {w w' : World}
    (h : (write v spacing (.file p)).run w = (.ok r, w')) :
    ((read (.file p)).run w').1 = .ok v := by
  have htext := (Delivered.of_run h).textAt
  rw [Json.unifyLineEnds_render hplain] at htext
  have hgives : Source.Gives (v.render spacing) w' (.file p) := htext
  obtain ⟨name, hrun⟩ := run_read hgives
  rw [hrun]
  exact ofText_render hplain hdoc spacing name _

/-- A document of plain values is what its text reads as, however the text is spaced, and what the
file reads as that it was written to. So whatever text a document was read from, if the document
holds no fractions, its text is written again when it is read. -/
theorem roundTrip :
    (∀ (v : Json) (spacing : Json.Spacing), v.isPlain = true → isDocument v = true →
      (∀ source w, ((ofText (v.render spacing) source).run w).1 = .ok v) ∧
      ∀ p r w w', (write v spacing (.file p)).run w = (.ok r, w') →
        ((read (.file p)).run w').1 = .ok v) ∧
    ∀ text source w v, ((ofText text source).run w).1 = .ok v → v.hasFraction = false →
      ∀ spacing source' w', ((ofText (v.render spacing) source').run w').1.map (·.render spacing) =
        .ok (v.render spacing) := by
  constructor
  · intro v spacing hplain hdoc
    exact ⟨ofText_render hplain hdoc spacing, fun p r w w' h => read_of_write hplain hdoc h⟩
  · intro text source w v hread hfraction spacing source' w'
    obtain ⟨hparse, hdoc⟩ := parse_of_run_ofText hread
    rw [ofText_render (Json.isPlain_of_parse hparse hfraction) hdoc]
    rfl

/-- A document with every kind of character that is escaped, and some that are not. -/
def escapedDoc : Json :=
  .obj [("blocks", .arr [.str "\r\n\t\"\\\x01\x08\x0c/é𝄞", .int (-120), .arr [], .obj []]),
    ("b", .null), ("a", .bool true)]

/-- A text that gives a key twice and escapes what need not be escaped. -/
def looseText : String := " \x7b\"a\": 1.5,\n\"blocks\": [ \"\\u0041\\/\" ], \"a\": 0\x7d\r\n"

theorem roundTrip_escaped_and_loose :
    let w := World.initial ⟨[(["w"], .directory)]⟩ "/w"
    (escapedDoc.isPlain = true ∧ isDocument escapedDoc = true ∧
      ∃ w', (write escapedDoc (some 2) (.file "out.json")).run w = (.ok "", w') ∧
        ((read (.file "out.json")).run w').1 = .ok escapedDoc) ∧
    ∃ v, ((ofText looseText none).run w).1 = .ok v ∧ v.hasFraction = false ∧
      v.compact = "\x7b\"a\":0,\"blocks\":[\"A/\"]\x7d" ∧
      ((ofText v.compact none).run w).1.map Json.compact = .ok v.compact := by
  intro w
  have hplain : escapedDoc.isPlain = true := by decide +kernel
  have hwrite : ((write escapedDoc (some 2) (.file "out.json")).run w).1.toOption = some "" := by
    decide +kernel
  have hread : ((ofText looseText none).run w).1.toOption.map
      (fun v => (v.hasFraction, v.compact)) =
        some (false, "\x7b\"a\":0,\"blocks\":[\"A/\"]\x7d") := by
    decide +kernel
  constructor
  · cases hrun : (write escapedDoc (some 2) (.file "out.json")).run w with
    | mk outcome w' =>
      rw [hrun] at hwrite
      cases outcome with
      | error failure => cases hwrite
      | ok r =>
        cases hwrite
        exact ⟨hplain, rfl, w', rfl, (roundTrip.1 escapedDoc (some 2) hplain rfl).2 _ _ _ _ hrun⟩
  · cases hrun : ((ofText looseText none).run w).1 with
    | error failure =>
      rw [hrun] at hread
      cases hread
    | ok v =>
      rw [hrun] at hread
      obtain ⟨hfraction, hcompact⟩ := Prod.mk.inj (Option.some.inj hread)
      exact ⟨v, rfl, hfraction, hcompact, roundTrip.2 _ _ _ v hrun hfraction none none w⟩

end Document

end DocFilter
