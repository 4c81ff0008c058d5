import DocFilter.Json.Parser
import DocFilter.Json.Printer

/-!
# Written strings and numbers

A reader takes from the front of a text exactly what was written of a string or a whole number. A
string ends at its own closing quote, since every quote in it is escaped. A number ends where no
digit follows, so it matters what is written after it: `Follows` says what may stand there.
-/

namespace DocFilter

namespace Json

/-! ### Strings -/

theorem unit?_hexDigits {n : Nat} (h : n < 0x20) :
    ∃ a b c d, hexDigits 4 n = [a, b, c, d] ∧ unit? a b c d = some n := by
  have hall : ∀ n < 0x20, unit? (hexDigit (n / 16 / 16 / 16 % 16)) (hexDigit (n / 16 / 16 % 16))
      (hexDigit (n / 16 % 16)) (hexDigit (n % 16)) = some n := by decide
  exact ⟨_, _, _, _, rfl, hall n h⟩

theorem isHighUnit_of_unitChar? {n : Nat} {u : Char} (h : unitChar? none n = some u) :
    isHighUnit n = false := by
  unfold unitChar? at h
  split at h
  · cases h
  · next hhalf => exact (by simpa using hhalf : _ ∧ _).1

theorem readChars_unit (opening : Nat) {a b c d u : Char} {n : Nat}
    (hunit : unit? a b c d = some n) (hchar : unitChar? none n = some u) {rest : List Char}
    (hrest : rest ≠ []) :
    readChars none opening ('\\' :: 'u' :: a :: b :: c :: d :: rest) =
      push u (readChars none opening rest) := by
  have hhigh := isHighUnit_of_unitChar? hchar
  by_cases hpair : ∃ e f g h next r, rest = '\\' :: 'u' :: e :: f :: g :: h :: next :: r
  · obtain ⟨e, f, g, h, next, r, rfl⟩ := hpair
    rw [readChars, hunit]
    simp only [hhigh, Bool.false_eq_true, if_false, pushUnit, hchar]
  · obtain ⟨next, r, rfl⟩ := List.exists_cons_of_ne_nil hrest
    rw [readChars, hunit]
    · simp only [pushUnit, hchar]
    · rintro e f g h next' r' rfl rfl
      exact hpair ⟨e, f, g, h, next', r', rfl⟩

theorem readChars_escaped (opening : Nat) {c e : Char} (hc : escaped? c = some e)
    (rest : List Char) :
    readChars none opening ('\\' :: c :: rest) = push e (readChars none opening rest) := by
  have hu : c ≠ 'u' := by
    rintro rfl
    cases hc
  rw [readChars, hc] <;> simp [hu]

theorem readChars_plain (opening : Nat) {c : Char} (hquote : c ≠ '"') (hslash : c ≠ '\\')
    (hcontrol : ¬ c.toNat < 0x20) (rest : List Char) :
    readChars none opening (c :: rest) = push c (readChars none opening rest) := by
  rw [readChars, if_neg hcontrol] <;> simp [hquote, hslash]

/-- An escaped character is read as the character, if more follows it. -/
theorem readChars_escapeChar (opening : Nat) (c : Char) {rest : List Char} (hrest : rest ≠ []) :
    readChars none opening (escapeChar c ++ rest) = push c (readChars none opening rest) := by
  have hletter {c e : Char} (he : escaped? e = some c) :
      readChars none opening (['\\', e] ++ rest) = push c (readChars none opening rest) :=
    readChars_escaped opening he rest
  unfold escapeChar
  split
  · next hc => rw [hc, hletter rfl]
  split
  · next hc => rw [hc, hletter rfl]
  split
  · next hc => rw [hc, hletter rfl]
  split
  · next hc => rw [hc, hletter rfl]
  split
  · next hc => rw [hc, hletter rfl]
  split
  · next hc => rw [hc, hletter rfl]
  split
  · next hc => rw [hc, hletter rfl]
  split
  · next hcontrol =>
    obtain ⟨a, b, d, e, hdigits, hunit⟩ := unit?_hexDigits hcontrol
    have hchar : unitChar? none c.toNat = some c := by
      rw [unitChar?, if_neg (by simp [isHighUnit, isLowUnit]; omega), Char.ofNat_toNat]
    rw [hdigits]
    exact readChars_unit opening hunit hchar hrest
  · next hquote hslash _ _ _ _ _ hcontrol =>
    exact readChars_plain opening hquote hslash hcontrol rest

theorem readChars_escaped_text (opening : Nat) (cs rest : List Char) :
    readChars none opening (cs.flatMap escapeChar ++ '"' :: rest) = .ok (cs, rest) := by
  induction cs with
  | nil => rw [List.flatMap_nil, List.nil_append, readChars]
  | cons c cs ih =>
    rw [List.flatMap_cons, List.append_assoc, readChars_escapeChar opening c (by simp), ih]
    rfl

/-- A written string is read as the text. -/
theorem readString_writeString (s : String) (rest : List Char) :
    ∃ quoted, writeString s ++ rest = '"' :: quoted ∧ readString none quoted = .ok (s, rest) := by
  refine ⟨s.toList.flatMap escapeChar ++ '"' :: rest, by simp [writeString], ?_⟩
  rw [readString, readChars_escaped_text]
  simp only [bind, Except.bind, String.ofList_toList]
  rfl

/-! ### Whole numbers -/

/-- What may follow a value in a written text: nothing, a comma, a closing bracket, or a new
line. -/
def Follows (rest : List Char) : Prop :=
  ∀ c ∈ rest.head?, c = ',' ∨ c = ']' ∨ c = '\x7d' ∨ c = '\n'

theorem Follows.cons {c : Char} (h : c = ',' ∨ c = ']' ∨ c = '\x7d' ∨ c = '\n')
    (rest : List Char) : Follows (c :: rest) := by
  intro d hd
  cases hd
  exact h

theorem Follows.not_isDigit {c : Char} {rest : List Char} (h : Follows (c :: rest)) :
    c.isDigit = false := by
  rcases h c rfl with rfl | rfl | rfl | rfl <;> rfl

theorem spanDigits_append {ds rest : List Char} (hds : ∀ c ∈ ds, c.isDigit = true)
    (hrest : Follows rest) : spanDigits (ds ++ rest) = (ds, rest) := by
  rw [spanDigits, List.takeWhile_append_of_pos hds, List.dropWhile_append_of_pos hds]
  cases rest with
  | nil => rw [List.takeWhile_nil, List.dropWhile_nil, List.append_nil]
  | cons c rest =>
    rw [List.takeWhile_cons, List.dropWhile_cons, hrest.not_isDigit]
    simp

theorem toDigits_cons (n : Nat) :
    (n = 0 ∧ Nat.toDigits 10 n = ['0']) ∨
      ∃ c cs, Nat.toDigits 10 n = c :: cs ∧ c ≠ '0' := by
  induction n using Nat.strongRecOn with
  | ind n ih =>
    by_cases hsmall : n < 10
    · have hall : ∀ n < 10, n = 0 ∨ n.digitChar ≠ '0' := by decide
      rw [Nat.toDigits_of_lt_base hsmall]
      rcases hall n hsmall with rfl | hdigit
      · exact .inl ⟨rfl, rfl⟩
      · exact .inr ⟨_, [], rfl, hdigit⟩
    · rw [Nat.toDigits_of_base_le (by omega) (by omega)]
      rcases ih (n / 10) (by omega) with ⟨hzero, -⟩ | ⟨c, cs, hcs, hc⟩
      · omega
      · exact .inr ⟨c, cs ++ [(n % 10).digitChar], by rw [hcs, List.cons_append], hc⟩

theorem isDigit_toDigits {n : Nat} {c : Char} (h : c ∈ Nat.toDigits 10 n) : c.isDigit = true :=
  Nat.isDigit_of_mem_toDigits (by omega) (by omega) h

theorem wholePart_toDigits (n : Nat) {rest : List Char} (hrest : Follows rest) :
    wholePart (Nat.toDigits 10 n ++ rest) = some (Nat.toDigits 10 n, rest) := by
  rcases toDigits_cons n with ⟨rfl, hzero⟩ | ⟨c, cs, hcs, hc⟩
  · rw [hzero]
    rfl
  · have hall : ∀ d ∈ c :: cs, d.isDigit = true := fun d hd => isDigit_toDigits (hcs ▸ hd)
    rw [hcs, List.cons_append, wholePart, if_pos (hall c List.mem_cons_self), ← List.cons_append,
      spanDigits_append hall hrest]
    exact hc

theorem ofDigits_toDigits (n : Nat) :
    ofDigits 10 ((Nat.toDigits 10 n).filterMap asciiDigit?) = n := by
  have hfold (cs : List Char) (hcs : ∀ c ∈ cs, c.isDigit = true) (start : Nat) :
      (cs.filterMap asciiDigit?).foldl (fun n d => n * 10 + d) start =
        Nat.ofDigitChars 10 cs start := by
    induction cs generalizing start with
    | nil => rfl
    | cons c cs ih =>
      have hc : asciiDigit? c = some (c.toNat - 48) := if_pos (hcs c List.mem_cons_self)
      rw [List.filterMap_cons_some hc, List.foldl_cons,
        ih fun d hd => hcs d (List.mem_cons_of_mem c hd), Nat.ofDigitChars_cons, Nat.mul_comm]
      rfl
  rw [ofDigits, hfold _ (fun c => isDigit_toDigits),
    Nat.ofDigitChars_toDigits (by omega) (by omega)]

theorem readMagnitude_toDigits (negative : Bool) (n : Nat) {rest : List Char}
    (hrest : Follows rest) :
    readMagnitude negative (Nat.toDigits 10 n ++ rest) =
      some (.int (signedInt negative n), rest) := by
  have hends : fractionPart rest = none ∧ exponentPart rest = none := by
    cases rest with
    | nil => exact ⟨rfl, rfl⟩
    | cons c rest => rcases hrest c rfl with rfl | rfl | rfl | rfl <;> exact ⟨rfl, rfl⟩
  unfold readMagnitude
  rw [wholePart_toDigits n hrest]
  simp only [Option.bind_eq_bind, Option.bind_some, hends, ofDigits_toDigits]
  rfl

/-- What begins with a digit, after a sign or not, is read as a number. -/
theorem readScalar_of_readMagnitude {negative : Bool} {c : Char} {cs : List Char}
    {result : Json × List Char} (hc : c.isDigit = true)
    (h : readMagnitude negative (c :: cs) = some result) :
    readScalar (if negative then '-' :: c :: cs else c :: cs) = .ok result := by
  cases negative with
  | false =>
    rw [if_neg Bool.false_ne_true, readScalar, h]
    all_goals
      rintro r ⟨⟩
      cases hc
  | true =>
    rw [if_pos rfl, readScalar, h]
    rintro r ⟨⟩
    cases hc

/-- A written number is read as the number, if what follows cannot belong to it. -/
theorem readScalar_writeInt (n : Int) {rest : List Char} (hrest : Follows rest) :
    readScalar (writeInt n ++ rest) = .ok (.int n, rest) := by
  obtain ⟨c, cs, hcs⟩ := List.exists_cons_of_ne_nil (Nat.toDigits_ne_nil (n := n.natAbs) (b := 10))
  have hc : c.isDigit = true := isDigit_toDigits (hcs ▸ List.mem_cons_self)
  have hread (negative : Bool) := readMagnitude_toDigits negative n.natAbs hrest
  unfold writeInt
  rw [hcs] at hread ⊢
  by_cases hneg : n < 0
  · have hvalue : signedInt true n.natAbs = n := by
      rw [signedInt, if_pos rfl]
      omega
    rw [if_pos hneg, List.cons_append]
    exact readScalar_of_readMagnitude hc (hvalue ▸ hread true)
  · have hvalue : signedInt false n.natAbs = n := by
      rw [signedInt, if_neg Bool.false_ne_true]
      omega
    rw [if_neg hneg]
    exact readScalar_of_readMagnitude hc (hvalue ▸ hread false)

end Json

end DocFilter
