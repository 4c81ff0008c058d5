import DocFilter.Proofs.Text.Utf8

/-!
# Bytes as text and back

What is decoded without a fault was written as exactly these bytes: no character has a second
spelling, and no byte is lost. So decoding succeeds on the bytes of texts and on no others.
-/

namespace DocFilter

namespace Utf8

/-! ### The bytes of a character by its number -/

theorem toNat_ofNat_of_valid {n : Nat} (h : n < 0xD800 ∨ 0xDFFF < n ∧ n < 0x110000) :
    (Char.ofNat n).toNat = n := by
  have hvalid : n.isValidChar := h
  rw [Char.ofNat, dif_pos hvalid]
  rfl

theorem encodeChar_ascii {n : Nat} (h : n < 0x80) :
    encodeChar (Char.ofNat n) = [UInt8.ofNat n] := by
  have hnumber : (Char.ofNat n).toNat = n := toNat_ofNat_of_valid (by omega)
  simp only [encodeChar, hnumber]
  rw [if_pos h]

theorem encodeChar_pair {k m : Nat} (hlow : 2 ≤ k) (hhigh : k < 32) (hm : m < 64) :
    encodeChar (Char.ofNat (k * 64 + m)) = [UInt8.ofNat (0xC0 + k), UInt8.ofNat (0x80 + m)] := by
  have hnumber : (Char.ofNat (k * 64 + m)).toNat = k * 64 + m := toNat_ofNat_of_valid (by omega)
  have hfirst : (k * 64 + m) / 64 = k := by omega
  have hsecond : (k * 64 + m) % 64 = m := by omega
  simp only [encodeChar, hnumber]
  rw [if_neg (by omega), if_pos (by omega), hfirst, hsecond]

theorem encodeChar_triple {k m n : Nat} (hk : k < 16) (hm : m < 64) (hn : n < 64)
    (hlow : k = 0 → 32 ≤ m) (hhigh : k = 13 → m < 32) :
    encodeChar (Char.ofNat ((k * 64 + m) * 64 + n)) =
      [UInt8.ofNat (0xE0 + k), UInt8.ofNat (0x80 + m), UInt8.ofNat (0x80 + n)] := by
  have hnumber : (Char.ofNat ((k * 64 + m) * 64 + n)).toNat = (k * 64 + m) * 64 + n :=
    toNat_ofNat_of_valid (by omega)
  have hfirst : ((k * 64 + m) * 64 + n) / 4096 = k := by omega
  have hsecond : ((k * 64 + m) * 64 + n) / 64 % 64 = m := by omega
  have hthird : ((k * 64 + m) * 64 + n) % 64 = n := by omega
  simp only [encodeChar, hnumber]
  rw [if_neg (by omega), if_neg (by omega), if_pos (by omega), hfirst, hsecond, hthird]

theorem encodeChar_quad {k m n o : Nat} (hk : k ≤ 4) (hm : m < 64) (hn : n < 64) (ho : o < 64)
    (hlow : k = 0 → 16 ≤ m) (hhigh : k = 4 → m < 16) :
    encodeChar (Char.ofNat (((k * 64 + m) * 64 + n) * 64 + o)) =
      [UInt8.ofNat (0xF0 + k), UInt8.ofNat (0x80 + m), UInt8.ofNat (0x80 + n),
        UInt8.ofNat (0x80 + o)] := by
  have hnumber : (Char.ofNat (((k * 64 + m) * 64 + n) * 64 + o)).toNat =
      ((k * 64 + m) * 64 + n) * 64 + o := toNat_ofNat_of_valid (by omega)
  have hfirst : (((k * 64 + m) * 64 + n) * 64 + o) / 262144 = k := by omega
  have hsecond : (((k * 64 + m) * 64 + n) * 64 + o) / 4096 % 64 = m := by omega
  have hthird : (((k * 64 + m) * 64 + n) * 64 + o) / 64 % 64 = n := by omega
  have hfourth : (((k * 64 + m) * 64 + n) * 64 + o) % 64 = o := by omega
  simp only [encodeChar, hnumber]
  rw [if_neg (by omega), if_neg (by omega), if_neg (by omega), hfirst, hsecond, hthird, hfourth]

/-! ### Bytes without a fault -/

/-- What a byte between characters can start: a character of one byte, or a sequence whose next byte
is in a range that leaves out the longer spellings of small numbers, the surrogates, and numbers
that are too large. -/
inductive Begins (b : UInt8) : List Piece × Option Sequence → Prop where
  | ascii : b.toNat < 0x80 → Begins b ([.char (Char.ofNat b.toNat)], none)
  | pair {k : Nat} : b.toNat = 0xC0 + k → 2 ≤ k → k < 32 →
      Begins b ([], some ⟨b, 1, 1, k, 0x80, 0xBF⟩)
  | triple {k low high : Nat} : b.toNat = 0xE0 + k → k < 16 → 0x80 ≤ low → high ≤ 0xBF →
      (k = 0 → 0xA0 ≤ low) → (k = 13 → high ≤ 0x9F) → Begins b ([], some ⟨b, 1, 2, k, low, high⟩)
  | quad {k low high : Nat} : b.toNat = 0xF0 + k → k ≤ 4 → 0x80 ≤ low → high ≤ 0xBF →
      (k = 0 → 0x90 ≤ low) → (k = 4 → high ≤ 0x8F) → Begins b ([], some ⟨b, 1, 3, k, low, high⟩)
  | fault : Begins b ([.broken 1 b .invalidStart], none)

theorem begins_start (b : UInt8) : Begins b (start b) := by
  unfold start
  dsimp only
  split
  · exact .ascii ‹_›
  split
  · exact .fault
  split
  · exact .pair (by omega) (by omega) (by omega)
  split
  · exact .triple (by omega) (by omega) (by omega) (by omega) (by omega) (by omega)
  split
  · exact .triple (by omega) (by omega) (by omega) (by omega) (by omega) (by omega)
  split
  · exact .triple (by omega) (by omega) (by omega) (by omega) (by omega) (by omega)
  split
  · exact .quad (by omega) (by omega) (by omega) (by omega) (by omega) (by omega)
  split
  · exact .quad (by omega) (by omega) (by omega) (by omega) (by omega) (by omega)
  split
  · exact .quad (by omega) (by omega) (by omega) (by omega) (by omega) (by omega)
  · exact .fault

/-- Within a sequence without a fault comes a byte of the expected range. -/
theorem exists_tail {s : Sequence} {bs : List UInt8} {cs : List Char}
    (h : piecesFrom (some s) bs = cs.map .char) :
    ∃ b rest, bs = b :: rest ∧ s.low ≤ b.toNat ∧ b.toNat ≤ s.high := by
  cases bs with
  | nil => cases cs <;> simp [piecesFrom] at h
  | cons b rest =>
    by_cases hrange : s.low ≤ b.toNat ∧ b.toNat ≤ s.high
    · exact ⟨b, rest, rfl, hrange⟩
    · simp only [piecesFrom, feed] at h
      rw [if_neg hrange] at h
      cases cs <;> simp at h

theorem exists_last_tail {s : Sequence} {bs : List UInt8} {cs : List Char}
    (h : piecesFrom (some s) bs = cs.map .char) (hlow : 0x80 ≤ s.low) (hhigh : s.high ≤ 0xBF)
    (howed : s.owed ≤ 1) :
    ∃ k rest cs', k < 64 ∧ s.low ≤ 0x80 + k ∧ 0x80 + k ≤ s.high ∧
      bs = UInt8.ofNat (0x80 + k) :: rest ∧ cs = Char.ofNat (s.value * 64 + k) :: cs' ∧
      piecesFrom none rest = cs'.map .char := by
  obtain ⟨b, rest, rfl, hb, hb'⟩ := exists_tail h
  have hbyte : UInt8.ofNat (0x80 + (b.toNat - 0x80)) = b := by
    rw [Nat.add_sub_cancel' (by omega), UInt8.ofNat_toNat]
  rw [← hbyte, piecesFrom_tail (by omega) (by omega) (by omega), if_pos howed] at h
  cases cs with
  | nil => cases h
  | cons c cs' =>
    obtain ⟨hc, hrest⟩ := List.cons.inj h
    obtain rfl := Piece.char.inj hc
    exact ⟨b.toNat - 0x80, rest, cs', by omega, by omega, by omega, by rw [hbyte], rfl, hrest⟩

theorem exists_inner_tail {s : Sequence} {bs : List UInt8} {cs : List Char}
    (h : piecesFrom (some s) bs = cs.map .char) (hlow : 0x80 ≤ s.low) (hhigh : s.high ≤ 0xBF)
    (howed : ¬ s.owed ≤ 1) :
    ∃ k rest, k < 64 ∧ s.low ≤ 0x80 + k ∧ 0x80 + k ≤ s.high ∧
      bs = UInt8.ofNat (0x80 + k) :: rest ∧
      piecesFrom (some ⟨s.first, s.taken + 1, s.owed - 1, s.value * 64 + k, 0x80, 0xBF⟩) rest =
        cs.map .char := by
  obtain ⟨b, rest, rfl, hb, hb'⟩ := exists_tail h
  have hbyte : UInt8.ofNat (0x80 + (b.toNat - 0x80)) = b := by
    rw [Nat.add_sub_cancel' (by omega), UInt8.ofNat_toNat]
  rw [← hbyte, piecesFrom_tail (by omega) (by omega) (by omega), if_neg howed] at h
  exact ⟨b.toNat - 0x80, rest, by omega, by omega, by omega, by rw [hbyte], h⟩

/-- Bytes without a fault begin with the bytes of their first character. -/
theorem exists_encodeChar {bs : List UInt8} {cs : List Char}
    (h : piecesFrom none bs = cs.map .char) (hne : bs ≠ []) :
    ∃ c cs' rest, cs = c :: cs' ∧ bs = encodeChar c ++ rest ∧ rest.length < bs.length ∧
      piecesFrom none rest = cs'.map .char := by
  obtain ⟨b, bs, rfl⟩ := List.exists_cons_of_ne_nil hne
  have hbegins := begins_start b
  have hbyte : UInt8.ofNat b.toNat = b := UInt8.ofNat_toNat
  rw [piecesFrom, feed] at h
  cases hstart : start b with
  | mk ps next =>
  rw [hstart] at h hbegins
  cases hbegins with
  | ascii hb =>
    cases cs with
    | nil => cases h
    | cons c cs' =>
      obtain ⟨hc, hrest⟩ := List.cons.inj h
      obtain rfl := Piece.char.inj hc
      refine ⟨_, cs', bs, rfl, ?_, by simp, hrest⟩
      rw [encodeChar_ascii hb, hbyte]
      rfl
  | @pair k hb hlow hhigh =>
    obtain ⟨m, rest, cs', hm, -, -, rfl, rfl, hrest⟩ :=
      exists_last_tail h (by simp) (by simp) (by simp)
    refine ⟨_, cs', rest, rfl, ?_, by grind, hrest⟩
    rw [encodeChar_pair hlow hhigh hm, ← hb, hbyte]
    rfl
  | @triple k low high hb hk hlow hhigh hzero hsurrogate =>
    obtain ⟨m, rest, hm, hm', hm'', rfl, hinner⟩ := exists_inner_tail h hlow hhigh (by simp)
    obtain ⟨n, rest, cs', hn, -, -, rfl, rfl, hrest⟩ :=
      exists_last_tail hinner (by simp) (by simp) (by simp)
    dsimp only at hm' hm''
    refine ⟨_, cs', rest, rfl, ?_, by grind, hrest⟩
    rw [encodeChar_triple hk hm hn (by omega) (by omega), ← hb, hbyte]
    rfl
  | @quad k low high hb hk hlow hhigh hzero hlarge =>
    obtain ⟨m, rest, hm, hm', hm'', rfl, hinner⟩ := exists_inner_tail h hlow hhigh (by simp)
    obtain ⟨n, rest, hn, -, -, rfl, hlast⟩ :=
      exists_inner_tail hinner (by simp) (by simp) (by simp)
    obtain ⟨o, rest, cs', ho, -, -, rfl, rfl, hrest⟩ :=
      exists_last_tail hlast (by simp) (by simp) (by simp)
    dsimp only at hm' hm''
    refine ⟨_, cs', rest, rfl, ?_, by grind, hrest⟩
    rw [encodeChar_quad hk hm hn ho (by omega) (by omega), ← hb, hbyte]
    rfl
  | fault => cases cs <;> simp at h

theorem flatMap_encodeChar_of_pieces (bs : List UInt8) {cs : List Char}
    (h : piecesFrom none bs = cs.map .char) : cs.flatMap encodeChar = bs := by
  by_cases hne : bs = []
  · subst hne
    cases cs with
    | nil => rfl
    | cons c cs => cases h
  · obtain ⟨c, cs', rest, rfl, rfl, hlength, hrest⟩ := exists_encodeChar h hne
    rw [List.flatMap_cons, flatMap_encodeChar_of_pieces rest hrest]
termination_by bs.length

theorem eq_map_char_of_gather {position : Nat} {ps : List Piece} {cs : List Char}
    (h : gather position ps = .ok cs) : ps = cs.map .char := by
  induction ps generalizing position cs with
  | nil =>
    cases h
    rfl
  | cons p ps ih =>
    cases p with
    | broken count first reason => cases h
    | char c =>
      rw [gather] at h
      cases hrest : gather (position + (encodeChar c).length) ps with
      | error fault =>
        rw [hrest] at h
        cases h
      | ok cs' =>
        rw [hrest] at h
        cases h
        rw [List.map_cons, ← ih hrest]

theorem encode_of_decode {bs : List UInt8} {s : String} (h : decode bs = .ok s) :
    encode s = bs := by
  unfold decode at h
  cases hgather : gather 0 (pieces bs) with
  | error fault =>
    rw [hgather] at h
    cases h
  | ok cs =>
    rw [hgather] at h
    cases h
    rw [encode, String.toList_ofList]
    exact flatMap_encodeChar_of_pieces bs (eq_map_char_of_gather hgather)

/-- Bytes are decoded as a text if and only if they are what the text is written as. -/
theorem decode_eq_ok_iff {bs : List UInt8} {s : String} : decode bs = .ok s ↔ encode s = bs := by
  constructor
  · exact encode_of_decode
  · rintro rfl
    exact decode_encode s

end Utf8

end DocFilter
