import DocFilter.Text.Utf8

/-!
# Text as bytes and back

What a text is written as is decoded as the text: the machine takes the bytes of each character from
its first to its last, whatever follows, and stands between characters again.
-/

namespace DocFilter

namespace Utf8

theorem toNat_ofNat_of_le {n : Nat} (h : n ≤ 255) : (UInt8.ofNat n).toNat = n :=
  UInt8.toNat_ofNat_of_lt' (by simp [UInt8.size]; omega)

theorem start_ascii {n : Nat} (h : n < 0x80) :
    start (UInt8.ofNat n) = ([.char (Char.ofNat n)], none) := by
  have hn := toNat_ofNat_of_le (show n ≤ 255 by omega)
  simp only [start, hn]
  rw [if_pos h]

theorem start_pair {k : Nat} (hlow : 2 ≤ k) (hhigh : k < 32) :
    start (UInt8.ofNat (0xC0 + k)) = ([], some ⟨UInt8.ofNat (0xC0 + k), 1, 1, k, 0x80, 0xBF⟩) := by
  have hn := toNat_ofNat_of_le (show 0xC0 + k ≤ 255 by omega)
  simp only [start, hn]
  rw [if_neg (by omega), if_neg (by omega), if_pos (by omega), Nat.add_sub_cancel_left]

theorem start_triple {k m : Nat} (hk : k < 16) (hm : m < 64)
    (hlow : k = 0 → 32 ≤ m) (hhigh : k = 13 → m < 32) :
    ∃ low high, start (UInt8.ofNat (0xE0 + k)) =
        ([], some ⟨UInt8.ofNat (0xE0 + k), 1, 2, k, low, high⟩) ∧
      low ≤ 0x80 + m ∧ 0x80 + m ≤ high := by
  have hn := toNat_ofNat_of_le (show 0xE0 + k ≤ 255 by omega)
  simp only [start, hn]
  rw [if_neg (by omega), if_neg (by omega), if_neg (by omega)]
  split
  · obtain rfl : k = 0 := by omega
    exact ⟨_, _, rfl, by omega, by omega⟩
  split
  · obtain rfl : k = 13 := by omega
    exact ⟨_, _, rfl, by omega, by omega⟩
  · rw [if_pos (by omega), Nat.add_sub_cancel_left]
    exact ⟨_, _, rfl, by omega, by omega⟩

theorem start_quad {k m : Nat} (hk : k ≤ 4) (hm : m < 64)
    (hlow : k = 0 → 16 ≤ m) (hhigh : k = 4 → m < 16) :
    ∃ low high, start (UInt8.ofNat (0xF0 + k)) =
        ([], some ⟨UInt8.ofNat (0xF0 + k), 1, 3, k, low, high⟩) ∧
      low ≤ 0x80 + m ∧ 0x80 + m ≤ high := by
  have hn := toNat_ofNat_of_le (show 0xF0 + k ≤ 255 by omega)
  simp only [start, hn]
  rw [if_neg (by omega), if_neg (by omega), if_neg (by omega), if_neg (by omega),
    if_neg (by omega), if_neg (by omega)]
  split
  · obtain rfl : k = 0 := by omega
    exact ⟨_, _, rfl, by omega, by omega⟩
  split
  · rw [Nat.add_sub_cancel_left]
    exact ⟨_, _, rfl, by omega, by omega⟩
  · obtain rfl : k = 4 := by omega
    exact ⟨_, _, rfl, by omega, by omega⟩

theorem piecesFrom_start {b : UInt8} {s : Sequence} (h : start b = ([], some s)) (bs : List UInt8) :
    piecesFrom none (b :: bs) = piecesFrom (some s) bs := by
  simp only [piecesFrom, feed, h, List.nil_append]

theorem piecesFrom_tail {s : Sequence} {k : Nat} (hk : k < 64) (hlow : s.low ≤ 0x80 + k)
    (hhigh : 0x80 + k ≤ s.high) (bs : List UInt8) :
    piecesFrom (some s) (UInt8.ofNat (0x80 + k) :: bs) =
      if s.owed ≤ 1 then .char (Char.ofNat (s.value * 64 + k)) :: piecesFrom none bs
      else piecesFrom
        (some ⟨s.first, s.taken + 1, s.owed - 1, s.value * 64 + k, 0x80, 0xBF⟩) bs := by
  have hn := toNat_ofNat_of_le (show 0x80 + k ≤ 255 by omega)
  have hfeed : feed (some s) (UInt8.ofNat (0x80 + k)) =
      if s.owed ≤ 1 then ([.char (Char.ofNat (s.value * 64 + k))], none)
      else ([], some ⟨s.first, s.taken + 1, s.owed - 1, s.value * 64 + k, 0x80, 0xBF⟩) := by
    simp only [feed, hn]
    rw [if_pos ⟨hlow, hhigh⟩, Nat.add_sub_cancel_left]
  rw [piecesFrom, hfeed]
  by_cases howed : s.owed ≤ 1
  · simp only [if_pos howed, List.singleton_append]
  · simp only [if_neg howed, List.nil_append]

theorem piecesFrom_encodeChar (c : Char) (bs : List UInt8) :
    piecesFrom none (encodeChar c ++ bs) = .char c :: piecesFrom none bs := by
  have hvalid : c.toNat < 0xD800 ∨ 0xDFFF < c.toNat ∧ c.toNat < 0x110000 := c.valid
  have hchar : Char.ofNat c.toNat = c := Char.ofNat_toNat c
  unfold encodeChar
  generalize c.toNat = n at hvalid hchar ⊢
  dsimp only
  split
  · next h => simp only [List.singleton_append, piecesFrom, feed, start_ascii h, hchar]
  split
  · next h =>
    have hvalue : n / 64 * 64 + n % 64 = n := by omega
    have hstart := start_pair (k := n / 64) (by omega) (by omega)
    rw [List.cons_append, List.singleton_append, piecesFrom_start hstart,
      piecesFrom_tail (by omega) (by simp) (by dsimp only; omega), if_pos (by simp), hvalue, hchar]
  split
  · next h =>
    have hvalue : (n / 4096 * 64 + n / 64 % 64) * 64 + n % 64 = n := by omega
    obtain ⟨low, high, hstart, hlow, hhigh⟩ :=
      start_triple (k := n / 4096) (m := n / 64 % 64) (by omega) (by omega) (by omega) (by omega)
    rw [List.cons_append, List.cons_append, List.singleton_append, piecesFrom_start hstart,
      piecesFrom_tail (by omega) hlow hhigh, if_neg (by simp),
      piecesFrom_tail (by omega) (by simp) (by dsimp only; omega), if_pos (by simp), hvalue, hchar]
  · next h =>
    have hvalue : ((n / 262144 * 64 + n / 4096 % 64) * 64 + n / 64 % 64) * 64 + n % 64 = n := by
      omega
    obtain ⟨low, high, hstart, hlow, hhigh⟩ :=
      start_quad (k := n / 262144) (m := n / 4096 % 64) (by omega) (by omega) (by omega)
        (by omega)
    rw [List.cons_append, List.cons_append, List.cons_append, List.singleton_append,
      piecesFrom_start hstart, piecesFrom_tail (by omega) hlow hhigh, if_neg (by simp),
      piecesFrom_tail (by omega) (by simp) (by dsimp only; omega), if_neg (by simp),
      piecesFrom_tail (by omega) (by simp) (by dsimp only; omega), if_pos (by simp), hvalue, hchar]

theorem pieces_encode (s : String) : pieces (encode s) = s.toList.map .char := by
  unfold pieces encode
  induction s.toList with
  | nil => rfl
  | cons c cs ih => rw [List.flatMap_cons, piecesFrom_encodeChar, ih, List.map_cons]

theorem gather_chars (position : Nat) (cs : List Char) :
    gather position (cs.map .char) = .ok cs := by
  induction cs generalizing position with
  | nil => rfl
  | cons c cs ih =>
    rw [List.map_cons, gather, ih]
    rfl

/-- The bytes of a text are read as the text. -/
theorem decode_encode (s : String) : decode (encode s) = .ok s := by
  rw [decode, pieces_encode, gather_chars, Except.map, String.ofList_toList]

end Utf8

end DocFilter
