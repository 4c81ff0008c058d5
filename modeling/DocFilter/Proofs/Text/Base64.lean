import DocFilter.Text.Base64

/-!
# Base 64 read back

What is written in base 64 is read as the bytes that it was made of: a group of four characters has
the value of the group of bytes, and of its bits only those that belong to a byte are taken.
-/

namespace DocFilter

namespace Base64

theorem value?_digit {n : Nat} (h : n < 64) : value? (digit n) = some n := by
  have hall : ∀ n ∈ List.range 64, value? (digit n) = some n := by decide
  exact hall n (List.mem_range.mpr h)

theorem digit_ne_equals {n : Nat} (h : n < 64) : digit n ≠ '=' := by
  intro hdigit
  have hvalue := value?_digit h
  rw [hdigit] at hvalue
  cases hvalue

theorem ofNat_eq_of_mod_eq {n : Nat} {b : UInt8} (h : n % 256 = b.toNat) : UInt8.ofNat n = b := by
  rw [← UInt8.toNat_inj, UInt8.toNat_ofNat']
  exact h

/-- A whole group of four characters. -/
theorem decode?_cons {a b c d : Char} {rest : List Char} (hd : d ≠ '=') :
    decode? (a :: b :: c :: d :: rest) = (do
      let n := (((← value? a) * 64 + (← value? b)) * 64 + (← value? c)) * 64 + (← value? d)
      return UInt8.ofNat (n / 65536) :: UInt8.ofNat (n / 256) :: UInt8.ofNat n ::
        (← decode? rest)) := by
  rw [decode?]
  · rintro - rfl
    exact absurd rfl hd
  · rintro rfl
    exact absurd rfl hd

/-- The last group, if it stands for two bytes. -/
theorem decode?_pair {a b c : Char} (hc : c ≠ '=') :
    decode? [a, b, c, '='] = (do
      let n := ((← value? a) * 64 + (← value? b)) * 64 + (← value? c)
      return [UInt8.ofNat (n / 1024), UInt8.ofNat (n / 4)]) := by
  rw [decode?]
  rintro rfl
  exact absurd rfl hc

theorem decode?_encode (bytes : List UInt8) : decode? (encode bytes) = some bytes := by
  fun_induction encode bytes with
  | case1 => rfl
  | case2 a n =>
    have ha := a.toNat_lt
    have hn : n = a.toNat * 16 := rfl
    have hvalue : n / 64 * 64 + n % 64 = n := by omega
    rw [decode?, value?_digit (by omega), value?_digit (by omega)]
    simp only [Option.bind_eq_bind, Option.bind_some, hvalue, Option.pure_def]
    rw [ofNat_eq_of_mod_eq (b := a) (by omega)]
  | case3 a b n =>
    have ha := a.toNat_lt
    have hb := b.toNat_lt
    have hn : n = (a.toNat * 256 + b.toNat) * 4 := rfl
    have hvalue : (n / 4096 * 64 + n / 64 % 64) * 64 + n % 64 = n := by omega
    rw [decode?_pair (digit_ne_equals (by omega)), value?_digit (by omega), value?_digit (by omega),
      value?_digit (by omega)]
    simp only [Option.bind_eq_bind, Option.bind_some, hvalue, Option.pure_def]
    rw [ofNat_eq_of_mod_eq (b := a) (by omega), ofNat_eq_of_mod_eq (b := b) (by omega)]
  | case4 a b c rest n ih =>
    have ha := a.toNat_lt
    have hb := b.toNat_lt
    have hc := c.toNat_lt
    have hn : n = (a.toNat * 256 + b.toNat) * 256 + c.toNat := rfl
    have hvalue : ((n / 262144 * 64 + n / 4096 % 64) * 64 + n / 64 % 64) * 64 + n % 64 = n := by
      omega
    rw [decode?_cons (digit_ne_equals (by omega)), value?_digit (by omega), value?_digit (by omega),
      value?_digit (by omega), value?_digit (by omega), ih]
    simp only [Option.bind_eq_bind, Option.bind_some, hvalue, Option.pure_def]
    rw [ofNat_eq_of_mod_eq (b := a) (by omega), ofNat_eq_of_mod_eq (b := b) (by omega),
      ofNat_eq_of_mod_eq (b := c) (by omega)]

end Base64

end DocFilter
