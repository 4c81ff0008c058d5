import DocFilter.Proofs.Text.Decoding
import DocFilter.Text.Lines

/-!
# Line ends in bytes

What the reading of line ends does to the bytes of a text: each carriage return, with the line feed
after it if there is one, becomes a line feed, and all other bytes stay. So bytes are kept as they
are if and only if there is no carriage return among them.
-/

namespace DocFilter

/-- Bytes with every end of line (CR LF, CR alone, LF alone) as a single LF. -/
def unifyLineEndBytes : List UInt8 → List UInt8
  | [] => []
  | 0x0D :: 0x0A :: bs => 0x0A :: unifyLineEndBytes bs
  | 0x0D :: bs => 0x0A :: unifyLineEndBytes bs
  | b :: bs => b :: unifyLineEndBytes bs

theorem not_mem_unifyLineEndBytes (bs : List UInt8) : 0x0D ∉ unifyLineEndBytes bs := by
  fun_induction unifyLineEndBytes bs with
  | case1 => simp
  | case2 bs ih => simpa using ih
  | case3 bs _ ih => simpa using ih
  | case4 b bs _ hb ih =>
    intro h
    rcases List.mem_cons.mp h with h | h
    · exact hb h.symm
    · exact ih h

theorem unifyLineEndBytes_append {xs : List UInt8} (h : 0x0D ∉ xs) (ys : List UInt8) :
    unifyLineEndBytes (xs ++ ys) = xs ++ unifyLineEndBytes ys := by
  induction xs with
  | nil => rfl
  | cons x xs ih =>
    obtain ⟨hx, hxs⟩ := not_or.mp (mt List.mem_cons.mpr h)
    have hne : x ≠ 0x0D := Ne.symm hx
    rw [List.cons_append, unifyLineEndBytes, ih hxs, List.cons_append]
    · rintro _ rfl
      exact absurd rfl hne
    · exact hne

theorem unifyLineEndBytes_eq_self_iff {bs : List UInt8} :
    unifyLineEndBytes bs = bs ↔ 0x0D ∉ bs := by
  constructor
  · intro h
    rw [← h]
    exact not_mem_unifyLineEndBytes bs
  · intro h
    have happend := unifyLineEndBytes_append h []
    rwa [List.append_nil, unifyLineEndBytes, List.append_nil] at happend

theorem unifyLineEndBytes_return {bs : List UInt8} (h : bs.head? ≠ some 0x0A) :
    unifyLineEndBytes (0x0D :: bs) = 0x0A :: unifyLineEndBytes bs := by
  rw [unifyLineEndBytes]
  rintro rest rfl
  exact h rfl

namespace Utf8

/-- A byte below 0x80 stands for its own character, and occurs in no other. -/
theorem eq_of_mem_encodeChar {c : Char} {b : UInt8} (h : b ∈ encodeChar c) (hb : b.toNat < 0x80) :
    c.toNat = b.toNat := by
  have hvalid : c.toNat < 0xD800 ∨ 0xDFFF < c.toNat ∧ c.toNat < 0x110000 := c.valid
  unfold encodeChar at h
  generalize c.toNat = n at hvalid h ⊢
  dsimp only at h
  have hlarge {m : Nat} (hm : 0x80 ≤ m) (hm' : m ≤ 255) : b ≠ UInt8.ofNat m := by
    rintro rfl
    rw [toNat_ofNat_of_le hm'] at hb
    omega
  split at h
  · rw [List.mem_singleton.mp h, toNat_ofNat_of_le (by omega)]
  split at h
  · simp only [List.mem_cons, List.not_mem_nil, or_false] at h
    rcases h with h | h <;> exact absurd h (hlarge (by omega) (by omega))
  split at h
  · simp only [List.mem_cons, List.not_mem_nil, or_false] at h
    rcases h with h | h | h <;> exact absurd h (hlarge (by omega) (by omega))
  · simp only [List.mem_cons, List.not_mem_nil, or_false] at h
    rcases h with h | h | h | h <;> exact absurd h (hlarge (by omega) (by omega))

theorem encodeChar_ne_nil (c : Char) : encodeChar c ≠ [] := by
  unfold encodeChar
  dsimp only
  split
  · simp
  split
  · simp
  split <;> simp

theorem not_mem_encodeChar_of_ne {c : Char} (h : c ≠ '\r') : 0x0D ∉ encodeChar c := by
  intro hmem
  have hnumber := eq_of_mem_encodeChar hmem (by decide)
  exact h (by rw [← Char.ofNat_toNat c, hnumber]; rfl)

theorem head?_encode_ne {cs : List Char} (h : cs.head? ≠ some '\n') :
    (cs.flatMap encodeChar).head? ≠ some 0x0A := by
  cases cs with
  | nil => simp
  | cons c cs =>
    intro hhead
    obtain ⟨b, bs, hbytes⟩ := List.exists_cons_of_ne_nil (encodeChar_ne_nil c)
    rw [List.flatMap_cons, hbytes, List.cons_append, List.head?_cons] at hhead
    obtain rfl := Option.some.inj hhead
    have hnumber : c.toNat = (0x0A : UInt8).toNat :=
      eq_of_mem_encodeChar (by rw [hbytes]; exact List.mem_cons_self) (by decide)
    refine h ?_
    rw [List.head?_cons, ← Char.ofNat_toNat c, hnumber]
    rfl

/-- Line ends are unified in a text as in its bytes. -/
theorem encode_unifyLineEnds (cs : List Char) :
    encode (String.ofList (unifyLineEnds cs)) = unifyLineEndBytes (cs.flatMap encodeChar) := by
  rw [encode, String.toList_ofList]
  have hreturn : encodeChar '\r' = [0x0D] := rfl
  have hfeed : encodeChar '\n' = [0x0A] := rfl
  fun_induction unifyLineEnds cs with
  | case1 => rfl
  | case2 cs ih =>
    simp only [List.flatMap_cons, hreturn, hfeed, List.cons_append, List.nil_append, ih,
      unifyLineEndBytes]
  | case3 cs hcs ih =>
    have hhead : cs.head? ≠ some '\n' := by
      intro h
      obtain ⟨rest, rfl⟩ : ∃ rest, cs = '\n' :: rest := by
        cases cs with
        | nil => cases h
        | cons c rest => exact ⟨rest, by rw [Option.some.inj h]⟩
      exact hcs rest rfl
    rw [List.flatMap_cons, List.flatMap_cons, hreturn, hfeed, List.singleton_append,
      List.singleton_append, unifyLineEndBytes_return (head?_encode_ne hhead), ih]
  | case4 c cs _ hc ih =>
    rw [List.flatMap_cons, List.flatMap_cons, ih,
      unifyLineEndBytes_append (not_mem_encodeChar_of_ne hc)]

end Utf8

end DocFilter
