import DocFilter.Decimal.Binary64

/-!
# Decimals scaled step by step

A reading of decimals that takes the leading digits as one whole number and scales it by a power of
ten. The power and the scaled number are rounded to a significand of 64 bits before the result is
rounded to the 64-bit format, so the result may be a neighbour of the number nearest to the decimal.
-/

namespace DocFilter

/-- The number `significand * 2 ^ exponent`. -/
structure Dyadic where
  significand : Nat
  exponent : Int

namespace Dyadic

/-- The number nearest to `n / d * 2 ^ e` among those with a significand of at most `width` bits, a
tie going to the even one. -/
def nearest (width n d : Nat) (e : Int) : Dyadic :=
  if n = 0 ∨ d = 0 then ⟨0, 0⟩
  else
    let scale (k : Int) : Nat × Nat := (n * twoPow (-k).toNat, d * twoPow k.toNat)
    let guess : Int := (n.log2 : Int) - d.log2 - width
    let fits := let (a, b) := scale guess; a < twoPow width * b
    let k := if fits then guess else guess + 1
    let (a, b) := scale k
    ⟨Binary64.roundDiv a b, k + e⟩

def width : Nat := 64

def ofNat (n : Nat) : Dyadic := ⟨n, 0⟩

instance : Mul Dyadic where
  mul x y := nearest width (x.significand * y.significand) 1 (x.exponent + y.exponent)

instance : Div Dyadic where
  div x y := nearest width x.significand y.significand (x.exponent - y.exponent)

/-- `r * x ^ n`, by squaring `x`. -/
def timesPower (r x : Dyadic) (n : Nat) : Dyadic :=
  let r := if n % 2 = 1 then r * x else r
  if h : n < 2 then r else timesPower r (x * x) (n / 2)
termination_by n
decreasing_by omega

def tenTo (n : Nat) : Dyadic := timesPower (ofNat 1) (ofNat 10) n

def toBinary64 (x : Dyadic) : Binary64 :=
  Binary64.ofRatio false (x.significand * twoPow x.exponent.toNat) (twoPow (-x.exponent).toNat)

end Dyadic

namespace Decimal

/-- Leading digits are taken until the number that they write reaches this. -/
def enoughDigits : Nat := (twoPow 63 - 10) / 10

/-- The leading digits of `n * 10 ^ e`, the digits after them dropped. -/
def leading (n : Nat) (e : Int) : Nat × Int :=
  if h : enoughDigits ≤ n / 10 ∧ n ≠ 0 then leading (n / 10) (e + 1) else (n, e)
termination_by n
decreasing_by omega

/-- `n * 10 ^ e` with as much of the power in the whole number as it can hold. -/
def absorbTens (n : Nat) : Nat → Nat × Nat
  | 0 => (n, 0)
  | e + 1 => if n < (twoPow 63 - 1) / 10 then absorbTens (n * 10) e else (n, e + 1)

/-- `n / 10 ^ e` with the zeros at the end of the whole number dropped. -/
def cancelTens (n : Nat) : Nat → Nat × Nat
  | 0 => (n, 0)
  | e + 1 => if n % 10 = 0 then cancelTens (n / 10) e else (n, e + 1)

/-- The greatest power of ten in one step of scaling, and the power from which on nothing is left of
the number. -/
def stepLimit : Nat := 308
def rangeLimit : Nat := 342

/-- `n * 10 ^ e`, scaled in one step or in two. -/
def scaleUp (n e : Nat) : Binary64 :=
  let (n, e) := absorbTens n e
  let x := Dyadic.ofNat n
  if e = 0 then x.toBinary64
  else if e < stepLimit then (x * Dyadic.tenTo e).toBinary64
  else if e < rangeLimit then
    (x * Dyadic.tenTo (e - stepLimit)).toBinary64 * Binary64.ofDecimal false 1 stepLimit
  else Binary64.infinity

/-- `n / 10 ^ e`, scaled in one step or in two. -/
def scaleDown (n e : Nat) : Binary64 :=
  let (n, e) := cancelTens n e
  let x := Dyadic.ofNat n
  if e = 0 then x.toBinary64
  else if e < stepLimit then (x / Dyadic.tenTo e).toBinary64
  else if e < rangeLimit then
    (x / Dyadic.tenTo (e - stepLimit)).toBinary64 / Binary64.ofDecimal false 1 stepLimit
  else Binary64.ofNatBits 0

/-- `digits * 10 ^ exponent` as step-by-step scaling gives it. -/
def scaled (digits : Nat) (exponent : Int) : Binary64 :=
  if digits = 0 then Binary64.ofNatBits 0
  else
    let (n, e) := leading digits exponent
    if 0 ≤ e then scaleUp n e.toNat else scaleDown n (-e).toNat

end Decimal

end DocFilter
