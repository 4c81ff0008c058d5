/-!
# Double-precision numbers

A number of the 64-bit binary format, held by its bits, with exact conversions from quotients and
decimals. Rounding is to the nearest number, a tie going to the even one.
-/

namespace DocFilter

def twoPow (n : Nat) : Nat := Nat.pow 2 n

def tenPow (n : Nat) : Nat := Nat.pow 10 n

/-- A number in the 64-bit binary format. -/
structure Binary64 where
  bits : UInt64
deriving DecidableEq, Inhabited

namespace Binary64

def ofNatBits (n : Nat) : Binary64 := ⟨UInt64.ofNat n⟩

def infinity : Binary64 := ofNatBits (2047 * twoPow 52)
def negInfinity : Binary64 := ofNatBits (4095 * twoPow 52)
def nan : Binary64 := ofNatBits (2047 * twoPow 52 + twoPow 51)

def isNegative (x : Binary64) : Bool := twoPow 63 ≤ x.bits.toNat

def exponentField (x : Binary64) : Nat := x.bits.toNat / twoPow 52 % 2048

def fractionField (x : Binary64) : Nat := x.bits.toNat % twoPow 52

def isNaN (x : Binary64) : Bool := x.exponentField == 2047 && x.fractionField != 0
def isInfinite (x : Binary64) : Bool := x.exponentField == 2047 && x.fractionField == 0
def isZero (x : Binary64) : Bool := x.exponentField == 0 && x.fractionField == 0

/-- The whole number `m` and exponent `q` with `m * 2 ^ q` the size of a finite number. -/
def significand (x : Binary64) : Nat × Int :=
  if x.exponentField = 0 then (x.fractionField, -1074)
  else (x.fractionField + twoPow 52, (x.exponentField : Int) - 1075)

/-- `n * 2 ^ up / (d * 2 ^ down)` to the nearest whole number, a tie going to the even one. -/
def roundDiv (n d : Nat) : Nat :=
  let q := n / d
  let twice := 2 * (n % d)
  if d < twice || (twice = d && q % 2 = 1) then q + 1 else q

/-- The bits, without sign, of the number nearest to `n / d`. -/
def magnitudeBits (n d : Nat) : Nat :=
  if n = 0 ∨ d = 0 then 0
  else
    let scale (e : Int) : Nat × Nat := (n * twoPow (-e).toNat, d * twoPow e.toNat)
    let guess : Int := (n.log2 : Int) - d.log2 - 52
    let fits := let (a, b) := scale guess; twoPow 52 * b ≤ a
    let e := max (if fits then guess else guess - 1) (-1074)
    let (a, b) := scale e
    min ((e + 1074).toNat * twoPow 52 + roundDiv a b) (2047 * twoPow 52)

/-- The number nearest to `n / d` with the given sign. -/
def ofRatio (negative : Bool) (n d : Nat) : Binary64 :=
  ofNatBits ((if negative then twoPow 63 else 0) + magnitudeBits n d)

/-- The number nearest to `digits * 10 ^ exponent`. Exponents far outside the range of the format
are decided without computing the power. -/
def ofDecimal (negative : Bool) (digits : Nat) (exponent : Int) : Binary64 :=
  let size : Int := exponent + (digits.log2 * 3 / 10 : Nat)
  if digits = 0 ∨ size < -400 then ofRatio negative 0 1
  else if 400 < size then if negative then negInfinity else infinity
  else ofRatio negative (digits * tenPow exponent.toNat) (tenPow (-exponent).toNat)

def ofInt (n : Int) : Binary64 := ofRatio (n < 0) n.natAbs 1

def toFloat (x : Binary64) : Float := Float.ofBits x.bits
def ofFloat (x : Float) : Binary64 := ⟨x.toBits⟩

instance : Add Binary64 := ⟨fun a b => ofFloat (a.toFloat + b.toFloat)⟩
instance : Sub Binary64 := ⟨fun a b => ofFloat (a.toFloat - b.toFloat)⟩
instance : Mul Binary64 := ⟨fun a b => ofFloat (a.toFloat * b.toFloat)⟩
instance : Div Binary64 := ⟨fun a b => ofFloat (a.toFloat / b.toFloat)⟩

def negate (x : Binary64) : Binary64 := ofNatBits (x.bits.toNat + twoPow 63)

/-- The whole part of a finite number, its fraction dropped. -/
def truncate (x : Binary64) : Int :=
  let (m, q) := x.significand
  signedInt x (if 0 ≤ q then m * twoPow q.toNat else m / twoPow (-q).toNat)
where
  signedInt (x : Binary64) (n : Nat) : Int := if x.isNegative then -(n : Int) else n

def ceiling (x : Binary64) : Int :=
  let (m, q) := x.significand
  if 0 ≤ q then x.truncate
  else if m % twoPow (-q).toNat = 0 ∨ x.isNegative then x.truncate
  else x.truncate + 1

/-- How a finite number compares with a whole number, decided exactly. -/
def compareInt (x : Binary64) (n : Int) : Ordering :=
  let (m, q) := x.significand
  let s : Int := if x.isNegative then -(m : Int) else m
  compare (s * twoPow q.toNat) (n * twoPow (-q).toNat)

/-- Whether a number equals a whole number exactly. -/
def eqInt (x : Binary64) (n : Int) : Bool :=
  x.exponentField != 2047 && x.compareInt n == .eq

/-- Whether two numbers have the same value: zeros are equal, and no NaN equals anything. -/
def eqValue (x y : Binary64) : Bool :=
  !x.isNaN && !y.isNaN && (x.bits == y.bits || (x.isZero && y.isZero))

/-- The remainder, with the sign of `x`, of the division of finite numbers truncated to a whole
quotient; it is exact. -/
def truncatedRemainder (x y : Binary64) : Binary64 :=
  let (m, q) := x.significand
  let (k, r) := y.significand
  let low := min q r
  let rest := (m * twoPow (q - low).toNat) % (k * twoPow (r - low).toNat)
  ofRatio x.isNegative (rest * twoPow low.toNat) (twoPow (-low).toNat)

end Binary64

end DocFilter
