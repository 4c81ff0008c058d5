import DocFilter.Decimal.Binary64

/-!
# The shortest decimal of a double

The fewest decimal digits that read back as the number, and of these the nearest to it; and the
layouts in which they are written.
-/

namespace DocFilter

namespace Decimal

/-- A decimal `0.d₁d₂… * 10 ^ point`. -/
structure Digits where
  digits : List Nat
  point : Int
deriving DecidableEq

/-- The decimal digits of a number, most significant first. -/
def digitsOf (n : Nat) : List Nat := (Nat.toDigits 10 n).map (·.toNat - 48)

/-- The number of zeros between the point and the first digit of `n / d`, which is below 1. -/
def leadingZeros (n d : Nat) : Nat → Nat → Nat
  | 0, k => k
  | fuel + 1, k => if d ≤ n * tenPow (k + 1) then k else leadingZeros n d fuel (k + 1)

/-- The power `p` with `10 ^ (p - 1) ≤ n / d < 10 ^ p`. -/
def decimalPoint (n d : Nat) : Int :=
  if d ≤ n then ((Nat.toDigits 10 (n / d)).length : Int)
  else -((leadingZeros n d 400 0 : Nat) : Int)

/-- The point of the grid `10 ^ power` that lies in `[low / d, high / d]` (ends included if
`closed`) and is nearest to `n / d`, if there is one. -/
def onGrid (low n high d : Nat) (closed : Bool) (power : Int) : Option Nat :=
  let up := tenPow power.toNat * d
  let down := tenPow (-power).toNat
  let inside (c : Nat) : Bool :=
    if closed then low * down ≤ c * up && c * up ≤ high * down
    else low * down < c * up && c * up < high * down
  let c := n * down / up
  let above := 2 * (n * down % up)
  let nearest := if above < up || (above = up && c % 2 = 0) then [c, c + 1] else [c + 1, c]
  nearest.find? inside

/-- The digits of the first grid, from `count` digits on, that has a point in the interval. -/
def firstHit (low n high d : Nat) (closed : Bool) (point : Int) : Nat → Nat → Digits
  | 0, _ => ⟨digitsOf n, point⟩
  | fuel + 1, count =>
    match onGrid low n high d closed (point - count) with
    | some c =>
      let ds := digitsOf c
      ⟨(ds.reverse.dropWhile (· == 0)).reverse, point - count + ds.length⟩
    | none => firstHit low n high d closed point fuel (count + 1)

/-- The shortest digits that read back as a positive finite number. -/
def shortest (x : Binary64) : Digits :=
  let (m, q) := x.significand
  let up := twoPow (q - 2).toNat
  let d := twoPow (2 - q).toNat
  let n := 4 * m * up
  let low := if m = twoPow 52 ∧ 1 < x.exponentField then (4 * m - 1) * up else (4 * m - 2) * up
  firstHit low n ((4 * m + 2) * up) d (m % 2 = 0) (decimalPoint n d) 17 1

/-- How a number is laid out: the exponents written without `e`, and the texts of the values that
are no numbers. -/
structure Layout where
  lowExponent : Int
  highExponent : Int
  infinityText : String
  nanText : String

def digitChars (ds : List Nat) : List Char := ds.map fun d => Char.ofNat (48 + d)

/-- Digits with the point where it belongs, and at least one digit on either side of it. -/
def positional (x : Digits) : List Char :=
  let ds := digitChars x.digits
  if x.point ≤ 0 then '0' :: '.' :: (List.replicate (-x.point).toNat '0' ++ ds)
  else
    let k := x.point.toNat
    let whole := ds.take k ++ List.replicate (k - ds.length) '0'
    let rest := ds.drop k
    whole ++ '.' :: (if rest.isEmpty then ['0'] else rest)

/-- Digits with one digit before the point, and the exponent with its sign and at least two digits.
-/
def scientific (x : Digits) : List Char :=
  let ds := digitChars x.digits
  let e := x.point - 1
  let size := Nat.toDigits 10 e.natAbs
  let mantissa := match ds with
    | [] => ['0']
    | [c] => [c]
    | c :: cs => c :: '.' :: cs
  mantissa ++ ['e', if e < 0 then '-' else '+'] ++
    (if size.length < 2 then '0' :: size else size)

/-- The text of a number in a layout. -/
def Layout.text (l : Layout) (x : Binary64) : String :=
  if x.isNaN then l.nanText
  else
    let size :=
      if x.isInfinite then l.infinityText.toList
      else if x.isZero then ['0', '.', '0']
      else
        let ds := shortest x
        if l.lowExponent ≤ ds.point - 1 ∧ ds.point - 1 ≤ l.highExponent then positional ds
        else scientific ds
    String.ofList (if x.isNegative then '-' :: size else size)

/-- Numbers in shown text: an exponent from -4 to 15 is spelled out. -/
def shown : Layout := ⟨-4, 15, "inf", "nan"⟩

/-- Numbers in JSON: as in shown text, with the longer names of the values that are no numbers. -/
def inJson : Layout := ⟨-4, 15, "Infinity", "NaN"⟩

end Decimal

end DocFilter
