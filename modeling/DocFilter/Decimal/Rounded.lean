import DocFilter.Decimal.Shortest

/-!
# Rounded decimals

A double rounded to a number of places after the point, or to a number of significant digits. Both
round the exact value, a tie going to the even digit.
-/

namespace DocFilter

namespace Decimal

/-- The whole number nearest to the size of a finite number times `10 ^ places`. -/
def wholeAt (places : Int) (x : Binary64) : Nat :=
  let (m, q) := x.significand
  Binary64.roundDiv (m * twoPow q.toNat * tenPow places.toNat)
    (twoPow (-q).toNat * tenPow (-places).toNat)

/-- The size of a finite number with `places` digits after the point. -/
def fixedPlaces (places : Nat) (x : Binary64) : List Char :=
  let written := Nat.toDigits 10 (wholeAt places x)
  let ds := List.replicate (places + 1 - written.length) '0' ++ written
  let count := ds.length - places
  if places = 0 then ds else ds.take count ++ '.' :: ds.drop count

/-- The size of a finite number rounded to `count` digits, of which there is at least one. -/
def significant (count : Nat) (x : Binary64) : Digits :=
  if x.isZero then ⟨List.replicate count 0, 1⟩
  else
    let (m, q) := x.significand
    let point := decimalPoint (m * twoPow q.toNat) (twoPow (-q).toNat)
    let whole := wholeAt (count - point) x
    if whole = tenPow count then ⟨digitsOf (tenPow (count - 1)), point + 1⟩
    else ⟨digitsOf whole, point⟩

end Decimal

end DocFilter
