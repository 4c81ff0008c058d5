import DocFilter.Decimal.Binary64
import DocFilter.Text.Blank
import DocFilter.Text.Digits
import DocFilter.Text.LowerCase

/-!
# Reading numbers

A text read as a number: a decimal with or without point and exponent, or a word for infinity or for
no number. Blanks may stand around it, and its digits may be those of any script.
-/

namespace DocFilter

namespace Decimal

/-- The values of the digits at the front, and what follows them. -/
def leadingDigits (cs : List Char) : List Nat × List Char :=
  let ds := cs.takeWhile fun c => (digitValue? c).isSome
  (ds.filterMap digitValue?, cs.drop ds.length)

/-- The exponent that ends a number; nothing is none. -/
def exponent? : List Char → Option Int
  | [] => some 0
  | c :: r =>
    if c = 'e' || c = 'E' then
      let (isNegative, r) := splitSign r
      match leadingDigits r with
      | ([], _) => none
      | (ds, []) => some (signedInt isNegative (ofDigits 10 ds))
      | _ => none
    else none

def real? (text : String) : Option Binary64 :=
  let (isNegative, cs) := splitSign (trimWhere isSpace text.toList)
  match lowerCase (String.ofList cs) with
  | "inf" | "infinity" =>
    some (if isNegative then Binary64.negInfinity else Binary64.infinity)
  | "nan" => some Binary64.nan
  | _ =>
    let (whole, r) := leadingDigits cs
    let (fraction, r) := match r with
      | '.' :: r => leadingDigits r
      | r => ([], r)
    let digits := whole ++ fraction
    if digits.isEmpty then none
    else (exponent? r).map fun e =>
      Binary64.ofDecimal isNegative (ofDigits 10 digits) (e - fraction.length)

end Decimal

def baseDigit? (c : Char) : Option Nat :=
  match digitValue? c with
  | some d => some d
  | none =>
    if 'a' ≤ c && c ≤ 'z' then some (c.toNat - 87)
    else if 'A' ≤ c && c ≤ 'Z' then some (c.toNat - 55)
    else none

def baseLetter (base : Nat) : Char :=
  match base with
  | 2 => 'b'
  | 8 => 'o'
  | _ => 'x'

/-- Digits after the announcement of their base, which an underscore may follow. -/
def dropAnnouncement (base : Nat) : List Char → List Char
  | '0' :: c :: r =>
    if base != 10 && c.toLower = baseLetter base then
      match r with
      | '_' :: rest => rest
      | _ => r
    else '0' :: c :: r
  | cs => cs

/-- The whole number that a text writes in a base, with blanks around it, a sign, and single
underscores between digits. -/
def wholeNumber? (base : Nat) (text : String) : Option Int :=
  let (isNegative, cs) := splitSign (trimWhere isSpace text.toList)
  let digit (c : Char) : Option Nat := (baseDigit? c).filter (· < base)
  (groupedDigits? digit true (dropAnnouncement base cs)).map fun ds =>
    signedInt isNegative (ofDigits base ds)

end DocFilter
