import DocFilter.Decimal.Rounded
import DocFilter.Script.Arithmetic
import DocFilter.Text.Digits

/-!
# Templates

A text with places marked by `%`, each filled with a value: as text, as a number in some base, with
a number of places after the point, or as a character. Places take the values in order, and none may
be left over, unless they were taken by name.
-/

namespace DocFilter

namespace Script

/-- The values that are still to be filled in: one value alone, or the items of a tuple. -/
inductive Supply where
  | single (v : Value)
  | several (vs : List Value)

/-- A template being filled: the characters to come, and the values left. -/
structure Filling where
  rest : List Char
  supply : Supply

abbrev Fill := StateT Filling (Except Raised)

/-- The marks after `%`. -/
structure Marks where
  isLeft : Bool
  showsPlus : Bool
  showsBlank : Bool
  showsBase : Bool
  isZeroFilled : Bool

/-- A marked place: its marks, its width, its precision, and the letter that says what to write. -/
structure Place where
  marks : Marks
  width : Nat
  precision : Option Nat
  letter : Char

namespace Fill

def next : Fill Value := do
  let f ← get
  match f.supply with
  | .single v =>
    set { f with supply := .several [] }
    return v
  | .several (v :: vs) =>
    set { f with supply := .several vs }
    return v
  | .several [] => throw (typeFault "not enough arguments for format string")

def take? (cs : List Char) : Fill (Option Char) := do
  let f ← get
  match f.rest with
  | c :: rest =>
    if cs.contains c then
      set { f with rest := rest }
      return some c
    else return none
  | [] => return none

/-- The marks at the front; `fuel` bounds their number. -/
def marks (m : Marks) : Nat → Fill Marks
  | 0 => return m
  | fuel + 1 => do
    match ← take? ['-', '+', ' ', '#', '0'] with
    | some '-' => marks { m with isLeft := true } fuel
    | some '+' => marks { m with showsPlus := true } fuel
    | some ' ' => marks { m with showsBlank := true } fuel
    | some '#' => marks { m with showsBase := true } fuel
    | some _ => marks { m with isZeroFilled := true } fuel
    | none => return m

/-- A size: digits, or a star for the next value. -/
def size (tooBig : String) : Fill Int := do
  if (← take? ['*']).isSome then
    match ← next with
    | .data (.bool b) => return if b then 1 else 0
    | .data (.int n) =>
      if n < -(twoPow 63 : Int) ∨ (twoPow 63 : Int) ≤ n then throw wordExcess else return n
    | _ => throw (typeFault "* wants int")
  else
    let f ← get
    let ds := f.rest.takeWhile Char.isDigit
    set { f with rest := f.rest.drop ds.length }
    let n := ofDigits 10 (ds.filterMap asciiDigit?)
    if twoPow 63 ≤ n then throw (valueFault tooBig) else return n

end Fill

/-- The characters up to the parenthesis that closes one opened before, with the rest; `depth` counts
those opened inside. -/
def closed? (depth : Nat) : List Char → Option (List Char × List Char)
  | [] => none
  | c :: r =>
    if c = ')' && depth = 0 then some ([], r)
    else
      let depth := if c = '(' then depth + 1 else if c = ')' then depth - 1 else depth
      (closed? depth r).map fun (cs, rest) => (c :: cs, rest)

/-- The value that a place takes by name. Only what can be looked into has names, and a list has
only positions. -/
def named (argument : Value) (key : String) : Except Raised Value :=
  match argument with
  | .data (.arr _) | .list _ =>
    throw (typeFault "list indices must be integers or slices, not str")
  | .data v =>
    if v.isObject then
      match v.field? key with
      | some w => return .data w
      | none => throw (raised "KeyError" key)
    else throw (typeFault "format requires a mapping")
  | _ => throw (typeFault "format requires a mapping")

/-- Whether a value can be looked into by name or position, and so is used up by no place. -/
def isLookedInto : Value → Bool
  | .list _ | .data (.arr _) => true
  | .data v => v.isObject
  | _ => false

namespace Fill

/-- The marked place at the front, after the percent sign. -/
def place (argument : Value) : Fill Place := do
  let f ← get
  if f.rest.head? = some '(' then
    if !isLookedInto argument then throw (typeFault "format requires a mapping")
    match closed? 0 (f.rest.drop 1) with
    | none => throw (valueFault "incomplete format key")
    | some (key, rest) => set (⟨rest, .single (← named argument (String.ofList key))⟩ : Filling)
  let m ← marks ⟨false, false, false, false, false⟩ (← get).rest.length
  let width ← size "width too big"
  let precision ←
    if (← take? ['.']).isSome then do pure (some (← size "precision too big").toNat) else pure none
  let _ ← take? ['h', 'l', 'L']
  let f ← get
  match f.rest with
  | [] => throw (valueFault "incomplete format")
  | letter :: rest =>
    set { f with rest := rest }
    return ⟨{ m with isLeft := m.isLeft || width < 0 }, width.natAbs, precision, letter⟩

end Fill

/-- The sign, the announcement of the base, and the digits of a whole number. -/
def wholeParts (p : Place) (n : Int) : List Char × List Char × List Char :=
  let digits := match p.letter with
    | 'o' => Nat.toDigits 8 n.natAbs
    | 'x' => Nat.toDigits 16 n.natAbs
    | 'X' => (Nat.toDigits 16 n.natAbs).map Char.toUpper
    | _ => Nat.toDigits 10 n.natAbs
  let announcement :=
    if p.marks.showsBase && "oxX".toList.contains p.letter then ['0', p.letter] else []
  let zeros := List.replicate (p.precision.getD 0 - digits.length) '0'
  (if n < 0 then ['-'] else [], announcement, zeros ++ digits)

/-- The size of a floating number as the letter `e`, `f` or `g` asks. -/
def floatText (p : Place) (x : Binary64) : List Char :=
  let count := p.precision.getD 6
  let pointed (cs : List Char) : List Char :=
    if p.marks.showsBase && !cs.contains '.' then
      cs.takeWhile (· ≠ 'e') ++ '.' :: cs.dropWhile (· ≠ 'e')
    else cs
  let trimmed (cs : List Char) : List Char :=
    if p.marks.showsBase || !cs.contains '.' then cs
    else
      let ds := (cs.reverse.dropWhile (· = '0'))
      (if ds.head? = some '.' then ds.drop 1 else ds).reverse
  if x.isInfinite then ['i', 'n', 'f']
  else if x.isNaN then ['n', 'a', 'n']
  else match p.letter.toLower with
    | 'f' => pointed (Decimal.fixedPlaces count x)
    | 'e' => pointed (Decimal.scientific (Decimal.significant (count + 1) x))
    | _ =>
      let count := max count 1
      let d := Decimal.significant count x
      if -4 < d.point ∧ d.point ≤ count then
        trimmed (pointed (Decimal.fixedPlaces (count - d.point).toNat x))
      else
        let text := Decimal.scientific d
        let mantissa := trimmed (text.takeWhile (· ≠ 'e'))
        pointed (mantissa ++ text.dropWhile (· ≠ 'e'))

/-- A number with its sign and announcement, filled up to the width. -/
def numberText (p : Place) (sign announcement digits : List Char) : List Char :=
  let sign :=
    if !sign.isEmpty then sign
    else if p.marks.showsPlus then ['+']
    else if p.marks.showsBlank then [' ']
    else []
  let missing := p.width - (sign.length + announcement.length + digits.length)
  if p.marks.isLeft then sign ++ announcement ++ digits ++ List.replicate missing ' '
  else if p.marks.isZeroFilled then
    sign ++ announcement ++ List.replicate missing '0' ++ digits
  else List.replicate missing ' ' ++ sign ++ announcement ++ digits

def textAt (p : Place) (cs : List Char) : List Char :=
  let missing := List.replicate (p.width - cs.length) ' '
  if p.marks.isLeft then cs ++ missing else missing ++ cs

/-- The whole number that a value is for a place. A floating one loses its fraction, unless digits
of another base are asked for. -/
def wholeFor (p : Place) (v : Value) : Except Raised Int :=
  let isDecimal := "diu".toList.contains p.letter
  match v with
  | .data (.float x) =>
    if !isDecimal then refused
    else if x.isNaN then throw (valueFault "cannot convert float NaN to integer")
    else if x.isInfinite then
      throw (raised "OverflowError" "cannot convert float infinity to integer")
    else pure x.truncate
  | v => match v.whole? with
    | some n => pure n
    | none => refused
where
  refused : Except Raised Int :=
    let wanted := if "diu".toList.contains p.letter then "a real number" else "an integer"
    let letter := p.letter
    let name := v.typeName
    throw (typeFault s!"%{letter} format: {wanted} is required, not {name}")

/-- The character that a value is or counts. -/
def characterFor (v : Value) : Except Raised Char :=
  match v with
  | .data (.str s) => match s.toList with
    | [c] => pure c
    | _ => throw (typeFault "%c requires int or char")
  | v => match v.whole? with
    | some n =>
      if 0 ≤ n ∧ n < 0x110000 then pure (Char.ofNat n.toNat)
      else throw (raised "OverflowError" "%c arg not in range(0x110000)")
    | none => throw (typeFault "%c requires int or char")

def asciiText (s : String) : List Char :=
  s.toList.flatMap fun c => if c.toNat < 128 then [c] else (escapedPoint c).toList

/-- What a value is written as at a place that ends before the character with the number `index`. -/
def written (st : Store) (p : Place) (index : Nat) (v : Value) : Except Raised (List Char) := do
  let cut (s : List Char) : List Char := match p.precision with
    | some n => s.take n
    | none => s
  match p.letter with
  | 's' => return textAt p (cut (st.shown v).toList)
  | 'r' => return textAt p (cut (st.inside v).toList)
  | 'a' => return textAt p (cut (asciiText (st.inside v)))
  | 'c' => return textAt p [← characterFor v]
  | 'd' | 'i' | 'u' | 'o' | 'x' | 'X' =>
    let (sign, announcement, digits) := wholeParts p (← wholeFor p v)
    return numberText p sign announcement digits
  | 'e' | 'E' | 'f' | 'F' | 'g' | 'G' =>
    match Number.ofValue? v with
    | some n =>
      let x ← n.toFloating
      let text := floatText p x
      let text := if p.letter.isUpper then text.map Char.toUpper else text
      return numberText p (if x.isNegative && !x.isNaN then ['-'] else []) [] text
    | none =>
      let name := v.typeName
      throw (typeFault s!"must be real number, not {name}")
  | c =>
    let shownLetter := if 31 ≤ c.toNat && c.toNat ≤ 126 then c else '?'
    let code := String.ofList (Nat.toDigits 16 c.toNat)
    throw (valueFault s!"unsupported format character '{shownLetter}' (0x{code}) at index {index}")

/-- The characters of a template of the given length with its places filled; `fuel` bounds the number
of steps. -/
def filled (st : Store) (argument : Value) (length : Nat) : Nat → Fill (List Char)
  | 0 => return []
  | fuel + 1 => do
    let f ← get
    match f.rest with
    | [] => return []
    | '%' :: rest =>
      set { f with rest := rest }
      let p ← Fill.place argument
      let text ←
        if p.letter = '%' then pure ['%']
        else do
          let v ← Fill.next
          written st p (length - (← get).rest.length - 1) v
      return text ++ (← filled st argument length fuel)
    | c :: rest =>
      set { f with rest := rest }
      return c :: (← filled st argument length fuel)

/-- A template filled with a value, or with the items of a tuple. -/
def fillTemplate (st : Store) (template : String) (argument : Value) : Except Raised String := do
  let cs := template.toList
  let supply := match argument with
    | .tuple items => .several items
    | v => .single v
  let (text, after) ← (filled st argument cs.length (cs.length + 1)).run ⟨cs, supply⟩
  let isLeftOver := match after.supply with
    | .several vs => !vs.isEmpty
    | .single _ => true
  if isLeftOver && !isLookedInto argument then
    throw (typeFault "not all arguments converted during string formatting")
  return String.ofList text

end Script

end DocFilter
