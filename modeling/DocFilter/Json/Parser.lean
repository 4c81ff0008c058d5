import DocFilter.Json.Value
import DocFilter.Text.Digits

/-!
# Reading JSON

A reader for JSON text with exact positions of faults. Each reader takes the remaining characters
and returns what it read with what is left. A fault keeps what was left where it was found, from
which its line and column follow.
-/

namespace DocFilter

namespace Json

/-- What is wrong at a place of a JSON text. -/
inductive Mistake where
  | noValue
  | noKey
  | noColon
  | noComma
  | openString
  | controlCharacter
  | badEscape
  | badUnit
  | halfPair
  | extraData
  | byteOrderMark
deriving DecidableEq

/-- A mistake, and the number of characters from its place to the end of the text. -/
structure Fault where
  mistake : Mistake
  remaining : Nat
deriving DecidableEq

/-- The result of reading a part: the part and the characters after it. -/
abbrev Reading (α : Type) : Type := Except Fault (α × List Char)

def push (c : Char) (tail : Reading (List Char)) : Reading (List Char) :=
  tail.map fun (cs, rest) => (c :: cs, rest)

def fail {α : Type} (mistake : Mistake) (at_ : List Char) : Except Fault α :=
  .error ⟨mistake, at_.length⟩

/-- The characters that may stand between the parts of a JSON text. -/
def isSpace (c : Char) : Bool := c = ' ' || c = '\t' || c = '\n' || c = '\r'

def skipSpace (cs : List Char) : List Char := cs.dropWhile isSpace

def unit? (a b c d : Char) : Option Nat := do
  return ofDigits 16 [← hexValue? a, ← hexValue? b, ← hexValue? c, ← hexValue? d]

def isHighUnit (n : Nat) : Bool := 0xD800 ≤ n && n < 0xDC00
def isLowUnit (n : Nat) : Bool := 0xDC00 ≤ n && n < 0xE000

/-- The character that two paired units stand for. -/
def pairedChar (high low : Nat) : Char :=
  Char.ofNat (0x10000 + (high - 0xD800) * 0x400 + (low - 0xDC00))

/-- The character of a unit on its own; half a pair has none but the one that is to stand for it. -/
def unitChar? (half : Option Char) (n : Nat) : Option Char :=
  if isHighUnit n || isLowUnit n then half else some (Char.ofNat n)

def escaped? : Char → Option Char
  | '"' => some '"'
  | '\\' => some '\\'
  | '/' => some '/'
  | 'b' => some '\x08'
  | 'f' => some '\x0c'
  | 'n' => some '\n'
  | 'r' => some '\r'
  | 't' => some '\t'
  | _ => none

section Halves
variable (half : Option Char)

/-- The character of a unit in front of what was read, if it has one. -/
def pushUnit (n : Nat) (at_ : List Char) (tail : Reading (List Char)) : Reading (List Char) :=
  match unitChar? half n with
  | some c => push c tail
  | none => fail .halfPair at_

/-- The characters of a string up to its closing quote; `opening` counts the characters from the
opening quote to the end of the text. At least one character must follow the digits of a unit. -/
def readChars (opening : Nat) : List Char → Reading (List Char)
  | [] => .error ⟨.openString, opening⟩
  | '"' :: r => .ok ([], r)
  | ['\\'] => .error ⟨.openString, opening⟩
  | '\\' :: 'u' :: a :: b :: c :: d :: '\\' :: 'u' :: e :: f :: g :: h :: next :: r =>
    let rest := '\\' :: 'u' :: e :: f :: g :: h :: next :: r
    match unit? a b c d with
    | none => fail .badUnit ('u' :: a :: b :: c :: d :: rest)
    | some n =>
      let single := pushUnit half n ('u' :: a :: b :: c :: d :: rest) (readChars opening rest)
      if isHighUnit n then
        match unit? e f g h with
        | none => fail .badUnit ('u' :: e :: f :: g :: h :: next :: r)
        | some m =>
          if isLowUnit m then push (pairedChar n m) (readChars opening (next :: r)) else single
      else single
  | '\\' :: 'u' :: a :: b :: c :: d :: next :: r =>
    match unit? a b c d with
    | none => fail .badUnit ('u' :: a :: b :: c :: d :: next :: r)
    | some n =>
      pushUnit half n ('u' :: a :: b :: c :: d :: next :: r) (readChars opening (next :: r))
  | '\\' :: 'u' :: r => fail .badUnit ('u' :: r)
  | '\\' :: c :: r =>
    match escaped? c with
    | none => fail .badEscape ('\\' :: c :: r)
    | some e => push e (readChars opening r)
  | c :: r =>
    if c.toNat < 0x20 then fail .controlCharacter (c :: r)
    else push c (readChars opening r)

def readString (r : List Char) : Except Fault (String × List Char) := do
  let (cs, rest) ← readChars half (r.length + 1) r
  return (String.ofList cs, rest)

end Halves

def spanDigits (cs : List Char) : List Char × List Char :=
  (cs.takeWhile Char.isDigit, cs.dropWhile Char.isDigit)

/-- The whole part of a number: a zero, or digits that do not start with one. -/
def wholePart : List Char → Option (List Char × List Char)
  | '0' :: r => some (['0'], r)
  | c :: r => if c.isDigit then some (spanDigits (c :: r)) else none
  | [] => none

/-- A point and the digits after it, if there are some. -/
def fractionPart : List Char → Option (List Char × List Char)
  | '.' :: r => match spanDigits r with
    | ([], _) => none
    | (ds, rest) => some (ds, rest)
  | _ => none

/-- The exponent of a number, if there is one. -/
def exponentPart : List Char → Option (Int × List Char)
  | c :: r =>
    if c = 'e' || c = 'E' then
      let (negative, r) := splitSign r
      match spanDigits r with
      | ([], _) => none
      | (ds, rest) => some (signedInt negative (ofDigits 10 (ds.filterMap asciiDigit?)), rest)
    else none
  | [] => none

/-- A number without its sign. -/
def readMagnitude (negative : Bool) (cs : List Char) : Option (Json × List Char) := do
  let (whole, r) ← wholePart cs
  let value (ds : List Char) : Nat := ofDigits 10 (ds.filterMap asciiDigit?)
  match fractionPart r, exponentPart r with
  | none, none => return (.int (signedInt negative (value whole)), r)
  | none, some (e, r) => return (.float (Binary64.ofDecimal negative (value whole) e), r)
  | some (ds, r), _ =>
    let digits := value (whole ++ ds)
    match exponentPart r with
    | none => return (.float (Binary64.ofDecimal negative digits (-ds.length)), r)
    | some (e, r) => return (.float (Binary64.ofDecimal negative digits (e - ds.length)), r)

/-- A number, a literal, or nothing that can start a value. -/
def readScalar : List Char → Except Fault (Json × List Char)
  | 'n' :: 'u' :: 'l' :: 'l' :: r => .ok (.null, r)
  | 't' :: 'r' :: 'u' :: 'e' :: r => .ok (.bool true, r)
  | 'f' :: 'a' :: 'l' :: 's' :: 'e' :: r => .ok (.bool false, r)
  | 'N' :: 'a' :: 'N' :: r => .ok (.float Binary64.nan, r)
  | 'I' :: 'n' :: 'f' :: 'i' :: 'n' :: 'i' :: 't' :: 'y' :: r => .ok (.float Binary64.infinity, r)
  | '-' :: 'I' :: 'n' :: 'f' :: 'i' :: 'n' :: 'i' :: 't' :: 'y' :: r =>
    .ok (.float Binary64.negInfinity, r)
  | '-' :: r =>
    match readMagnitude true r with
    | some result => .ok result
    | none => fail .noValue ('-' :: r)
  | cs =>
    match readMagnitude false cs with
    | some result => .ok result
    | none => fail .noValue cs

mutual

/-- A value at the front of the text; `fuel` bounds the nesting and the number of items. -/
def readValue (half : Option Char) : Nat → List Char → Except Fault (Json × List Char)
  | 0, cs => fail .noValue cs
  | _ + 1, '"' :: r => do
    let (s, rest) ← readString half r
    return (.str s, rest)
  | fuel + 1, '[' :: r =>
    match skipSpace r with
    | ']' :: rest => .ok (.arr [], rest)
    | first => do
      let (items, rest) ← readItems half fuel first
      return (.arr items, rest)
  | fuel + 1, '\x7b' :: r =>
    match skipSpace r with
    | '\x7d' :: rest => .ok (.obj [], rest)
    | first => do
      let (fields, rest) ← readFields half fuel first
      return (.ofFields fields, rest)
  | _ + 1, cs => readScalar cs

/-- The items of an array up to its end, starting at the first. -/
def readItems (half : Option Char) : Nat → List Char → Except Fault (List Json × List Char)
  | 0, cs => fail .noValue cs
  | fuel + 1, cs => do
    let (v, r) ← readValue half fuel cs
    match skipSpace r with
    | ']' :: rest => return ([v], rest)
    | ',' :: r =>
      let (vs, rest) ← readItems half fuel (skipSpace r)
      return (v :: vs, rest)
    | r => fail .noComma r

/-- The fields of an object up to its end, starting at the first key. -/
def readFields (half : Option Char) : Nat → List Char → Except Fault (Fields × List Char)
  | 0, cs => fail .noKey cs
  | fuel + 1, '"' :: r => do
    let (key, r) ← readString half r
    match skipSpace r with
    | ':' :: r =>
      let (v, r) ← readValue half fuel (skipSpace r)
      match skipSpace r with
      | '\x7d' :: rest => return ([(key, v)], rest)
      | ',' :: r =>
        let (fs, rest) ← readFields half fuel (skipSpace r)
        return ((key, v) :: fs, rest)
      | r => fail .noComma r
    | r => fail .noColon r
  | _ + 1, cs => fail .noKey cs

end

def parseChars (half : Option Char) (cs : List Char) : Except Fault Json :=
  match cs with
  | '\uFEFF' :: _ => fail .byteOrderMark cs
  | _ => do
    let (v, r) ← readValue half (2 * cs.length + 1) (skipSpace cs)
    match skipSpace r with
    | [] => return v
    | rest => fail .extraData rest

/-- Reads a whole text as one value. Half of a surrogate pair is refused, since no text can hold it,
but any fault of form counts before it. -/
def parse (s : String) : Except Fault Json :=
  match parseChars none s.toList with
  | .ok v => .ok v
  | .error fault =>
    if fault.mistake = .halfPair then
      match parseChars (some '\uFFFD') s.toList with
      | .ok _ => .error fault
      | .error formal => .error formal
    else .error fault

theorem parse_eq_ok {s : String} {v : Json} :
    parse s = .ok v ↔ parseChars none s.toList = .ok v := by
  unfold parse
  cases parseChars none s.toList with
  | ok w => rfl
  | error fault =>
    dsimp only
    split
    · split <;> simp
    · rfl

def Mistake.text : Mistake → String
  | .noValue => "Expecting value"
  | .noKey => "Expecting property name enclosed in double quotes"
  | .noColon => "Expecting ':' delimiter"
  | .noComma => "Expecting ',' delimiter"
  | .openString => "Unterminated string starting at"
  | .controlCharacter => "Invalid control character at"
  | .badEscape => "Invalid \\escape"
  | .badUnit => "Invalid \\uXXXX escape"
  | .halfPair => "Surrogates not allowed"
  | .extraData => "Extra data"
  | .byteOrderMark => "Unexpected UTF-8 BOM (decode using utf-8-sig)"

/-- The line and column, from 1, of the place `offset` characters into a text. -/
def lineColumn (cs : List Char) (offset : Nat) : Nat × Nat :=
  let before := cs.take offset
  ((before.filter (· = '\n')).length + 1, (before.reverse.takeWhile (· ≠ '\n')).length + 1)

def Fault.message (f : Fault) (text : String) : String :=
  let offset := text.length - f.remaining
  let (line, column) := lineColumn text.toList offset
  s!"{f.mistake.text}: line {line} column {column} (char {offset})"

end Json

end DocFilter
