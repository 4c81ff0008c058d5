import DocFilter.Text.Digits

/-!
# Literals

How scripts write numbers and texts: the bases and groups of digits, where a number may end, and the
escapes of a quoted text.
-/

namespace DocFilter

namespace Script

/-- A number as it is written: a whole one, or digits with a power of ten. -/
inductive Numeral where
  | whole (n : Nat)
  | decimal (digits : Nat) (exponent : Int)
deriving DecidableEq

/-- The characters that a name may start with, or hold after its first one. Beyond ASCII they are
looked at only when the name is complete. -/
def isNameStart (c : Char) : Bool := c.isAlpha || c = '_' || 0x80 ≤ c.toNat
def isNameChar (c : Char) : Bool := isNameStart c || c.isDigit

namespace Numeral

/-- The words that may follow a number without a blank; of the second ones the start is enough. -/
def wordsAfter : List (List Char) := ["and", "else", "for", "or", "not"].map String.toList
def startsAfter : List (List Char) := ["if", "in", "is"].map String.toList

/-- Whether a word follows that may follow a number without a blank. -/
def meetsWord (rest : List Char) : Bool :=
  startsAfter.any (·.isPrefixOf rest) ||
    wordsAfter.any fun w => w.isPrefixOf rest && !(rest.drop w.length).head?.any isNameChar

def checkEnd (kind : String) (rest : List Char) : Except String Unit :=
  if meetsWord rest || !(rest.head?.any fun c => isNameChar c && c.toNat < 0x80) then .ok ()
  else .error s!"invalid {kind} literal"

def digitBelow (bound : Nat) (c : Char) : Option Nat := (asciiDigit? c).filter (· < bound)

/-- The digits in a base that a letter after a zero has announced, each perhaps after a low line,
with the rest; `kind` is what the literal is called. -/
def announced (digit : Char → Option Nat) (kind : String) :
    Nat → List Char → Except String (List Nat × List Char)
  | 0, cs => .ok ([], cs)
  | fuel + 1, cs =>
    let (grouped, ds) := match cs with
      | '_' :: r => (true, r)
      | r => (false, r)
    match ds with
    | c :: r =>
      match digit c with
      | some d => do
        let (more, rest) ← announced digit kind fuel r
        return (d :: more, rest)
      | none =>
        if c.isDigit then .error s!"invalid digit '{c}' in {kind} literal"
        else if grouped then .error s!"invalid {kind} literal"
        else .ok ([], cs)
    | [] => if grouped then .error s!"invalid {kind} literal" else .ok ([], cs)

def readAnnounced (base : Nat) (digit : Char → Option Nat) (kind : String) (cs : List Char) :
    Except String (Numeral × List Char) := do
  let (ds, rest) ← announced digit kind (cs.length + 1) cs
  if ds.isEmpty then throw s!"invalid {kind} literal"
  checkEnd kind rest
  return (.whole (ofDigits base ds), rest)

/-- Decimal digits with single low lines between them, perhaps none at all, with the rest. -/
def decimalDigits : List Char → Except String (List Nat × List Char)
  | [] => .ok ([], [])
  | c :: r =>
    match asciiDigit? c with
    | none => .ok ([], c :: r)
    | some d =>
      match r with
      | '_' :: e :: r' =>
        if e.isDigit then do
          let (ds, rest) ← decimalDigits (e :: r')
          return (d :: ds, rest)
        else .error "invalid decimal literal"
      | ['_'] => .error "invalid decimal literal"
      | r => do
        let (ds, rest) ← decimalDigits r
        return (d :: ds, rest)

/-- The exponent after the digits of a number, with the rest. A letter that no digit follows belongs
to what comes next. -/
def readExponent (cs : List Char) : Except String (Option Int × List Char) :=
  match cs with
  | c :: r =>
    let (negative, ds) := splitSign r
    if (c = 'e' || c = 'E') && ds.head?.any Char.isDigit then do
      let (e, rest) ← decimalDigits ds
      return (some (signedInt negative (ofDigits 10 e)), rest)
    else .ok (none, cs)
  | [] => .ok (none, [])

/-- The refusal of a number that starts with zeros and goes on with other digits. -/
def leadingZeros : String :=
  "leading zeros in decimal integer literals are not permitted; " ++
    "use an 0o prefix for octal integers"

/-- A decimal number with the rest. -/
def readDecimal (cs : List Char) : Except String (Numeral × List Char) := do
  let (units, rest) ← decimalDigits cs
  let (fraction, rest) ← match rest with
    | '.' :: r => do
      let (ds, rest) ← decimalDigits r
      pure (some ds, rest)
    | r => pure (none, r)
  let (exponent, rest) ← readExponent rest
  if fraction.isNone && exponent.isNone then
    if units.head? = some 0 && units.any (· != 0) then throw leadingZeros
    checkEnd "decimal" rest
    return (.whole (ofDigits 10 units), rest)
  else
    checkEnd "decimal" rest
    let digits := fraction.getD []
    return (.decimal (ofDigits 10 (units ++ digits)) (exponent.getD 0 - digits.length), rest)

def kindOf : List Char → String
  | '0' :: 'x' :: _ | '0' :: 'X' :: _ => "hexadecimal"
  | '0' :: 'o' :: _ | '0' :: 'O' :: _ => "octal"
  | '0' :: 'b' :: _ | '0' :: 'B' :: _ => "binary"
  | _ => "decimal"

/-- The number at the front of a text, with the rest, or the complaint that there is none. -/
def read (cs : List Char) : Except String (Numeral × List Char) :=
  match kindOf cs with
  | "hexadecimal" => readAnnounced 16 hexValue? "hexadecimal" (cs.drop 2)
  | "octal" => readAnnounced 8 (digitBelow 8) "octal" (cs.drop 2)
  | "binary" => readAnnounced 2 (digitBelow 2) "binary" (cs.drop 2)
  | _ => readDecimal cs

/-- What is noticed about a number that a word follows without a blank. -/
def notice? (cs rest : List Char) : Option String :=
  let kind := kindOf cs
  if meetsWord rest then some s!"invalid {kind} literal" else none

end Numeral

/-- A quoted text as it is written: what stands between the quotes, and whether a backslash stands
for itself there. -/
structure Quotation where
  isRaw : Bool
  written : List Char
deriving DecidableEq

namespace Quotation

/-- The marks and the quote that a quoted text starts with: whether it is raw, the quote, whether it
stands three times, and what follows. -/
def start? (cs : List Char) : Option (Bool × Char × Bool × List Char) :=
  let (isRaw, r) := match cs with
    | 'r' :: r | 'R' :: r => (true, r)
    | 'u' :: r | 'U' :: r => (false, r)
    | r => (false, r)
  match r with
  | q :: r =>
    if q = '"' || q = '\x27' then
      if [q, q].isPrefixOf r then some (isRaw, q, true, r.drop 2) else some (isRaw, q, false, r)
    else none
  | [] => none

/-- What stands before the closing quote, with the rest. The character after a backslash closes
nothing, and only a text in three quotes may go over the end of a line. -/
def upToQuote (quote : Char) (isLong : Bool) : List Char → Option (List Char × List Char)
  | [] => none
  | '\\' :: c :: r => (upToQuote quote isLong r).map fun (cs, rest) => ('\\' :: c :: cs, rest)
  | c :: r =>
    if c = quote && !isLong then some ([], r)
    else if c = quote && [quote, quote].isPrefixOf r then some ([], r.drop 2)
    else if c = '\n' && !isLong then none
    else (upToQuote quote isLong r).map fun (cs, rest) => (c :: cs, rest)

def escaped? : Char → Option Char
  | '\\' => some '\\'
  | '\x27' => some '\x27'
  | '"' => some '"'
  | 'a' => some '\x07'
  | 'b' => some '\x08'
  | 'f' => some '\x0c'
  | 'n' => some '\n'
  | 'r' => some '\r'
  | 't' => some '\t'
  | 'v' => some '\x0b'
  | _ => none

def isOctal (c : Char) : Bool := '0' ≤ c && c ≤ '7'

/-- What is wrong with an escape, and how many characters of it have been read after the
backslash. -/
structure BadEscape where
  reason : String
  length : Nat

/-- The character whose code point the given number of hexadecimal digits write, with the rest. -/
def codeEscape (letter : Char) (width : Nat) (cs : List Char) :
    Except BadEscape (List Char × List Char) :=
  let ds := (cs.take width).takeWhile fun c => (hexValue? c).isSome
  let marks := String.ofList (List.replicate width 'X')
  if ds.length < width then .error ⟨s!"truncated \\{letter}{marks} escape", 1 + ds.length⟩
  else
    let n := ofDigits 16 (ds.filterMap hexValue?)
    if 0x110000 ≤ n then .error ⟨"illegal Unicode character", 1 + width⟩
    else .ok ([Char.ofNat n], cs.drop width)

/-- The refusal of a character by its name: scripts know characters by their code points only. -/
def nameEscape (cs : List Char) : BadEscape :=
  match cs with
  | '\x7b' :: r =>
    let name := r.takeWhile (· ≠ '\x7d')
    if name.isEmpty || name.length = r.length then
      ⟨"malformed \\N character escape", 2 + name.length⟩
    else ⟨"unknown Unicode character name", 3 + name.length⟩
  | _ => ⟨"malformed \\N character escape", 1⟩

/-- What an escape stands for, given the text after the backslash, with the rest. A backslash before
any other character stands for itself. -/
def escape : List Char → Except BadEscape (List Char × List Char)
  | [] => .ok (['\\'], [])
  | '\n' :: r => .ok ([], r)
  | 'x' :: r => codeEscape 'x' 2 r
  | 'u' :: r => codeEscape 'u' 4 r
  | 'U' :: r => codeEscape 'U' 8 r
  | 'N' :: r => .error (nameEscape r)
  | c :: r =>
    if isOctal c then
      let ds := c :: (r.take 2).takeWhile isOctal
      .ok ([Char.ofNat (ofDigits 8 (ds.filterMap asciiDigit?))], r.drop (ds.length - 1))
    else match escaped? c with
      | some e => .ok ([e], r)
      | none => .ok (['\\'], c :: r)

/-- The places that a character takes where escapes are counted: those beyond ASCII are written as
escapes there, and so is a backslash before one. -/
def places (c : Char) (next : Option Char) : Nat :=
  if 0x80 ≤ c.toNat then 10
  else if c = '\\' && next.any (0x80 ≤ ·.toNat) then 6
  else 1

/-- A text with its escapes replaced by what they stand for; `place` is where it starts, and `fuel`
bounds the number of steps. -/
def unescape (place : Nat) : Nat → List Char → Except String (List Char)
  | 0, _ => .ok []
  | _ + 1, [] => .ok []
  | fuel + 1, '\\' :: r =>
    match escape r with
    | .ok (cs, rest) => do
      let read := r.take (r.length - rest.length)
      let next := place + places '\\' r.head? + (read.map fun c => places c none).sum
      return cs ++ (← unescape next fuel rest)
    | .error bad =>
      let last := place + (r.take bad.length).foldl (fun n c => n + places c none) 0
      .error <| "(unicode error) 'unicodeescape' codec can't decode bytes in position " ++
        s!"{place}-{last}: " ++ bad.reason
  | fuel + 1, c :: r => return c :: (← unescape (place + places c none) fuel r)

/-- The text that a quotation stands for, or the complaint about an escape. -/
def value (q : Quotation) : Except String String :=
  if q.isRaw then .ok (String.ofList q.written)
  else (unescape 0 (q.written.length + 1) q.written).map String.ofList

end Quotation

end Script

end DocFilter
