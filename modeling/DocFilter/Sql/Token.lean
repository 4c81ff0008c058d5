import DocFilter.Sql.Completion
import DocFilter.Text.Digits

/-!
# SQL tokens

The words, literals and signs of a statement. Each token knows how many characters of the text are
left before and after it, so that the text between two tokens can be given back as it was written.
-/

namespace DocFilter

namespace Sql

inductive Lexeme where
  | word
  | quotedName (name : String)
  | text (s : String)
  | whole (digits : List Char)
  | hexadecimal (digits : List Char)
  | decimal (mantissa : List Char)
  | sign
deriving DecidableEq

/-- A token: what it is, how it is spelled, and the characters left before and after it. -/
structure Token where
  lexeme : Lexeme
  spelling : List Char
  before : Nat
  after : Nat

namespace Token

def text (t : Token) : String := String.ofList t.spelling

/-- A word in upper case; anything else is no keyword. -/
def keyword (t : Token) : String :=
  match t.lexeme with
  | .word => String.ofList (t.spelling.map Char.toUpper)
  | _ => ""

def isSign (t : Token) (s : String) : Bool := t.lexeme == .sign && t.text == s

end Token

/-- The content of a quoted text up to its closing quote, where a quote is written twice. -/
def readQuoted (q : Char) : List Char → Option (List Char × List Char)
  | [] => none
  | [c] => if c = q then some ([], []) else none
  | c :: d :: r =>
    if c = q then
      if d = q then (readQuoted q r).map fun (cs, rest) => (q :: cs, rest)
      else some ([], d :: r)
    else (readQuoted q (d :: r)).map fun (cs, rest) => (c :: cs, rest)

/-- The rest after a comment that runs to `*/`, or to the end of the text. -/
def skipBlock : List Char → List Char
  | '*' :: '/' :: r => r
  | _ :: r => skipBlock r
  | [] => []

def digitsOf (cs : List Char) : List Char × List Char :=
  (cs.takeWhile Char.isDigit, cs.dropWhile Char.isDigit)

/-- The digits of an exponent with the marks before them, if there are digits. -/
def exponentDigits (marks cs : List Char) : Option (List Char × List Char) :=
  match digitsOf cs with
  | ([], _) => none
  | (ds, rest) => some (marks ++ ds, rest)

/-- An exponent, if a whole one stands at the front. -/
def exponentOf (cs : List Char) : List Char × List Char :=
  let found := match cs with
    | 'e' :: '+' :: r | 'e' :: '-' :: r | 'E' :: '+' :: r | 'E' :: '-' :: r =>
      exponentDigits (cs.take 2) r
    | 'e' :: r | 'E' :: r => exponentDigits (cs.take 1) r
    | _ => none
  found.getD ([], cs)

/-- A number at the front: its lexeme, and the rest. -/
def readNumber (cs : List Char) : Lexeme × List Char :=
  let (whole, r) := digitsOf cs
  let (fraction, r) := match r with
    | '.' :: r => let (ds, rest) := digitsOf r; ('.' :: ds, rest)
    | r => ([], r)
  let (exponent, r) := exponentOf r
  if fraction.isEmpty && exponent.isEmpty then (.whole whole, r)
  else (.decimal (whole ++ fraction ++ exponent), r)

def doubleSigns : List (Char × Char) :=
  [('<', '='), ('<', '>'), ('>', '='), ('=', '='), ('!', '='), ('|', '|'), ('<', '<'), ('>', '>')]

/-- What stands at the front of the text: blank, a token with the rest, or no token, with its
spelling. -/
inductive Front where
  | blank (rest : List Char)
  | token (lexeme : Lexeme) (rest : List Char)
  | unknown (rest : List Char)

/-- The blanks that a run of blanks may start with. -/
def startsBlank (c : Char) : Bool := c = ' ' || c = '\t' || c = '\n' || c = '\x0c' || c = '\r'

/-- The digits of a hexadecimal number that `0` and the given text write, with the rest. -/
def hexadecimal? : List Char → Option (List Char × List Char)
  | x :: d :: r =>
    let isDigit (c : Char) : Bool := (hexValue? c).isSome
    if (x = 'x' || x = 'X') && isDigit d then
      some (d :: r.takeWhile isDigit, r.dropWhile isDigit)
    else none
  | _ => none

/-- The blanks inside a run of blanks. -/
def isBlankInside (c : Char) : Bool := startsBlank c || c = '\x0b'

/-- The rest after a quoted text of bytes with its opening mark taken off, if its content is no row
of pairs of hexadecimal digits. -/
def brokenBytes? (cs : List Char) : Option (List Char) :=
  let digits := cs.takeWhile fun c => (hexValue? c).isSome
  let rest := cs.drop digits.length
  if rest.head? == some '\x27' && digits.length % 2 = 0 then none
  else some ((rest.dropWhile (· ≠ '\x27')).drop 1)

/-- What the character `c` and the text after it start with. -/
def front (c : Char) (r : List Char) : Front :=
  if startsBlank c then .blank (r.dropWhile isBlankInside)
  else if c = '\ufeff' then .blank r
  else if c = '-' && r.head? == some '-' then .blank (r.dropWhile (· ≠ '\n'))
  else if c = '/' && r.head? == some '*' && 1 < r.length then .blank (skipBlock (r.drop 1))
  else if c = '\x27' then
    match readQuoted c r with
    | some (cs, rest) => .token (.text (String.ofList cs)) rest
    | none => .unknown []
  else if c = '"' || c = '\x60' then
    match readQuoted c r with
    | some (cs, rest) => .token (.quotedName (String.ofList cs)) rest
    | none => .unknown []
  else if c = '[' then
    match r.dropWhile (· ≠ ']') with
    | [] => .unknown []
    | _ :: rest => .token (.quotedName (String.ofList (r.takeWhile (· ≠ ']')))) rest
  else if let some (digits, rest) := if c = '0' then hexadecimal? r else none then
    .token (.hexadecimal digits) rest
  else if c.isDigit || (c = '.' && (r.head?.map Char.isDigit).getD false) then
    let (lexeme, rest) := readNumber (c :: r)
    if (rest.head?.map isWordChar).getD false then .unknown (rest.dropWhile isWordChar)
    else .token lexeme rest
  else if let some rest := if (c = 'x' || c = 'X') && r.head? == some '\x27'
      then brokenBytes? (r.drop 1) else none then .unknown rest
  else if c.isAlpha || c = '_' || 0x80 ≤ c.toNat then .token .word (r.dropWhile isWordChar)
  else if "();,+-*/%=<>&|~.".toList.contains c then
    match r with
    | d :: rest => if doubleSigns.contains (c, d) then .token .sign rest else .token .sign r
    | [] => .token .sign r
  else if c = '!' && r.head? == some '=' then .token .sign (r.drop 1)
  else .unknown r

/-- The tokens of a text, up to the first spelling that is no token, which is given back; `fuel`
bounds their number. -/
def tokens : Nat → List Char → List Token × Option String
  | 0, _ => ([], none)
  | _ + 1, [] => ([], none)
  | fuel + 1, c :: r =>
    let spelling (rest : List Char) : List Char := (c :: r).take (r.length + 1 - rest.length)
    match front c r with
    | .blank rest => tokens fuel rest
    | .unknown rest => ([], some (String.ofList (spelling rest)))
    | .token lexeme rest =>
      let (ts, fault) := tokens fuel rest
      (⟨lexeme, spelling rest, r.length + 1, rest.length⟩ :: ts, fault)

end Sql

end DocFilter
