import DocFilter.Failure
import DocFilter.Text.Digits

/-!
# YAML tokens

The scanner of YAML text. The nesting that indentation shows is turned into explicit starts and
ends, and a scalar that turns out to be a key, because a colon follows it on its line, gets a mark
in front of it afterwards.
-/

namespace DocFilter

namespace Yaml

/-- What is wrong with a YAML text: its form, or a value in it. -/
inductive Fault where
  | malformed (explanation : String)
  | bad (failure : Failure)

/-- What a directive says: the version of YAML, what a handle in tags stands for, or something else,
which is ignored. -/
inductive Directive where
  | version (major minor : Nat)
  | handle (name text : String)
  | other
deriving DecidableEq

inductive Token where
  | directive (d : Directive)
  | documentStart
  | documentEnd
  | sequenceStart
  | mappingStart
  | blockEnd
  | openBracket
  | closeBracket
  | openBrace
  | closeBrace
  | comma
  | item
  | key
  | value
  | anchor (name : String)
  | reference (name : String)
  | tag (handle : Option String) (suffix : String)
  | scalar (text : String) (isPlain : Bool)
deriving DecidableEq

/-- A place where a key without a mark of its own may have started. -/
structure KeyPlace where
  token : Nat
  required : Bool
  index : Nat
  line : Nat
  column : Nat

/-- The scanner: the characters left, the place in the text, the tokens so far, the columns of the
open blocks (innermost first), the number of open brackets, whether a key may start here, and the
place where a key may have started at each bracket level. -/
structure Scanner where
  rest : List Char
  index : Nat
  line : Nat
  column : Nat
  tokens : List Token
  indent : Int
  outer : List Int
  flow : Nat
  keyAllowed : Bool
  keys : List (Nat × KeyPlace)

/-- A part of the scan. Its state outlives a fault. -/
abbrev Scan := ExceptT Fault (StateM Scanner)

def isBreak (c : Char) : Bool :=
  c = '\n' || c = '\r' || c = '\x85' || c = '\u2028' || c = '\u2029'

/-- Whether nothing, a space, a tab or the end of a line comes next. -/
def endsWord (c : Option Char) : Bool :=
  match c with
  | none => true
  | some c => c = ' ' || c = '\t' || isBreak c

namespace Scan

def refuse {α : Type} (explanation : String) : Scan α := throw (.malformed explanation)

def peek (k : Nat) : Scan (Option Char) := return (← get).rest[k]?

def advance (n : Nat) : Scan Unit := modify fun s =>
  (s.rest.take n).foldl (fun s c =>
    let s := { s with rest := s.rest.drop 1, index := s.index + 1 }
    if isBreak c && !(c = '\r' && s.rest.head? = some '\n') then
      { s with line := s.line + 1, column := 0 }
    else if c = '\uFEFF' then s
    else { s with column := s.column + 1 }) s

def takeWhile (test : Char → Bool) : Scan (List Char) := do
  let cs := (← get).rest.takeWhile test
  advance cs.length
  return cs

/-- Takes the end of a line, if one comes next, as what it stands for. -/
def lineBreak : Scan (List Char) := do
  match (← get).rest with
  | '\r' :: '\n' :: _ => advance 2; return ['\n']
  | c :: _ =>
    if isBreak c then
      advance 1
      return if c = '\u2028' || c = '\u2029' then [c] else ['\n']
    else return []
  | [] => return []

def emit (t : Token) : Scan Unit := modify fun s => { s with tokens := s.tokens ++ [t] }

def allowKey (b : Bool) : Scan Unit := modify fun s => { s with keyAllowed := b }

def insertAt (n : Nat) (t : Token) : Scan Unit := modify fun s =>
  { s with tokens := s.tokens.take n ++ t :: s.tokens.drop n }

def missingColon : String := "could not find expected ':'"

/-- Gives up the place of a key at the current bracket level. -/
def dropKey : Scan Unit := do
  let s ← get
  match s.keys.lookup s.flow with
  | none => return ()
  | some k =>
    if k.required then refuse missingColon
    set { s with keys := s.keys.filter (·.1 != s.flow) }

/-- Remembers that a key may start here. -/
def saveKey : Scan Unit := do
  let s ← get
  if s.keyAllowed then
    dropKey
    let required := s.flow = 0 && s.indent = s.column
    modify fun s => { s with
      keys := (s.flow, ⟨s.tokens.length, required, s.index, s.line, s.column⟩) :: s.keys }

/-- Gives up the places of keys that lie on earlier lines or too far back. -/
def dropStaleKeys : Scan Unit := do
  let s ← get
  let isStale (k : KeyPlace) : Bool := k.line != s.line || 1024 < s.index - k.index
  if s.keys.any fun (_, k) => isStale k && k.required then refuse missingColon
  set { s with keys := s.keys.filter fun (_, k) => !isStale k }

/-- Closes the blocks that are indented further than a column. -/
def closeBlocks (column : Int) : Scan Unit := modify fun s =>
  if s.flow != 0 then s
  else
    let rec go : Int → List Int → List Token → Int × List Int × List Token
      | indent, [], ts => (indent, [], ts)
      | indent, i :: is, ts =>
        if column < indent then go i is (ts ++ [.blockEnd]) else (indent, i :: is, ts)
    let (indent, outer, tokens) := go s.indent s.outer s.tokens
    { s with indent := indent, outer := outer, tokens := tokens }

/-- Opens a block at a column, if it is indented further than the current one. -/
def openBlock (column : Nat) : Scan Bool := do
  let s ← get
  if s.indent < column then
    set { s with indent := column, outer := s.indent :: s.outer }
    return true
  else return false

/-- Whether a mark of documents, and then nothing else of a word, comes next. -/
def atDocumentMark : Scan Bool := do
  let cs := (← get).rest
  return (cs.take 3 = ['-', '-', '-'] || cs.take 3 = ['.', '.', '.']) && endsWord cs[3]?

/-- Skips space, comments and ends of lines before a token. -/
def toNextToken : Nat → Scan Unit
  | 0 => return ()
  | fuel + 1 => do
    let _ ← takeWhile (· = ' ')
    if (← peek 0) = some '#' then
      let _ ← takeWhile fun c => !isBreak c
    if (← lineBreak).isEmpty then return ()
    if (← get).flow = 0 then allowKey true
    toNextToken fuel

/-! ### Scalars -/

/-- The end of a line inside a scalar, and the empty lines after it; no text is none of them. -/
def blankLines : Nat → Scan (List Char)
  | 0 => return []
  | fuel + 1 => do
    if ← atDocumentMark then refuse "found unexpected document separator"
    let _ ← takeWhile fun c => c = ' ' || c = '\t'
    match ← lineBreak with
    | [] => return []
    | b => return b ++ (← blankLines fuel)

def escaped? : Char → Option Char
  | '0' => some '\x00'
  | 'a' => some '\x07'
  | 'b' => some '\x08'
  | 't' => some '\t'
  | '\t' => some '\t'
  | 'n' => some '\n'
  | 'v' => some '\x0b'
  | 'f' => some '\x0c'
  | 'r' => some '\r'
  | 'e' => some '\x1b'
  | ' ' => some ' '
  | '"' => some '"'
  | '\\' => some '\\'
  | '/' => some '/'
  | 'N' => some '\x85'
  | '_' => some '\xa0'
  | 'L' => some '\u2028'
  | 'P' => some '\u2029'
  | _ => none

def escapeWidth? : Char → Option Nat
  | 'x' => some 2
  | 'u' => some 4
  | 'U' => some 8
  | _ => none

def readEscape (fuel : Nat) : Scan (List Char) := do
  match ← peek 0 with
  | none => refuse "found unknown escape character"
  | some c =>
    match escaped? c, escapeWidth? c with
    | some e, _ => advance 1; return [e]
    | none, some width =>
      advance 1
      match ((← get).rest.take width).mapM hexValue? with
      | some ds =>
        if ds.length < width then refuse "expected escape sequence of hexadecimal numbers"
        advance width
        let n := ofDigits 16 ds
        if 0x80000000 ≤ n then
          throw (.bad (.tooLarge "Python int too large to convert to C int"))
        if 0x110000 ≤ n then throw (.bad (.badValue "chr() arg not in range(0x110000)"))
        return [Char.ofNat n]
      | none => refuse "expected escape sequence of hexadecimal numbers"
    | none, none =>
      if isBreak c then
        let _ ← lineBreak
        blankLines fuel
      else refuse "found unknown escape character"

def readQuoted (q : Char) : Nat → Scan (List Char)
  | 0 => refuse "found unexpected end of stream"
  | fuel + 1 => do
    let plain ← takeWhile fun c =>
      !(c = '\x27' || c = '"' || c = '\\' || c = ' ' || c = '\t' || isBreak c)
    match (← get).rest with
    | [] => refuse "found unexpected end of stream"
    | c :: r =>
      if c = '\x27' && q = '\x27' && r.head? = some '\x27' then
        advance 2
        return plain ++ '\x27' :: (← readQuoted q fuel)
      else if c = q then
        advance 1
        return plain
      else if c = '\\' && q = '"' then
        advance 1
        let e ← readEscape fuel
        return plain ++ e ++ (← readQuoted q fuel)
      else if c = '\x27' || c = '"' || c = '\\' then
        advance 1
        return plain ++ c :: (← readQuoted q fuel)
      else
        let space ← takeWhile fun c => c = ' ' || c = '\t'
        match (← get).rest with
        | [] => refuse "found unexpected end of stream"
        | d :: _ =>
          let gap ← if isBreak d then do
              let first ← lineBreak
              let more ← blankLines fuel
              pure (if first != ['\n'] then first ++ more else if more.isEmpty then [' '] else more)
            else pure space
          return plain ++ gap ++ (← readQuoted q fuel)

/-- The empty lines, and the space before the next line, inside a plain scalar; nothing if a
document ends. -/
def plainBreaks : Nat → Scan (Option (List Char))
  | 0 => return some []
  | fuel + 1 => do
    let _ ← takeWhile (· = ' ')
    match ← lineBreak with
    | [] => return some []
    | b =>
      if ← atDocumentMark then return none
      return (← plainBreaks fuel).map (b ++ ·)

/-- The space after a part of a plain scalar, as it counts if the scalar goes on. -/
def plainGap (fuel : Nat) : Scan (List Char) := do
  let space ← takeWhile (· = ' ')
  match ← lineBreak with
  | [] => return space
  | first =>
    allowKey true
    if ← atDocumentMark then return []
    match ← plainBreaks fuel with
    | none => return []
    | some more =>
      return if first != ['\n'] then first ++ more else if more.isEmpty then [' '] else more

/-- The length of the part of a plain scalar at the front. -/
def plainLength (inFlow : Bool) : List Char → Nat
  | [] => 0
  | c :: r =>
    let next := r.head?
    let isFlowSign (c : Char) : Bool := c = ',' || c = '[' || c = ']' || c = '\x7b' || c = '\x7d'
    if c = ' ' || c = '\t' || isBreak c then 0
    else if c = ':' && (endsWord next || (inFlow && next.any isFlowSign)) then 0
    else if inFlow && (isFlowSign c || c = '?') then 0
    else plainLength inFlow r + 1

/-- A plain scalar; `gap` is the space before it that counts if there is more of it. -/
def readPlain (indent : Int) (gap : List Char) : Nat → Scan (List Char)
  | 0 => return []
  | fuel + 1 => do
    let s ← get
    let n := if s.rest.head? = some '#' then 0 else plainLength (s.flow != 0) s.rest
    if n = 0 then return []
    allowKey false
    let part := gap ++ s.rest.take n
    advance n
    let gap ← plainGap fuel
    let s ← get
    if gap.isEmpty || s.rest.head? = some '#' || (s.flow = 0 && s.column < indent) then return part
    return part ++ (← readPlain indent gap fuel)

/-- The empty lines before a line of a block scalar, of which each is indented at most to a
column. -/
def blockBreaks (indent : Nat) : Nat → Scan (List Char)
  | 0 => return []
  | fuel + 1 => do
    let s ← get
    advance (min (indent - s.column) (s.rest.takeWhile (· = ' ')).length)
    match ← lineBreak with
    | [] => return []
    | b => return b ++ (← blockBreaks indent fuel)

/-- The empty lines before the first line of a block scalar, and the greatest column reached. -/
def blockIndentation (greatest : Nat) : Nat → Scan (List Char × Nat)
  | 0 => return ([], greatest)
  | fuel + 1 => do
    let _ ← takeWhile (· = ' ')
    let greatest := max greatest (← get).column
    match ← lineBreak with
    | [] => return ([], greatest)
    | b =>
      let (more, greatest) ← blockIndentation greatest fuel
      return (b ++ more, greatest)

/-- The lines of a block scalar; `breaks` are the empty lines before the next one. The answer is the
text up to the last line, the end of that line, and the empty lines after it. -/
def blockLines (folded : Bool) (indent : Nat) (breaks : List Char) :
    Nat → Scan (List Char × List Char × List Char)
  | 0 => return ([], [], breaks)
  | fuel + 1 => do
    let s ← get
    if s.column != indent || s.rest.isEmpty then return ([], [], breaks)
    let isText (c : Option Char) : Bool := c != some ' ' && c != some '\t'
    let startsWithText := isText s.rest.head?
    let line ← takeWhile fun c => !isBreak c
    let ending ← lineBreak
    let after ← blockBreaks indent fuel
    let s ← get
    if s.column = indent && !s.rest.isEmpty then
      let joint :=
        if folded && ending = ['\n'] && startsWithText && isText s.rest.head? then
          if after.isEmpty then [' '] else []
        else ending
      let (text, last, rest) ← blockLines folded indent after fuel
      return (breaks ++ line ++ joint ++ text, last, rest)
    else return (breaks ++ line, ending, after)

/-- The signs after the start of a block scalar: whether its last line ends are kept (`true`) or
dropped (`false`), and its indentation. -/
def blockHeader : Scan (Option Bool × Option Nat) := do
  let sign : Scan (Option Bool) := do
    match ← peek 0 with
    | some '+' => advance 1; return some true
    | some '-' => advance 1; return some false
    | _ => return none
  let digit : Scan (Option Nat) := do
    match (← peek 0).bind asciiDigit? with
    | some 0 => refuse "expected indentation indicator in the range 1-9, but found 0"
    | some n => advance 1; return some n
    | none => return none
  let first ← sign
  let width ← digit
  let chomp ← if first.isNone && width.isSome then sign else pure first
  if !(match ← peek 0 with | none => true | some c => c = ' ' || isBreak c) then
    refuse "expected chomping or indentation indicators"
  let _ ← takeWhile (· = ' ')
  if (← peek 0) = some '#' then
    let _ ← takeWhile fun c => !isBreak c
  if !(match ← peek 0 with | none => true | some c => isBreak c) then
    refuse "expected a comment or a line break"
  let _ ← lineBreak
  return (chomp, width)

def readBlock (folded : Bool) (fuel : Nat) : Scan String := do
  let (chomp, width) ← blockHeader
  let least := (max ((← get).indent + 1) 1).toNat
  let (breaks, indent) ← match width with
    | none => do
      let (breaks, greatest) ← blockIndentation 0 fuel
      pure (breaks, max least greatest)
    | some n => do
      let indent := least + n - 1
      pure (← blockBreaks indent fuel, indent)
  let (text, ending, after) ← blockLines folded indent breaks fuel
  let ending := if chomp = some false then [] else ending
  let after := if chomp = some true then after else []
  return String.ofList (text ++ ending ++ after)

/-! ### Tokens -/

def documentMark (t : Token) : Scan Unit := do
  closeBlocks (-1)
  dropKey
  allowKey false
  emit t
  advance 3

def openFlow (t : Token) : Scan Unit := do
  saveKey
  modify fun s => { s with flow := s.flow + 1, keyAllowed := true }
  emit t
  advance 1

def closeFlow (t : Token) : Scan Unit := do
  dropKey
  let s ← get
  if s.flow = 0 then refuse "unexpected closing bracket"
  set { s with flow := s.flow - 1, keyAllowed := false }
  emit t
  advance 1

def blockItem : Scan Unit := do
  let s ← get
  if s.flow = 0 then
    if !s.keyAllowed then refuse "sequence entries are not allowed here"
    if ← openBlock s.column then emit .sequenceStart
  allowKey true
  dropKey
  emit .item
  advance 1

def explicitKey : Scan Unit := do
  let s ← get
  if s.flow = 0 then
    if !s.keyAllowed then refuse "mapping keys are not allowed here"
    if ← openBlock s.column then emit .mappingStart
  allowKey (s.flow = 0)
  dropKey
  emit .key
  advance 1

/-- A colon after a key: marks the key that may have started before it. -/
def keyValue : Scan Unit := do
  let s ← get
  match s.keys.lookup s.flow with
  | some k =>
    set { s with keys := s.keys.filter (·.1 != s.flow) }
    insertAt k.token .key
    if s.flow = 0 then
      if ← openBlock k.column then insertAt k.token .mappingStart
    allowKey false
  | none =>
    if s.flow = 0 then
      if !s.keyAllowed then refuse "mapping values are not allowed here"
      if ← openBlock s.column then emit .mappingStart
    allowKey (s.flow = 0)
    dropKey
  emit .value
  advance 1

def isWordChar (c : Char) : Bool := c.isAlphanum || c = '-' || c = '_'

def anchorName : Scan String := do
  let name ← takeWhile isWordChar
  let next ← peek 0
  let mayFollow (c : Char) : Bool := "?:,]\x7d%@\x60".toList.contains c
  if name.isEmpty || !(endsWord next || next.any mayFollow) then
    refuse "expected alphabetic or numeric character"
  return String.ofList name

/-- Whether a word ends: with the text, a space or the end of a line. -/
def endsAtBlank (c : Option Char) : Bool := c.all fun c => c = ' ' || isBreak c

/-- A run of escapes in a tag, each of a percent sign and two digits, as the text of their bytes. -/
def tagEscapes : Nat → Scan (List UInt8)
  | 0 => return []
  | fuel + 1 => do
    match (← get).rest with
    | '%' :: a :: b :: _ =>
      match hexValue? a, hexValue? b with
      | some m, some n =>
        advance 3
        return UInt8.ofNat (16 * m + n) :: (← tagEscapes fuel)
      | _, _ => refuse "expected escape sequence of 2 hexadecimal numbers"
    | '%' :: _ => refuse "expected escape sequence of 2 hexadecimal numbers"
    | _ => return []

/-- The part of a tag after its handle, as far as it goes; `fuel` bounds the number of its parts. -/
def tagParts : Nat → Scan (List Char)
  | 0 => return []
  | fuel + 1 => do
    let part ← takeWhile fun c =>
      c.isAlphanum || "-;/?:@&=+$,_.!~*\x27()[]".toList.contains c
    if (← peek 0) = some '%' then
      match Utf8.decode (← tagEscapes ((← get).rest.length + 1)) with
      | .ok text => return part ++ text.toList ++ (← tagParts fuel)
      | .error fault => refuse fault.message
    else return part

def tagSuffix : Scan String := do
  let rest := (← get).rest
  let cs ← tagParts (rest.length + 1)
  if (← get).rest.length = rest.length then refuse "expected URI"
  return String.ofList cs

/-- The handle at the start of a tag: a word between exclamation marks, or a single one before a
space. -/
def tagHandle : Scan String := do
  let rest := (← get).rest
  if rest.head? != some '!' then refuse "expected '!'"
  if rest[1]? = some ' ' then
    advance 1
    return "!"
  let word := (rest.drop 1).takeWhile isWordChar
  advance (word.length + 1)
  if (← peek 0) != some '!' then refuse "expected '!'"
  advance 1
  return String.ofList ('!' :: word ++ ['!'])

/-- A tag: a whole one in angle brackets, a lone exclamation mark, or a handle and what follows. -/
def readTag : Scan Token := do
  let rest := (← get).rest
  let t ← match rest.drop 1 with
    | '<' :: _ => do
      advance 2
      let name ← tagSuffix
      if (← peek 0) != some '>' then refuse "expected '>'"
      advance 1
      pure (Token.tag none name)
    | after =>
      if endsWord after.head? then do
        advance 1
        pure (Token.tag none "!")
      else if (after.takeWhile fun c => !(c = ' ' || isBreak c)).contains '!' then do
        let handle ← tagHandle
        pure (Token.tag (some handle) (← tagSuffix))
      else do
        advance 1
        pure (Token.tag (some "!") (← tagSuffix))
  if !endsAtBlank (← peek 0) then refuse "expected ' '"
  return t

def directiveNumber : Scan Nat := do
  let ds ← takeWhile Char.isDigit
  if ds.isEmpty then refuse "expected a digit"
  return ofDigits 10 (ds.filterMap asciiDigit?)

def readDirective : Scan Directive := do
  let name ← takeWhile isWordChar
  if name.isEmpty || !endsAtBlank (← peek 0) then
    refuse "expected alphabetic or numeric character"
  let space : Scan Unit := do let _ ← takeWhile (· = ' ')
  let d ← match String.ofList name with
    | "YAML" => do
      space
      let major ← directiveNumber
      if (← peek 0) != some '.' then refuse "expected a digit or '.'"
      advance 1
      let minor ← directiveNumber
      if !endsAtBlank (← peek 0) then refuse "expected a digit or ' '"
      pure (.version major minor)
    | "TAG" => do
      space
      let handle ← tagHandle
      if (← peek 0) != some ' ' then refuse "expected ' '"
      space
      let text ← tagSuffix
      if !endsAtBlank (← peek 0) then refuse "expected ' '"
      pure (.handle handle text)
    | _ => do
      let _ ← takeWhile fun c => !isBreak c
      pure .other
  space
  if (← peek 0) = some '#' then
    let _ ← takeWhile fun c => !isBreak c
  if !(← peek 0).all isBreak then refuse "expected a comment or a line break"
  let _ ← lineBreak
  return d

/-- Whether a plain scalar can start with a character that another follows. -/
def startsPlain (inFlow : Bool) (c : Char) (next : Option Char) : Bool :=
  !(c = ' ' || c = '\t' || isBreak c || "-?:,[]\x7b\x7d#&*!|>\x27\"%@\x60".toList.contains c) ||
    (!endsWord next && (c = '-' || (!inFlow && (c = '?' || c = ':'))))

/-- One token that is no mark of documents, starting with a given character. -/
def token (c : Char) (fuel : Nat) : Scan Unit := do
  let s ← get
  let inFlow := s.flow != 0
  let next := s.rest[1]?
  if c = '[' then openFlow .openBracket
  else if c = '\x7b' then openFlow .openBrace
  else if c = ']' then closeFlow .closeBracket
  else if c = '\x7d' then closeFlow .closeBrace
  else if c = ',' then
    allowKey true
    dropKey
    emit .comma
    advance 1
  else if c = '-' && endsWord next then blockItem
  else if c = '?' && (inFlow || endsWord next) then explicitKey
  else if c = ':' && (inFlow || endsWord next) then keyValue
  else if c = '*' || c = '&' then
    saveKey
    allowKey false
    advance 1
    let name ← anchorName
    emit (if c = '*' then .reference name else .anchor name)
  else if c = '!' then
    saveKey
    allowKey false
    emit (← readTag)
  else if (c = '|' || c = '>') && !inFlow then
    allowKey true
    dropKey
    advance 1
    emit (.scalar (← readBlock (c = '>') fuel) false)
  else if c = '\x27' || c = '"' then
    saveKey
    allowKey false
    advance 1
    emit (.scalar (String.ofList (← readQuoted c fuel)) false)
  else if startsPlain inFlow c next then
    saveKey
    allowKey false
    let text ← readPlain (s.indent + 1) [] fuel
    emit (.scalar (String.ofList text) true)
  else refuse "found character that cannot start any token"

/-- All tokens up to the end of the text; `fuel` bounds their number. -/
def all (size : Nat) : Nat → Scan Unit
  | 0 => return ()
  | fuel + 1 => do
    toNextToken size
    dropStaleKeys
    let s ← get
    closeBlocks s.column
    match s.rest with
    | [] =>
      closeBlocks (-1)
      dropKey
    | c :: _ =>
      if c = '%' && s.column = 0 then
        closeBlocks (-1)
        dropKey
        allowKey false
        advance 1
        emit (.directive (← readDirective))
      else if s.column = 0 && (← atDocumentMark) then
        documentMark (if c = '-' then .documentStart else .documentEnd)
      else token c size
      all size fuel

end Scan

def isAllowed (c : Char) : Bool :=
  let n := c.toNat
  n = 9 || n = 10 || n = 13 || (0x20 ≤ n && n ≤ 0x7E) || n = 0x85 || (0xA0 ≤ n && n ≤ 0xD7FF) ||
    (0xE000 ≤ n && n ≤ 0xFFFD) || 0x10000 ≤ n

/-- The tokens of a text, and how its scan ended: with a fault or at the end of the text, and how
many characters before that end. -/
structure Scanned where
  tokens : List Token
  fault : Option Fault
  left : Nat

def scan (cs : List Char) : Scanned :=
  if !cs.all isAllowed then ⟨[], some (.malformed "special characters are not allowed"), cs.length⟩
  else
    let cs := match cs with
      | '\uFEFF' :: r => r
      | cs => cs
    let size := cs.length + 1
    let start : Scanner := ⟨cs, 0, 0, 0, [], -1, [], 0, true, []⟩
    match (Scan.all size (size + 1)).run start with
    | (.ok (), s) => ⟨s.tokens, none, s.rest.length⟩
    | (.error fault, s) => ⟨s.tokens, some fault, s.rest.length⟩

end Yaml

end DocFilter
