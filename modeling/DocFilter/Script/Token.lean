import DocFilter.Script.Literal
import DocFilter.Text.Compatible
import DocFilter.Text.Lines
import DocFilter.Text.NamePart
import DocFilter.Text.Printable

/-!
# Tokens of scripts

The words, literals and signs of a script. Inside brackets the end of a line is of no consequence;
elsewhere the blanks at the start of a line say how far it is indented. A name with letters beyond
ASCII is read in its plain spelling, and is never a keyword. Where the text is none of a script the
tokens end, and a reader that comes so far is told why.
-/

namespace DocFilter

namespace Script

inductive Lexeme where
  | word (name : String)
  | name (name : String)
  | number (n : Numeral)
  | text (q : Quotation)
  | sign (s : String)
  | lineEnd
  | indent
  | dedent
  | textEnd
deriving DecidableEq

/-- A token, the number of its line, how many brackets are open after it, and what is noticed about
the way it is written. -/
structure Token where
  lexeme : Lexeme
  line : Nat
  depth : Nat
  notice : Option String

/-- Why a text is no script: the class and the words of the complaint, and the line. -/
structure ReadFault where
  kind : String
  complaint : String
  line : Nat

def ReadFault.sourceName : String := "<unknown>"

def ReadFault.message (f : ReadFault) : String :=
  let name := sourceName
  let complaint := f.complaint
  let line := f.line
  s!"{complaint} ({name}, line {line})"

/-- An open bracket: the character and its line. -/
abbrev Bracket := Char × Nat

def Bracket.unclosed (b : Bracket) : ReadFault :=
  let (c, line) := b
  ⟨"SyntaxError", s!"'{c}' was never closed", line⟩

/-- The place where the tokens of a text end before the text does. A plain fault is one that the
characters show, whatever stands before them; any other one is a fault only to a reader that comes
so far. -/
structure Break where
  fault : ReadFault
  isPlain : Bool
  innermost : Option Bracket

/-- The tokens of a text, and what ended them early. -/
structure Tokens where
  tokens : Array Token
  broken : Option Break

def strangeCharacter (c : Char) : String :=
  let code := String.ofList ((hexDigits (max 4 (Nat.toDigits 16 c.toNat).length) c.toNat).map
    Char.toUpper)
  if isPrintable c then s!"invalid character '{c}' (U+{code})"
  else s!"invalid non-printable character U+{code}"
where
  hexDigits (width n : Nat) : List Char :=
    let ds := Nat.toDigits 16 n
    List.replicate (width - ds.length) '0' ++ ds

/-- A name, or the complaint about the first character that it may not hold there. -/
def readName (cs : List Char) : Except String Lexeme :=
  let stranger := match cs with
    | [] => none
    | c :: r => if isNameBegin c then r.find? fun d => !isNamePart d else some c
  match stranger with
  | some c => .error (strangeCharacter c)
  | none =>
    let name := String.ofList cs
    .ok (if cs.all (·.toNat < 128) then .word name else .name (plainName name))

/-- The signs of more than one character, longest first. -/
def longSigns : List (List Char) :=
  ["**=", "//=", ">>=", "<<=", "...", "**", "//", ">>", "<<", "+=", "-=", "*=", "/=", "%=", "&=",
    "|=", "^=", "@=", "==", "!=", "<=", ">=", "<>", "->", ":="].map String.toList

def signAt (c : Char) (r : List Char) : List Char :=
  (longSigns.find? (·.isPrefixOf (c :: r))).getD [c]

def closing : Char → Char
  | '(' => ')'
  | '[' => ']'
  | _ => '\x7d'

def mostBrackets : Nat := 200

/-- How far a line is indented: counted with a tab as up to eight blanks, and with a tab as one. -/
structure Indent where
  column : Nat
  tabless : Nat
deriving DecidableEq

/-- A text on its way to be tokens: what is left of it, the number of its line, whether that line
has just begun, the open brackets, and how far the open blocks are indented, innermost first. -/
structure Cursor where
  rest : List Char
  line : Nat
  isFresh : Bool
  brackets : List Bracket
  indents : List Indent

namespace Cursor

def start (cs : List Char) : Cursor := ⟨cs, 1, true, [], [⟨0, 0⟩]⟩

def refuse {α : Type} (c : Cursor) (complaint : String) : Except Break α :=
  .error ⟨⟨"SyntaxError", complaint, c.line⟩, true, c.brackets.head?⟩

/-- A fault only to a reader that comes so far. -/
def halt {α : Type} (c : Cursor) (kind complaint : String) : Except Break α :=
  .error ⟨⟨kind, complaint, c.line⟩, false, c.brackets.head?⟩

def emit (c : Cursor) (lexeme : Lexeme) (rest : List Char) : List Token × Cursor :=
  ([⟨lexeme, c.line, c.brackets.length, none⟩], { c with rest })

/-- The cursor after a backslash that ends a line: nothing but more lines may follow it. -/
def continued (c : Cursor) (r : List Char) : Except Break Cursor :=
  match r with
  | ['\n'] =>
    match c.brackets with
    | [] => c.halt "SyntaxError" "unexpected EOF while parsing"
    | b :: _ => .error ⟨b.unclosed, false, b⟩
  | '\n' :: rest => .ok { c with rest, line := c.line + 1 }
  | _ => c.halt "SyntaxError" "unexpected character after line continuation character"

/-- The indentation of the line at a cursor, and the cursor after it. Where the line is continued the
first part that is indented counts, which is `kept`; `fuel` bounds the number of steps. -/
def indentation (indent : Indent) (kept : Nat) : Nat → Cursor → Except Break (Indent × Cursor)
  | 0, c => .ok (indent, c)
  | fuel + 1, c =>
    match c.rest with
    | ' ' :: rest =>
      indentation ⟨indent.column + 1, indent.tabless + 1⟩ kept fuel { c with rest }
    | '\t' :: rest =>
      indentation ⟨(indent.column / 8 + 1) * 8, indent.tabless + 1⟩ kept fuel { c with rest }
    | '\x0c' :: rest => indentation ⟨0, 0⟩ kept fuel { c with rest }
    | '\\' :: r => do
      let next ← c.continued r
      indentation indent (if kept = 0 then indent.column else kept) fuel next
    | _ => .ok (if kept = 0 then indent else ⟨kept, kept⟩, c)

/-- The tokens for the indentation of a line, and the indentations of the blocks then open. -/
def blocks (c : Cursor) (indent : Indent) : Except Break (List Lexeme × List Indent) :=
  let outer := c.indents.dropWhile (indent.column < ·.column)
  let closed := List.replicate (c.indents.length - outer.length) Lexeme.dedent
  let confused := c.halt "TabError" "inconsistent use of tabs and spaces in indentation"
  match outer with
  | [] => .ok ([], c.indents)
  | block :: _ =>
    if block.column = indent.column then
      if block.tabless = indent.tabless then .ok (closed, outer) else confused
    else if !closed.isEmpty then
      c.halt "IndentationError" "unindent does not match any outer indentation level"
    else if indent.tabless ≤ block.tabless then confused
    else .ok ([.indent], indent :: outer)

/-- The start of a line: its indentation, unless it is blank or inside brackets. -/
def startLine (c : Cursor) : Except Break (List Token × Cursor) := do
  let (indent, c) ← indentation ⟨0, 0⟩ 0 (c.rest.length + 1) { c with isFresh := false }
  match c.rest with
  | '\n' :: rest => return ([], { c with rest, line := c.line + 1, isFresh := true })
  | '#' :: r =>
    return ([], { c with rest := (r.dropWhile (· ≠ '\n')).drop 1, line := c.line + 1, isFresh := true })
  | _ =>
    if !c.brackets.isEmpty then return ([], c)
    let (lexemes, indents) ← c.blocks indent
    return (lexemes.map (⟨·, c.line, 0, none⟩), { c with indents })

def bracket (c : Cursor) (b : Char) (rest : List Char) : Except Break (List Token × Cursor) :=
  let lexeme := Lexeme.sign (String.singleton b)
  if b = '(' || b = '[' || b = '\x7b' then
    if mostBrackets ≤ c.brackets.length then c.refuse "too many nested parentheses"
    else .ok ({ c with brackets := (b, c.line) :: c.brackets }.emit lexeme rest)
  else match c.brackets with
    | [] => c.refuse s!"unmatched '{b}'"
    | (o, line) :: outer =>
      if closing o = b then .ok ({ c with brackets := outer }.emit lexeme rest)
      else
        let place := if line = c.line then "" else s!" on line {line}"
        c.refuse s!"closing parenthesis '{b}' does not match opening parenthesis '{o}'{place}"

def quoted (c : Cursor) (isRaw : Bool) (quote : Char) (isLong : Bool) (rest : List Char) :
    Except Break (List Token × Cursor) :=
  let lineEnds (cs : List Char) : Nat := (cs.filter (· = '\n')).length
  match Quotation.upToQuote quote isLong rest with
  | some (written, after) =>
    let (ts, next) := c.emit (.text ⟨isRaw, written⟩) after
    .ok (ts, { next with line := c.line + lineEnds written })
  | none =>
    if isLong then
      let last := c.line + lineEnds rest - 1
      c.refuse s!"unterminated triple-quoted string literal (detected at line {last})"
    else
      let open_ := openLine rest
      let last := c.line + lineEnds open_ - (if open_.length = rest.length then 1 else 0)
      c.refuse s!"unterminated string literal (detected at line {last})"
where
  /-- What is read of a text in single quotes that no quote closes. -/
  openLine : List Char → List Char
    | '\\' :: d :: r => '\\' :: d :: openLine r
    | d :: r => if d = '\n' then [] else d :: openLine r
    | [] => []

/-- The next tokens, and the cursor after them; at the end of the text there is none. -/
def step (c : Cursor) : Except Break (List Token × Option Cursor) := do
  let go (found : List Token × Cursor) : Except Break (List Token × Option Cursor) :=
    .ok (found.1, some found.2)
  if c.isFresh && !c.rest.isEmpty then go (← c.startLine)
  else match c.rest with
    | [] =>
      match c.brackets with
      | b :: _ => .error ⟨b.unclosed, false, b⟩
      | [] =>
        let closed := List.replicate (c.indents.length - 1) Lexeme.dedent
        return ((closed ++ [Lexeme.textEnd]).map (⟨·, c.line, 0, none⟩), none)
    | '\n' :: rest =>
      let tokens := if c.brackets.isEmpty then (c.emit .lineEnd rest).1 else []
      return (tokens, some { c with rest, line := c.line + 1, isFresh := true })
    | '\\' :: r => return ([], some (← c.continued r))
    | '#' :: r => return ([], some { c with rest := r.dropWhile (· ≠ '\n') })
    | d :: r =>
      if d = ' ' || d = '\t' || d = '\x0c' then return ([], some { c with rest := r })
      else if let some (isRaw, quote, isLong, rest) := Quotation.start? c.rest then
        go (← c.quoted isRaw quote isLong rest)
      else if d.isDigit || (d = '.' && r.head?.any Char.isDigit) then
        match Numeral.read c.rest with
        | .ok (n, rest) =>
          let (ts, next) := c.emit (.number n) rest
          go (ts.map fun t => { t with notice := Numeral.notice? c.rest rest }, next)
        | .error complaint => c.refuse complaint
      else if isNameStart d then
        match readName (d :: r.takeWhile isNameChar) with
        | .ok lexeme => go (c.emit lexeme (r.dropWhile isNameChar))
        | .error complaint => c.refuse complaint
      else if "()[]\x7b\x7d".toList.contains d then go (← c.bracket d r)
      else if !isPrintable d then c.refuse (strangeCharacter d)
      else
        let s := signAt d r
        go (c.emit (.sign (String.ofList s)) (r.drop (s.length - 1)))

/-- The tokens from a cursor on, after those already found; `fuel` bounds the number of steps. -/
def tokens (found : Array Token) : Nat → Cursor → Tokens
  | 0, _ => ⟨found, none⟩
  | fuel + 1, c =>
    match c.step with
    | .error b => ⟨found, some b⟩
    | .ok (ts, none) => ⟨found ++ ts, none⟩
    | .ok (ts, some next) => tokens (found ++ ts) fuel next

end Cursor

/-- The tokens of the text of a script, each line of which is taken to have an end. -/
def Tokens.ofText (source : String) : Tokens :=
  let cs := unifyLineEnds source.toList
  let cs := if cs.isEmpty || cs.getLast? = some '\n' then cs else cs ++ ['\n']
  Cursor.tokens #[] (2 * cs.length + 2) (.start cs)

end Script

end DocFilter
