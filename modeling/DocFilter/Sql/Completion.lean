/-!
# Complete SQL statements

An automaton that reads SQL text one character at a time and knows whether what it has read is a
complete statement. Quoted text, bracketed names and comments are single tokens, and the body of a
trigger is complete only after `; END ;`.
-/

namespace DocFilter

namespace Sql

/-- The kinds of token that completeness depends on. -/
inductive TokenClass where
  | semi
  | space
  | other
  | explain
  | create
  | temp
  | trigger
  | finish
deriving DecidableEq

/-- How far the text has come in a statement. -/
inductive Phase where
  | invalid
  | start
  | normal
  | explain
  | create
  | trigger
  | semi
  | finish
deriving DecidableEq

/-- The phase after one more token. -/
def Phase.next : Phase → TokenClass → Phase
  | .trigger, .semi | .semi, .semi => .semi
  | .trigger, _ => .trigger
  | .semi, .space => .semi
  | .semi, .finish => .finish
  | .semi, _ => .trigger
  | .finish, .semi => .start
  | .finish, .space => .finish
  | .finish, _ => .trigger
  | _, .semi => .start
  | .start, .space => .start
  | .invalid, .space => .invalid
  | .normal, .space => .normal
  | .explain, .space | .explain, .other => .explain
  | .create, .space | .create, .temp => .create
  | .create, .trigger => .trigger
  | .invalid, .explain | .start, .explain => .explain
  | .invalid, .create | .start, .create | .explain, .create => .create
  | _, _ => .normal

/-- Where the automaton stands inside the text: between tokens, after a character that may start a
comment, inside a comment, a bracketed name or a quoted text, or inside a word, whose letters are
kept newest first. -/
inductive Mode where
  | plain
  | slash
  | dash
  | block
  | blockStar
  | line
  | bracket
  | quote (q : Char)
  | word (letters : List Char)
deriving DecidableEq

/-- A state of the automaton. -/
structure Scan where
  phase : Phase
  mode : Mode
deriving DecidableEq

def Scan.initial : Scan := ⟨.invalid, .plain⟩

def isWordChar (c : Char) : Bool := c.isAlphanum || c = '_' || c = '$' || 0x80 ≤ c.toNat

/-- The class of a word, given newest letter first. -/
def classOfWord (letters : List Char) : TokenClass :=
  match String.ofList (letters.reverse.map Char.toLower) with
  | "explain" => .explain
  | "create" => .create
  | "temp" | "temporary" => .temp
  | "trigger" => .trigger
  | "end" => .finish
  | _ => .other

/-- One character between tokens. -/
def Scan.begin (phase : Phase) (c : Char) : Scan :=
  if c = ';' then ⟨phase.next .semi, .plain⟩
  else if c = ' ' || c = '\r' || c = '\t' || c = '\n' || c = '\x0c' then ⟨phase.next .space, .plain⟩
  else if c = '/' then ⟨phase, .slash⟩
  else if c = '-' then ⟨phase, .dash⟩
  else if c = '[' then ⟨phase, .bracket⟩
  else if c = '\x60' || c = '"' || c = '\x27' then ⟨phase, .quote c⟩
  else if isWordChar c then ⟨phase, .word [c]⟩
  else ⟨phase.next .other, .plain⟩

def Scan.feed (s : Scan) (c : Char) : Scan :=
  match s.mode with
  | .plain => .begin s.phase c
  | .slash => if c = '*' then ⟨s.phase, .block⟩ else .begin (s.phase.next .other) c
  | .dash => if c = '-' then ⟨s.phase, .line⟩ else .begin (s.phase.next .other) c
  | .block => if c = '*' then ⟨s.phase, .blockStar⟩ else ⟨s.phase, .block⟩
  | .blockStar =>
    if c = '/' then ⟨s.phase.next .space, .plain⟩
    else if c = '*' then s else ⟨s.phase, .block⟩
  | .line => if c = '\n' then ⟨s.phase.next .space, .plain⟩ else s
  | .bracket => if c = ']' then ⟨s.phase.next .other, .plain⟩ else s
  | .quote q => if c = q then ⟨s.phase.next .other, .plain⟩ else s
  | .word letters =>
    if isWordChar c then ⟨s.phase, .word (c :: letters)⟩
    else .begin (s.phase.next (classOfWord letters)) c

def Scan.isComplete (s : Scan) : Bool :=
  match s.mode with
  | .plain | .line => s.phase == .start
  | _ => false

/-- Whether a text is a complete statement, or several. -/
def isComplete (cs : List Char) : Bool := (cs.foldl Scan.feed .initial).isComplete

end Sql

end DocFilter
