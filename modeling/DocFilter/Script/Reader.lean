import DocFilter.Script.Expression
import DocFilter.Script.Token

/-!
# Readers of tokens

A reader finds something in the tokens at its place, or finds that it does not match, or refuses the
text. After a mismatch another reader may be tried from the same place. What the most used rules of
the grammar have found at a place is kept, so that they look at it only once.

A text that does not match is read a second time, now with the rules that tell what is wrong with
it. These never match, but they may refuse.
-/

namespace DocFilter

namespace Script

/-- The rules of the grammar that other rules refer to. All of them find an expression. -/
inductive Rule where
  | expression
  | spreadable
  | disjunction
  | conjunction
  | negation
  | factor
  | primary
  | owner
  | target
  | plainTarget
  | soleTarget
  | deletable
  | misplaced
deriving DecidableEq

/-- What a rule has found at a place, and the place after it. -/
abbrev Finding := Option (Expression × Nat)

/-- Tokens that are being read: the place of the next one, the number of those that have been looked
at, whether the text is read to tell what is wrong with it, and what has been found at each place. -/
structure Scan where
  tokens : Tokens
  place : Nat
  seen : Nat
  isExplaining : Bool
  findings : Array (List (Rule × Finding))

/-- Why a reader finds nothing. -/
inductive Stop where
  | mismatch
  | refused (fault : ReadFault)

abbrev Reader := ExceptT Stop (StateM Scan)

namespace Scan

def start (tokens : Tokens) : Scan :=
  ⟨tokens, 0, 0, false, Array.replicate (tokens.tokens.size + 1) []⟩

/-- The same tokens from the start, to be read in order to tell what is wrong with them. -/
def again (s : Scan) : Scan := { start s.tokens with seen := s.seen, isExplaining := true }

def lastLine (s : Scan) : Nat :=
  match s.tokens.broken with
  | some b => if s.tokens.tokens.size < s.seen then b.fault.line else ofToken
  | none => ofToken
where
  ofToken : Nat := ((s.tokens.tokens[s.seen - 1]?).map (·.line)).getD 1

end Scan

namespace Reader

def mismatch {α : Type} : Reader α := throw .mismatch

def refuse {α : Type} (complaint : String) (line : Nat) : Reader α :=
  throw (.refused ⟨"SyntaxError", complaint, line⟩)

/-- Refuses with the line of the last token that has been looked at. -/
def refuseHere {α : Type} (complaint : String) : Reader α := do
  refuse complaint (← get).lastLine

/-- The token at the place, which is then looked at. -/
def token : Reader Token := do
  let s ← get
  set { s with seen := max s.seen (s.place + 1) }
  match s.tokens.tokens[s.place]?, s.tokens.broken with
  | some t, _ => return t
  | none, some b => throw (.refused b.fault)
  | none, none => mismatch

def lexeme : Reader Lexeme := return (← token).lexeme

def line : Reader Nat := return (← token).line

def skip : Reader Unit := modify fun s => { s with place := s.place + 1 }

/-- What a reader finds, if it matches; else the place stays what it was. -/
def attempt {α : Type} (r : Reader α) : Reader (Option α) := fun s =>
  match r s with
  | (.ok a, s') => (.ok (some a), s')
  | (.error .mismatch, s') => (.ok none, { s' with place := s.place })
  | (.error stop, s') => (.error stop, s')

def firstOf {α : Type} : List (Reader α) → Reader α
  | [] => mismatch
  | r :: rs => do
    match ← attempt r with
    | some a => return a
    | none => firstOf rs

/-- Matches where a reader does, and stays at the place. -/
def ahead {α : Type} (r : Reader α) : Reader Unit := do
  let place := (← get).place
  let _ ← r
  modify fun s => { s with place }

def notAhead {α : Type} (r : Reader α) : Reader Unit := do
  if (← attempt (ahead r)).isSome then mismatch

/-- What a reader finds one time after another, up to its first mismatch; `fuel` bounds their
number. -/
def repeated {α : Type} (r : Reader α) : Nat → Reader (List α)
  | 0 => return []
  | fuel + 1 => do
    match ← attempt r with
    | some a => return a :: (← repeated r fuel)
    | none => return []

/-- What a reader finds one time after another. Each time it must go on by a token. -/
def many {α : Type} (r : Reader α) : Reader (List α) := do
  repeated r (← get).tokens.tokens.size

def exactly (l : Lexeme) : Reader Unit := do
  if (← lexeme) = l then skip else mismatch

def sign (s : String) : Reader Unit := exactly (.sign s)

def word (w : String) : Reader Unit := exactly (.word w)

def sign? (s : String) : Reader Bool := return (← attempt (sign s)).isSome

/-- One or more findings with commas between them. A comma that nothing follows is left. -/
def separated {α : Type} (r : Reader α) : Reader (List α) := do
  let first ← r
  let rest ← many do
    sign ","
    r
  return first :: rest

def keywords : List String :=
  ["False", "None", "True", "and", "as", "assert", "async", "await", "break", "class", "continue",
    "def", "del", "elif", "else", "except", "finally", "for", "from", "global", "if", "import",
    "in", "is", "lambda", "nonlocal", "not", "or", "pass", "raise", "return", "try", "while",
    "with", "yield"]

def name : Reader String := do
  match ← lexeme with
  | .name n => skip; return n
  | .word w =>
    if keywords.contains w then mismatch
    else skip; return w
  | _ => mismatch

/-- Does something only when the text is read to tell what is wrong with it. It must not match. -/
def explain {α : Type} (r : Reader α) : Reader Unit := do
  if (← get).isExplaining then
    let _ ← attempt r

def quietly {α : Type} (r : Reader α) : Reader α := fun s =>
  let (result, s') := r { s with isExplaining := false }
  (result, { s' with isExplaining := s.isExplaining })

/-- What has been found by a rule at the place, if it has been looked for. -/
def finding? (rule : Rule) : Reader (Option Finding) := do
  let s ← get
  return ((s.findings[s.place]?).getD []).lookup rule

def keep (rule : Rule) (place : Nat) (found : Finding) : Reader Unit :=
  modify fun s => { s with findings := s.findings.modify place ((rule, found) :: ·) }

/-- Looks for what a rule describes, unless that has been done at this place before. -/
def remembered (rule : Rule) (r : Reader Expression) : Reader Expression := do
  match ← finding? rule with
  | some (some (e, next)) =>
    modify fun s => { s with place := next }
    return e
  | some none => mismatch
  | none =>
    let place := (← get).place
    match ← attempt r with
    | some e =>
      keep rule place (some (e, (← get).place))
      return e
    | none =>
      keep rule place none
      mismatch

end Reader

end Script

end DocFilter
