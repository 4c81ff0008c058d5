import DocFilter.Script.Grammar.Target

/-!
# Rules of expressions

The rules that refer to each other, each in terms of the others, and all of them together.
-/

namespace DocFilter

namespace Script

namespace Grammar

section

variable (rules : Rules)

/-- Operands with one word between each two, the last two taken together first. -/
def joined (word : String) (join : Expression → Expression → Form) (operand : Reader Expression) :
    Reader Expression := do
  let first ← operand
  let rest ← Reader.many do
    Reader.word word
    operand
  return fold first rest
where
  fold (e : Expression) : List Expression → Expression
    | [] => e
    | next :: rest => ⟨e.line, join e (fold next rest)⟩

/-- A comparison that comes next, with what is compared. -/
def comparison : Reader (Comparison × Expression) := do
  let found (c : Comparison) (start : Reader Unit) : Reader (Comparison × Expression) := do
    start
    return (c, ← compared rules)
  let words (first second : String) : Reader Unit := do
    Reader.word first
    Reader.word second
  Reader.firstOf
    [found .equal (Reader.sign "=="), found .notEqual (Reader.sign "!="),
      found .lessOrEqual (Reader.sign "<="), found .less (Reader.sign "<"),
      found .greaterOrEqual (Reader.sign ">="), found .greater (Reader.sign ">"),
      found .notInside (words "not" "in"), found .inside (Reader.word "in"),
      found .notIdentical (words "is" "not"), found .identical (Reader.word "is")]

/-- A comparison, or the negation of one. -/
def negation : Reader Expression := do
  let line ← Reader.line
  let negated : Reader Expression := do
    Reader.word "not"
    return ⟨line, .not (← rules .negation)⟩
  let plain : Reader Expression := do
    let first ← compared rules
    match ← Reader.many (comparison rules) with
    | [] => return first
    | rest => return ⟨first.line, .compare first rest⟩
  Reader.firstOf [negated, plain]

/-- One of two expressions, as a condition says. -/
def choice : Reader Expression := do
  let yes ← rules .disjunction
  Reader.word "if"
  let condition ← rules .disjunction
  Reader.word "else"
  return ⟨yes.line, .choose condition yes (← rules .expression)⟩

def spreadable : Reader Expression := do
  let line ← Reader.line
  let many : Reader Expression := do
    Reader.sign "*"
    return ⟨line, .spread (← compared rules)⟩
  Reader.firstOf [many, rules .expression]

/-- An expression, or a tuple without parentheses. -/
def expressions : Reader Expression := do
  let first ← rules .spreadable
  let rest ← Reader.many do
    Reader.sign ","
    rules .spreadable
  let ends ← Reader.sign? ","
  if rest.isEmpty && !ends then return first
  else return ⟨first.line, .tuple (first :: rest)⟩

/-- The functions that once took their arguments without parentheses. -/
def formerStatements : List String := ["print", "exec"]

def Expression.isFormerStatement (e : Expression) : Bool :=
  match e.form with
  | .name s => formerStatements.contains s
  | _ => false

/-- The words that start statements of their own, though they are names. -/
def softKeywords : List String := ["_", "case", "match"]

/-- A name that is one of those words, or the start of one. -/
def softStart : Reader Unit := do
  match ← Reader.lexeme with
  | .word w =>
    if softKeywords.any fun keyword => w.toList.isPrefixOf keyword.toList then Reader.skip
    else Reader.mismatch
  | _ => Reader.mismatch

/-- Tells that two expressions in brackets have nothing between them. -/
def explainGap : Reader Unit := do
  let named : Reader Unit := do
    let _ ← Reader.name
    match ← Reader.lexeme with
    | .text _ => return
    | _ => Reader.mismatch
  Reader.notAhead (Reader.firstOf [named, softStart])
  let first ← rules .disjunction
  let _ ← Reader.quietly (Reader.firstOf [choice rules, rules .disjunction])
  let s ← get
  let depth := ((s.tokens.tokens[s.place - 1]?).map (·.depth)).getD 0
  if depth = 0 || Expression.isFormerStatement first then Reader.mismatch
  Reader.refuse "invalid syntax. Perhaps you forgot a comma?" first.line

def explainCondition : Reader Unit := do
  let first ← rules .disjunction
  Reader.word "if"
  let _ ← rules .disjunction
  Reader.notAhead (Reader.firstOf [Reader.word "else", Reader.sign ":"])
  Reader.refuse "expected 'else' after 'if' expression" first.line

def explainFormerStatement : Reader Unit := do
  let line ← Reader.line
  let name ← Reader.name
  Reader.notAhead (Reader.sign "(")
  let _ ← expressions rules
  if !formerStatements.contains name then Reader.mismatch
  Reader.refuse s!"Missing parentheses in call to '{name}'. Did you mean {name}(...)?" line

def expression : Reader Expression := do
  Reader.explain (explainGap rules)
  Reader.explain (explainCondition rules)
  Reader.explain (explainFormerStatement rules)
  Reader.firstOf [choice rules, rules .disjunction]

/-- Tells that something is assigned to inside an expression. -/
def explainAssignment : Reader Expression := do
  let noMore : Reader Unit :=
    Reader.notAhead (Reader.firstOf [Reader.sign "=", Reader.sign ":="])
  Reader.explain do
    let e ← rules .expression
    Reader.sign ":="
    let _ ← rules .expression
    let what := e.form.description
    Reader.refuse (α := Unit) s!"cannot use assignment expressions with {what}" e.line
  Reader.explain do
    let line ← Reader.line
    let _ ← Reader.name
    Reader.sign "="
    let _ ← compared rules
    noMore
    Reader.refuse (α := Unit)
      "invalid syntax. Maybe you meant '==' or ':=' instead of '='?" line
  Reader.explain do
    let isDisplay : List (Reader Unit) :=
      [do let _ ← list rules, do let _ ← tuple rules] ++
        ["True", "None", "False"].map Reader.word
    Reader.notAhead (Reader.firstOf isDisplay)
    let e ← compared rules
    Reader.sign "="
    let _ ← compared rules
    noMore
    let what := e.form.description
    Reader.refuse (α := Unit)
      s!"cannot assign to {what} here. Maybe you meant '==' instead of '='?" e.line
  Reader.mismatch

/-- What each rule describes, in terms of the others. -/
def describe : Rule → Reader Expression
  | .expression => expression rules
  | .spreadable => spreadable rules
  | .disjunction => joined "or" .either (rules .conjunction)
  | .conjunction => joined "and" .both (rules .negation)
  | .negation => negation rules
  | .factor => factor rules
  | .primary => primary rules
  | .owner => owner rules
  | .target => target rules
  | .plainTarget => plainTarget rules
  | .soleTarget => soleTarget rules
  | .deletable => deletable rules
  | .misplaced => explainAssignment rules

end

/-- The rules all together; `fuel` bounds how deep they refer to each other. -/
def rulesTo : Nat → Rules
  | 0 => fun _ => Reader.mismatch
  | fuel + 1 => fun rule => Reader.remembered rule (describe (rulesTo fuel) rule)

end Grammar

end Script

end DocFilter
