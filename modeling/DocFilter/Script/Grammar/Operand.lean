import DocFilter.Script.Reader

/-!
# Operands

The parts of expressions that operations go between: names, literals, displays, calls, and what can
be asked of them. Every rule here is given those that it refers to.
-/

namespace DocFilter

namespace Script

namespace Grammar

abbrev Rules := Rule → Reader Expression

variable (rules : Rules)

def spread : Reader Expression := do
  let line ← Reader.line
  Reader.sign "*"
  return ⟨line, .spread (← rules .expression)⟩

/-- The signs of the operations of each rank, those that bind closest last. -/
def ranks : List (List Operation) :=
  [[.bitOr], [.bitXor], [.bitAnd], [.shiftLeft, .shiftRight], [.add, .subtract],
    [.multiply, .divide, .floorDivide, .remainder, .matrixMultiply]]

def operation (ops : List Operation) : Reader Operation := do
  match ← Reader.lexeme with
  | .sign s =>
    match ops.find? (·.sign == s) with
    | some op => Reader.skip; return op
    | none => Reader.mismatch
  | _ => Reader.mismatch

/-- Operands with operations of one rank between them, taken from left to right. -/
def chain (ops : List Operation) (operand : Reader Expression) : Reader Expression := do
  let first ← operand
  let rest ← Reader.many do
    let op ← operation ops
    return (op, ← operand)
  return rest.foldl (fun e (op, right) => ⟨first.line, .binary op e right⟩) first

def ranked (operand : Reader Expression) : List (List Operation) → Reader Expression
  | [] => operand
  | ops :: closer => chain ops (ranked operand closer)

def compared : Reader Expression := ranked (rules .factor) ranks

/-- A factor: a primary expression, perhaps with an exponent, which may have signs before it. -/
def factor : Reader Expression := do
  let line ← Reader.line
  let turned (s : String) (op : SignOperation) : Reader Expression := do
    Reader.sign s
    return ⟨line, .signed op (← rules .factor)⟩
  let power : Reader Expression := do
    let base ← rules .primary
    let exponent ← Reader.attempt do
      Reader.sign "**"
      rules .factor
    match exponent with
    | some e => return ⟨base.line, .binary .power base e⟩
    | none => return base
  Reader.firstOf [turned "+" .keep, turned "-" .turn, turned "~" .turnBits, power]

def naming : Reader Expression := do
  let line ← Reader.line
  let name ← Reader.name
  Reader.sign ":="
  return ⟨line, .naming name (← rules .expression)⟩

def unnamed : Reader Expression := do
  let e ← rules .expression
  Reader.notAhead (Reader.sign ":=")
  return e

/-- An expression, or a name that is given its value. -/
def named : Reader Expression :=
  Reader.firstOf [naming rules, rules .misplaced, unnamed rules]

def item : Reader Expression := do
  let line ← Reader.line
  let many : Reader Expression := do
    Reader.sign "*"
    return ⟨line, .spread (← compared rules)⟩
  Reader.firstOf [many, named rules]

/-- The items of a display, perhaps with a comma after them. -/
def items : Reader (List Expression) := do
  let es ← Reader.separated (item rules)
  let _ ← Reader.sign? ","
  return es

def list : Reader Expression := do
  let line ← Reader.line
  Reader.sign "["
  let es ← Reader.attempt (items rules)
  Reader.sign "]"
  return ⟨line, .list (es.getD [])⟩

/-- Tells what is wrong with the expression that stands after a star at the start of a list. -/
def explainListStar : Reader Expression := do
  Reader.explain do
    Reader.sign "["
    spread rules
  Reader.mismatch

def tuple : Reader Expression := do
  let line ← Reader.line
  Reader.sign "("
  let es ← Reader.attempt do
    let first ← item rules
    Reader.sign ","
    return first :: ((← Reader.attempt (items rules)).getD [])
  Reader.sign ")"
  return ⟨line, .tuple (es.getD [])⟩

/-- Tells that parentheses hold an expression with stars before it. -/
def explainStars : Reader Expression := do
  Reader.explain do
    Reader.sign "("
    let e ← spread rules
    Reader.sign ")"
    Reader.refuse (α := Unit) "cannot use starred expression here" e.line
  Reader.explain do
    Reader.sign "("
    let line ← Reader.line
    Reader.sign "**"
    let _ ← rules .expression
    Reader.sign ")"
    Reader.refuse (α := Unit) "cannot use double starred expression here" line
  Reader.mismatch

def group : Reader Expression := do
  let inner : Reader Expression := do
    Reader.sign "("
    let e ← named rules
    Reader.sign ")"
    return e
  Reader.firstOf [inner, explainStars rules]

/-- Texts one after another, which are one text. -/
def texts : Reader String := do
  let qs ← Reader.many do
    match ← Reader.lexeme with
    | .text q => Reader.skip; return q
    | _ => Reader.mismatch
  match qs.mapM Quotation.value with
  | .ok ts => return String.join ts
  | .error complaint => Reader.refuseHere complaint

/-- A name, literal, list or bracketed expression. -/
def atom : Reader Expression := do
  let ⟨lexeme, line, _, _⟩ ← Reader.token
  let literal (form : Form) : Reader Expression := do
    Reader.skip
    return ⟨line, form⟩
  match lexeme with
  | .number (.whole n) => literal (.whole n)
  | .number (.decimal digits exponent) => literal (.decimal digits exponent)
  | .text _ => return ⟨line, .text (← texts)⟩
  | .word "None" => literal .none
  | .word "True" => literal (.bool true)
  | .word "False" => literal (.bool false)
  | .sign "..." => literal .dots
  | .sign "(" => Reader.firstOf [tuple rules, group rules]
  | .sign "[" => Reader.firstOf [list rules, explainListStar rules]
  | _ => return ⟨line, .name (← Reader.name)⟩

/-- An argument of a call: an expression alone, or one with a keyword before it, or with the two
stars that stand for many keywords. -/
inductive Argument where
  | plain (e : Expression)
  | keyed (keyword : Option String) (e : Expression)

structure Arguments where
  plain : List Expression
  keywords : List (Option String × Expression)

/-- Arguments apart from each other, those without keyword first. -/
def Arguments.ofList (arguments : List Argument) : Arguments where
  plain := arguments.filterMap fun
    | .plain e => some e
    | .keyed .. => none
  keywords := arguments.filterMap fun
    | .plain _ => none
    | .keyed keyword e => some (keyword, e)

/-- Tells that what stands before an equals sign is no keyword. -/
def explainKeyword : Reader Argument := do
  let line ← Reader.line
  Reader.explain do
    match ← Reader.lexeme with
    | .word w =>
      if !(["True", "False", "None"].contains w) then Reader.mismatch
      Reader.skip
      Reader.sign "="
      Reader.refuse (α := Unit) s!"cannot assign to {w}" line
    | _ => Reader.mismatch
  Reader.explain do
    Reader.notAhead do
      let _ ← Reader.name
      Reader.sign "="
    let e ← rules .expression
    Reader.sign "="
    Reader.refuse (α := Unit)
      "expression cannot contain assignment, perhaps you meant \"==\"?" e.line
  Reader.mismatch

def plainArgument : Reader Argument := do
  let one : Reader Expression := do
    let e ← Reader.firstOf [naming rules, unnamed rules]
    Reader.notAhead (Reader.sign "=")
    return e
  return .plain (← Reader.firstOf [spread rules, one])

def keyedArgument : Reader Argument := do
  let keyword ← Reader.name
  Reader.sign "="
  return .keyed keyword (← rules .expression)

/-- Arguments of which the first has a keyword. -/
def keyedArguments : Reader (List Argument) := do
  let spreadArgument : Reader Argument := return .plain (← spread rules)
  let mapping : Reader Argument := do
    Reader.sign "**"
    return .keyed none (← rules .expression)
  let early := Reader.separated <|
    Reader.firstOf [explainKeyword rules, keyedArgument rules, spreadArgument]
  let late := Reader.separated <|
    Reader.firstOf [explainKeyword rules, keyedArgument rules, mapping]
  let both : Reader (List Argument) := do
    let first ← early
    Reader.sign ","
    return first ++ (← late)
  Reader.firstOf [both, early, late]

def orderedArguments : Reader Arguments := do
  let all : Reader (List Argument) := do
    let plain ← Reader.separated (plainArgument rules)
    let keyed ← Reader.attempt do
      Reader.sign ","
      keyedArguments rules
    return plain ++ keyed.getD []
  return .ofList (← Reader.firstOf [all, keyedArguments rules])

/-- Tells that arguments are in no order that a call may have. -/
def explainArguments : Reader Arguments := do
  let line ← Reader.line
  Reader.explain do
    let _ ← orderedArguments rules
    Reader.sign ","
    Reader.sign "*"
    Reader.refuse (α := Unit)
      "iterable argument unpacking follows keyword argument unpacking" line
  Reader.explain do
    let first ← orderedArguments rules
    Reader.sign ","
    let _ ← orderedArguments rules
    let ending := if first.keywords.any (·.1.isNone) then " unpacking" else ""
    Reader.refuseHere (α := Unit) ("positional argument follows keyword argument" ++ ending)
  Reader.mismatch

def arguments : Reader Arguments := do
  let all : Reader Arguments := do
    let found ← orderedArguments rules
    let _ ← Reader.sign? ","
    Reader.ahead (Reader.sign ")")
    return found
  Reader.firstOf [all, explainArguments rules]

/-- A position in brackets: an expression, or several for a tuple. -/
def position : Reader Expression := do
  let line ← Reader.line
  let one : Reader Expression := do
    let e ← named rules
    Reader.notAhead (Reader.sign ",")
    return e
  let several : Reader Expression := do
    let es ← Reader.separated (Reader.firstOf [named rules, spread rules])
    let _ ← Reader.sign? ","
    return ⟨line, .tuple es⟩
  Reader.firstOf [one, several]

def member : Reader (Expression → Form) := do
  Reader.sign "."
  let name ← Reader.name
  return (.member · name)

def indexed : Reader (Expression → Form) := do
  Reader.sign "["
  let i ← position rules
  Reader.sign "]"
  return (.index · i)

def called : Reader (Expression → Form) := do
  Reader.sign "("
  let found ← Reader.attempt (arguments rules)
  Reader.sign ")"
  let ⟨plain, keywords⟩ := found.getD ⟨[], []⟩
  return (.call · plain keywords)

def part : Reader (Expression → Form) :=
  Reader.firstOf [member, called rules, indexed rules]

def withParts (e : Expression) (parts : List (Expression → Form)) : Expression :=
  parts.foldl (fun e part => ⟨e.line, part e⟩) e

def primary : Reader Expression := do
  let e ← atom rules
  return withParts e (← Reader.many (part rules))

def moreAhead : Reader Unit :=
  Reader.ahead (Reader.firstOf [Reader.sign "(", Reader.sign "[", Reader.sign "."])

/-- An atom with all but the last that is asked of it. -/
def owner : Reader Expression := do
  let e ← atom rules
  moreAhead
  let parts ← Reader.many do
    let found ← part rules
    moreAhead
    return found
  return withParts e parts

end Grammar

end Script

end DocFilter
