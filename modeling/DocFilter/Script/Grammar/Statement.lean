import DocFilter.Script.Grammar.Rules

/-!
# Reading scripts

The rules of statements, and the reading of a whole script. A script that does not match is read
again to tell what is wrong with it. Where nothing more can be told it is only said where the first
reading came to an end. A fault that the characters of the text show is told before all that.
-/

namespace DocFilter

namespace Script

namespace Grammar

section

variable (rules : Rules)

def updating : Reader Operation := do
  match ← Reader.lexeme with
  | .sign s =>
    match Operation.all.find? fun op => op.sign ++ "=" == s with
    | some op => Reader.skip; return op
    | none => Reader.mismatch
  | _ => Reader.mismatch

def givenTargets : Reader Expression := do
  let e ← targets rules
  Reader.sign "="
  return e

/-- Tells that nothing can be assigned to what stands before an equals sign. -/
def explainTarget : Reader Action := do
  Reader.explain do
    let first ← item rules
    Reader.sign ","
    let _ ← Reader.many (items rules)
    Reader.sign ":"
    let _ ← rules .expression
    Reader.refuse (α := Unit) "only single target (not tuple) can be annotated" first.line
  Reader.explain do
    let e ← rules .expression
    Reader.sign ":"
    let _ ← rules .expression
    Reader.refuse (α := Unit) "illegal target for annotation" e.line
  Reader.explain do
    let _ ← Reader.many (givenTargets rules)
    let e ← expressions rules
    Reader.sign "="
    match e.obstacle? true with
    | some found =>
      let what := found.form.description
      Reader.refuse (α := Unit) s!"cannot assign to {what}" found.line
    | none => Reader.mismatch
  Reader.explain do
    let e ← expressions rules
    let _ ← updating
    let _ ← expressions rules
    let what := e.form.description
    Reader.refuse (α := Unit)
      s!"'{what}' is an illegal expression for augmented assignment" e.line
  Reader.mismatch

def plainAssignment : Reader Action := do
  let first ← givenTargets rules
  let rest ← Reader.many (givenTargets rules)
  let e ← expressions rules
  Reader.notAhead (Reader.sign "=")
  return .assign (← (first :: rest).mapM targetOf) e

/-- An assignment or an update. What starts like an update is nothing else. -/
def assignment : Reader Action := do
  if let some found ← Reader.attempt (plainAssignment rules) then return found
  let start : Reader (Expression × Operation) := do
    let e ← soleTarget rules
    return (e, ← updating)
  match ← Reader.attempt start with
  | some (e, op) =>
    let value ← expressions rules
    return .update (← targetOf e) op value
  | none => explainTarget rules

def moduleName : Reader (List String) := do
  let first ← Reader.name
  let rest ← Reader.many do
    Reader.sign "."
    Reader.name
  return first :: rest

def givenName : Reader (Option String) := Reader.attempt do
  Reader.word "as"
  Reader.name

def loading : Reader Action := do
  Reader.word "import"
  let modules ← Reader.separated do
    let parts ← moduleName
    return (⟨parts, ← givenName⟩ : Loading)
  return .load modules

/-- The members that are taken from a module. -/
def takenMembers : Reader (List (String × Option String)) := do
  let members : Reader (List (String × Option String)) := Reader.separated do
    let name ← Reader.name
    return (name, ← givenName)
  let enclosed : Reader (List (String × Option String)) := inParentheses do
    let found ← members
    let _ ← Reader.sign? ","
    return found
  let plain : Reader (List (String × Option String)) := do
    let found ← members
    Reader.notAhead (Reader.sign ",")
    return found
  let explained : Reader (List (String × Option String)) := do
    Reader.explain do
      let _ ← members
      Reader.sign ","
      Reader.exactly .lineEnd
      Reader.refuseHere (α := Unit)
        "trailing comma not allowed without surrounding parentheses"
    Reader.mismatch
  Reader.firstOf [enclosed, plain, explained]

def taking : Reader Action := do
  Reader.word "from"
  let source ← moduleName
  Reader.word "import"
  return .take source (← takenMembers)

def raising : Reader Action := do
  Reader.word "raise"
  let found ← Reader.attempt do
    let e ← rules .expression
    let cause ← Reader.attempt do
      Reader.word "from"
      rules .expression
    return (e, cause)
  return .raise (found.map (·.1)) (found.bind (·.2))

def asserting : Reader Action := do
  Reader.word "assert"
  let e ← rules .expression
  let message ← Reader.attempt do
    Reader.sign ","
    rules .expression
  return .assert e message

def deleting : Reader Action := do
  let plain : Reader Action := do
    Reader.word "del"
    let es ← targetItems rules .deletable
    Reader.ahead (Reader.firstOf [Reader.sign ";", Reader.exactly .lineEnd])
    return .delete (← es.mapM targetOf)
  let explained : Reader Action := do
    Reader.explain do
      Reader.word "del"
      let e ← expressions rules
      match e.obstacle? false with
      | some found =>
        let what := found.form.description
        Reader.refuse (α := Unit) s!"cannot delete {what}" found.line
      | none => Reader.mismatch
    Reader.mismatch
  Reader.firstOf [plain, explained]

/-- A word that leaves what contains it. -/
def leaving : Reader Action := do
  let returned : Reader Action := do
    Reader.word "return"
    let _ ← Reader.attempt (expressions rules)
    return .leave "return"
  let alone (w : String) : Reader Action := do
    Reader.word w
    return .leave w
  Reader.firstOf [returned, alone "break", alone "continue"]

def statement : Reader Statement := do
  let line ← Reader.line
  let pass : Reader Action := do
    Reader.word "pass"
    return .pass
  let evaluation : Reader Action := return .evaluate (← expressions rules)
  let action ← Reader.firstOf
    [assignment rules, evaluation, loading, taking, raising rules, pass, deleting rules,
      asserting rules, leaving rules]
  return ⟨line, action⟩

/-- The statements of a line, with semicolons between them. -/
def statementLine : Reader (List Statement) := do
  let first ← statement rules
  let rest ← Reader.many do
    Reader.sign ";"
    statement rules
  let _ ← Reader.sign? ";"
  Reader.exactly .lineEnd
  return first :: rest

def script : Reader (List Statement) := do
  let lines ← Reader.many (statementLine rules)
  Reader.exactly .textEnd
  return lines.flatten

end

end Grammar

/-- A fault after all tokens have been looked at: one that the characters show comes first, and so
does a bracket that stands open on an earlier line where the tokens end early. -/
def Scan.settle (s : Scan) (fault : ReadFault) : ReadFault :=
  match s.tokens.broken with
  | none => fault
  | some b =>
    if s.tokens.tokens.size < s.seen then fault
    else if b.isPlain then b.fault
    else match b.innermost with
      | some bracket => if bracket.2 < s.lastLine then bracket.unclosed else fault
      | none => fault

/-- What is wrong with a text that goes no further than a change of indentation. -/
def indentFault? : Lexeme → Option String
  | .indent => some "unexpected indent"
  | .dedent => some "unexpected unindent"
  | _ => none

/-- What comes of reading a script: what is noticed about the way it is written, each with its line,
and the statements, or why there are none. -/
structure Reading where
  notices : List (Nat × String)
  result : Except ReadFault (List Statement)

def noticesOf (tokens : Array Token) : List (Nat × String) :=
  tokens.toList.filterMap fun t => t.notice.map (t.line, ·)

/-- Reads a script. All of it is looked at, unless it is ill indented. -/
def Reading.ofText (source : String) : Reading :=
  let tokens := Tokens.ofText source
  let notices := noticesOf tokens.tokens
  let rules := Grammar.rulesTo (16 * tokens.tokens.size + 32)
  match Grammar.script rules (Scan.start tokens) with
  | (.ok statements, _) => ⟨notices, .ok statements⟩
  | (.error (.refused fault), s) => ⟨notices, .error (s.settle fault)⟩
  | (.error .mismatch, s) =>
    match Grammar.script rules s.again with
    | (.error (.refused fault), s') => ⟨notices, .error (s'.settle fault)⟩
    | (_, s') =>
      match (tokens.tokens[s.seen - 1]?).bind fun t => indentFault? t.lexeme with
      | some complaint =>
        ⟨noticesOf (tokens.tokens.extract 0 s'.seen),
          .error ⟨"IndentationError", complaint, s'.lastLine⟩⟩
      | none => ⟨notices, .error (s'.settle ⟨"SyntaxError", "invalid syntax", s.lastLine⟩)⟩

end Script

end DocFilter
