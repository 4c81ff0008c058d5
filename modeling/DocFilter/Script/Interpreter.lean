import DocFilter.Filter
import DocFilter.Text.Blank

/-!
# Interpreters

What becomes of code blocks of class `python-exec`, whatever interpreter runs the scripts in them.
A script is run and its block replaced by one that shows its source and its outcome. A script runs
on a namespace, which outlives it, and writes to two streams; it reaches nothing else. A step of it
may raise an exception; what was done before the exception stays done. The blocks of a pass share
one namespace, which starts afresh with every pass.
-/

namespace DocFilter

namespace Script

/-- A script under way: its namespace, and what it has written to its two streams. -/
structure Machine (σ : Type) where
  space : σ
  output : String
  error : String

/-- An exception as it is shown: its class and its text. -/
structure Ending where
  kind : String
  text : String

/-- What a script gave: its result, what it wrote, and the exception that ended it, if one did. -/
structure Outcome where
  result : String
  output : String
  error : String
  exception : Option Ending

/-- An outcome as it is shown: what was printed, then the result or the exception, then what a
script that succeeded wrote to its error stream. -/
def Outcome.text (o : Outcome) : String :=
  let printed := if isAllBlank o.output then [] else ["Output:\n" ++ o.output]
  let result := match o.exception with
    | none => ["Result:\n" ++ o.result]
    | some r => ["ERROR: " ++ r.kind ++ ": " ++ r.text]
  let warnings :=
    if o.exception.isSome || isAllBlank o.error then [] else ["Warnings:\n" ++ o.error]
  joinWith "\n\n" (printed ++ result ++ warnings)

def noResult : String := "None"

/-- An interpreter: how it reads a script, how it compiles and runs the parts of one, and how it
shows values and exceptions. Reading and compiling depend on the text alone; what they warn of comes
first in their answer. A statement that is an expression can be evaluated in place of being run. -/
structure Interpreter where
  Space : Type
  Statement : Type
  Expression : Type
  Value : Type
  Raised : Type
  empty : Space
  fresh : Space
  read : String → String × Except Ending (List Statement)
  expression? : Statement → Option Expression
  compile : List Statement → String × Except Raised Unit
  compileExpression : Expression → String × Except Raised Unit
  run : Statement → ExceptT Raised (StateM (Machine Space)) Unit
  evaluate : Expression → ExceptT Raised (StateM (Machine Space)) Value
  shown : Space → Value → String
  ending : Space → Raised → Ending
  isContained : Raised → Bool

def logName : String := "docweave.filters.python_exec"

def outcomeNode (b : CodeBlock) (o : Outcome) : Json :=
  CodeBlock.toNode
    ⟨"# Original code:\n" ++ b.text ++ "\n\n# Execution result:\n" ++ o.text, b.attr⟩

def raisedNote (e : Ending) : Log.Record :=
  let kind := e.kind
  let text := e.text
  ⟨.info, logName, s!"python-exec block raised {kind}: {text}", none⟩

namespace Interpreter

/-- A step of a script, which may raise an exception. -/
abbrev Step (I : Interpreter) := ExceptT I.Raised (StateM (Machine I.Space))

variable (I : Interpreter)

/-- The statements of a script before its trailing expression, and that expression, if its last
statement is one. -/
def split (statements : List I.Statement) : List I.Statement × Option I.Expression :=
  match statements.getLast?.bind I.expression? with
  | some e => (statements.dropLast, some e)
  | none => (statements, none)

/-- What was compiled may be run, unless that was refused. -/
def compiled (answer : String × Except I.Raised Unit) : I.Step Unit := do
  modify fun m => { m with error := m.error ++ answer.1 }
  MonadExcept.ofExcept answer.2

/-- The text of the value of a trailing expression, if there is one. It is compiled only now. -/
def finish : Option I.Expression → I.Step String
  | none => pure noResult
  | some e => do
    I.compiled (I.compileExpression e)
    let v ← I.evaluate e
    return I.shown (← get).space v

/-- Runs statements in order up to the first that raises an exception, and then evaluates the
trailing expression. -/
def runScript (body : List I.Statement) (trailing : Option I.Expression) : I.Step String := do
  I.compiled (I.compile body)
  body.forM I.run
  I.finish trailing

/-- What a script gave that an exception has ended, unless nothing contains the exception. -/
def raised (m : Machine I.Space) (r : I.Raised) : Except Ending Outcome :=
  let ending := I.ending m.space r
  if I.isContained r then .ok ⟨noResult, m.output, m.error, some ending⟩ else .error ending

/-- Runs the text of a script in a namespace. The first part of the answer is the outcome, or the
exception that nothing contains; the second is the namespace afterwards. -/
def execute (source : String) (space : I.Space) : Except Ending Outcome × I.Space :=
  let (warnings, result) := I.read source
  match result with
  | .error ending => (.ok ⟨noResult, "", warnings, some ending⟩, space)
  | .ok statements =>
    let (body, trailing) := I.split statements
    match (I.runScript body trailing).run ⟨space, "", warnings⟩ with
    | (.ok text, m) => (.ok ⟨text, m.output, m.error, none⟩, m.space)
    | (.error r, m) => (I.raised m r, m.space)

def replacement (b : CodeBlock) : Act I.Space Json := do
  let (result, space) := I.execute b.text (← Act.getState)
  Act.setState space
  match result with
  | .error e => throw (.interrupted e.kind e.text)
  | .ok outcome =>
    if let some e := outcome.exception then (Run.record (raisedNote e) : Run Unit)
    return outcomeNode b outcome

def blockFilter : BlockFilter I.Space where
  name := "python-exec"
  classes := ["python-exec", "py-exec"]
  rewrite := I.replacement

/-- A pass over a document, whatever the namespace held before; it is left empty. -/
def pass (doc : Json) : Act I.Space Json := do
  Act.setState I.fresh
  let result ← (I.blockFilter.sweep doc).attempt
  Act.setState I.empty
  MonadExcept.ofExcept result

end Interpreter

end Script

end DocFilter
