import DocFilter.Script.Operation

/-!
# Checks before a script runs

What is refused before the first statement runs, and what the script is warned of. A warning is
written to the stream of errors. It is given for literals that are used as they cannot be used.
-/

namespace DocFilter

namespace Script

def sourceName : String := "<python-exec>"

def refuseAt {α : Type} (complaint : String) (line : Nat) : Step α :=
  let place : List Value := [.str sourceName, .int line]
  throw ⟨"SyntaxError", [.str complaint, .tuple place], .str complaint :: place⟩

def warningText (name : String) (line : Nat) (complaint : String) : String :=
  s!"{name}:{line}: SyntaxWarning: {complaint}\n"

def warn (complaint : String) (line : Nat) : Step Unit :=
  Step.emit true (warningText sourceName line complaint)

/-- What a step gives, if it needs neither names nor lists and raises nothing. -/
def Step.value? (s : Step Value) : Option Value :=
  match s.run.run ⟨.empty, "", ""⟩ with
  | (.ok v, _) => some v
  | (.error _, _) => none

mutual

/-- The value of an expression that consists of literals only, and has one. -/
def Expression.constant? : Expression → Option Value
  | .mk _ form => form.constant?

def Form.constant? : Form → Option Value
  | .none => some .null
  | .bool b => some (.bool b)
  | .dots => some .dots
  | .whole n => some (.int n)
  | .decimal ds e => some (.data (.float (Binary64.ofDecimal false ds e)))
  | .text s => some (.str s)
  | .name "__debug__" => some (.bool true)
  | .tuple items => (constants? items).map .tuple
  | .signed op e => (e.constant?).bind fun v => ((operateSign op v).toOption).map .data
  | .not e => (e.constant?).map fun v => .bool (!isTruthy .empty v)
  | .binary op left right => do
    let a ← left.constant?
    let b ← right.constant?
    Step.value? (operate op op.sign a b)
  | .index e i => do
    let v ← e.constant?
    let i ← i.constant?
    (itemAt .empty v i).toOption
  | _ => none

def constants? : List Expression → Option (List Value)
  | [] => some []
  | e :: es => do return (← e.constant?) :: (← constants? es)

end

/-- The name of the class that the value of an expression is bound to have. -/
def Expression.knownType? (e : Expression) : Option String :=
  match e.constant?, e.form with
  | some v, _ => some v.typeName
  | none, .tuple _ => some "tuple"
  | none, .list _ => some "list"
  | none, _ => none

def warnOfCall (e : Expression) (line : Nat) : Step Unit :=
  match e.knownType? with
  | some t => warn s!"'{t}' object is not callable; perhaps you missed a comma?" line
  | none => pure ()

/-- Warns of a position in a literal that has none, or that is no number. -/
def warnOfIndex (e i : Expression) (line : Nat) : Step Unit := do
  let rows := ["str", "tuple", "list"]
  match e.knownType?, i.knownType? with
  | some t, some u =>
    if !rows.contains t then
      warn s!"'{t}' object is not subscriptable; perhaps you missed a comma?" line
    else if !(["int", "bool"].contains u) then
      warn s!"{t} indices must be integers or slices, not {u}; perhaps you missed a comma?" line
  | some t, none =>
    if !rows.contains t then
      warn s!"'{t}' object is not subscriptable; perhaps you missed a comma?" line
  | none, _ => pure ()

/-- Whether identity with the value of an expression can be meant: it is no literal, or one of which
there is only one. -/
def Expression.isDistinct (e : Expression) : Bool :=
  match e.constant? with
  | none => true
  | some (.data .null) | some (.data (.bool _)) | some .dots => true
  | some _ => false

/-- Warns of the first test for identity with a literal among comparisons. -/
def warnOfIdentity (first : Expression) (line : Nat) : List (Comparison × Expression) → Step Unit
  | [] => pure ()
  | (c, e) :: rest =>
    if first.isDistinct && e.isDistinct then warnOfIdentity e line rest
    else match c with
      | .identical => warn "\"is\" with a literal. Did you mean \"==\"?" line
      | .notIdentical => warn "\"is not\" with a literal. Did you mean \"!=\"?" line
      | _ => warnOfIdentity e line rest

def checkGiven (name : String) (line : Nat) : Step Unit := do
  if name = "__debug__" then refuseAt "cannot assign to __debug__" line

/-- Refuses keywords that stand for nothing, or twice. -/
def checkKeywords (line : Nat) : List (Option String × Expression) → Step Unit
  | [] => pure ()
  | (none, _) :: rest => checkKeywords line rest
  | (some keyword, _) :: rest => do
    checkGiven keyword line
    match rest.find? (·.1 == some keyword) with
    | some (_, e) => refuseAt s!"keyword argument repeated: {keyword}" e.line
    | none => checkKeywords line rest

/-- Refuses a name that is spelled like a constant once it is plain. -/
def checkName (name : String) : Step Unit := do
  if ["None", "True", "False"].contains name then
    throw (valueFault s!"identifier field can't represent '{name}' constant")

mutual

def Expression.check : Expression → Step Unit
  | .mk line form => form.check line

def Form.check (line : Nat) : Form → Step Unit
  | .none | .bool _ | .dots | .whole _ | .decimal .. | .text _ => pure ()
  | .name s => checkName s
  | .list items | .tuple items => checkItems items
  | .spread _ => refuseAt "can't use starred expression here" line
  | .member e _ => e.check
  | .index e i => do
    if (Form.index e i).constant?.isNone then
      warnOfIndex e i line
      e.check
      i.check
  | .call e arguments keywords => do
    checkKeywords line keywords
    warnOfCall e line
    e.check
    checkItems arguments
    checkValues keywords
  | .signed _ e | .not e => e.check
  | .binary _ left right | .both left right | .either left right => do
    left.check
    right.check
  | .compare first rest => do
    warnOfIdentity first line rest
    first.check
    checkCompared rest
  | .choose condition yes no => do
    condition.check
    yes.check
    no.check
  | .naming name e => do
    checkName name
    e.check
    checkGiven name line

def checkItems : List Expression → Step Unit
  | [] => pure ()
  | .mk _ (.spread e) :: es => do
    e.check
    checkItems es
  | e :: es => do
    e.check
    checkItems es

def checkValues : List (Option String × Expression) → Step Unit
  | [] => pure ()
  | (_, e) :: rest => do
    e.check
    checkValues rest

def checkCompared : List (Comparison × Expression) → Step Unit
  | [] => pure ()
  | (_, e) :: rest => do
    e.check
    checkCompared rest

end

namespace Target

def isRest : Target → Bool
  | .rest .. => true
  | _ => false

mutual

/-- Checks a target. Among several only one can take as many items as are left. -/
def check : Target → Step Unit
  | .name line s => do
    checkName s
    checkGiven s line
  | .member line e part => do
    e.check
    checkGiven part line
  | .index e i => do
    e.check
    i.check
  | .several line targets => do
    if 1 < (targets.filter isRest).length then
      refuseAt "multiple starred expressions in assignment" line
    checkEach targets
  | .rest line _ => refuseAt "starred assignment target must be in a list or tuple" line

def checkEach : List Target → Step Unit
  | [] => pure ()
  | .rest _ t :: ts => do
    t.check
    checkEach ts
  | t :: ts => do
    t.check
    checkEach ts

end

def checkDeleted : Target → Step Unit
  | .name line s => do
    checkName s
    if s = "__debug__" then refuseAt "cannot delete __debug__" line
  | .member _ e _ => e.check
  | .index e i => do
    e.check
    i.check
  | .several _ targets => checkEachDeleted targets
  | .rest _ t => t.checkDeleted
where
  checkEachDeleted : List Target → Step Unit
    | [] => pure ()
    | t :: ts => do
      t.checkDeleted
      checkEachDeleted ts

end Target

def Loading.name (l : Loading) : String := l.given.getD ((l.parts.head?).getD "")

/-- The refusal of a word that leaves what contains it, where nothing does. -/
def strayWord : String → String
  | "return" => "'return' outside function"
  | "break" => "'break' outside loop"
  | _ => "'continue' not properly in loop"

def Statement.check (s : Statement) : Step Unit := do
  match s.action with
  | .pass => pure ()
  | .evaluate e => e.check
  | .assign targets e => do
    e.check
    targets.forM Target.check
  | .update target _ e => do
    e.check
    target.check
  | .load modules => modules.forM fun l => checkGiven l.name s.line
  | .take _ members => members.forM fun (name, given) => checkGiven (given.getD name) s.line
  | .raise e cause => do
    e.forM Expression.check
    cause.forM Expression.check
  | .assert e message => do
    match e.form with
    | .tuple (_ :: _) => warn "assertion is always true, perhaps remove parentheses?" s.line
    | _ => pure ()
    e.check
    message.forM Expression.check
  | .delete targets => targets.forM Target.checkDeleted
  | .leave word => refuseAt (strayWord word) s.line

end Script

end DocFilter
