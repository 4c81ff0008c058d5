import DocFilter.Decimal.Reading
import DocFilter.Script.Check
import DocFilter.Script.Grammar.Statement

/-!
# Running scripts

A script runs in a namespace, which it changes, and what it prints is kept. The value of a trailing
expression is the result. An exception ends the script and keeps what was done before it.
-/

namespace DocFilter

namespace Script

/-- The functions that are known in every namespace, and the classes of data. -/
def functionNames : List String := ["print", "len", "repr", "abs"]
def dataKinds : List String := ["bool", "int", "float", "str", "list", "tuple", "type"]

/-- The value of a name: from the namespace, or built in. -/
def lookUp (name : String) : Step Value := do
  match ← Step.lookUp? name with
  | some v => return v
  | none =>
    if functionNames.contains name then return .function name
    else if dataKinds.contains name || isExceptionKind (kindOfName name) then
      return .type (kindOfName name)
    else if name = "__name__" then return .str "builtins"
    else if name = "__package__" then return .str ""
    else if name = "__debug__" then return .bool true
    else if name = "Ellipsis" then return .dots
    else throw (raised "NameError" s!"name '{name}' is not defined")

def memberOf (v : Value) (name : String) : Step Value :=
  match v, name with
  | .system, "stderr" => pure (.stream true)
  | .system, "stdout" => pure (.stream false)
  | .system, "exit" => pure (.function "exit")
  | .system, "maxsize" => pure (.int (twoPow 63 - 1))
  | .system, _ => throw (raised "AttributeError" s!"module 'sys' has no attribute '{name}'")
  | .stream isError, "write" => pure (.write isError)
  | .exception _ arguments _, "args" => pure (.tuple arguments)
  | .type kind, "__name__" => pure (.str kind)
  | .type kind, _ =>
    throw (raised "AttributeError" s!"type object '{kind}' has no attribute '{name}'")
  | v, _ =>
    let t := v.typeName
    throw (raised "AttributeError" s!"'{t}' object has no attribute '{name}'")

/-- The text that a keyword of the printing function gives; null is the usual one. -/
def printOption (keywords : List (String × Value)) (name usual : String) : Step String :=
  match (keywords.lookup name).getD .null with
  | .data .null => pure usual
  | .data (.str s) => pure s
  | v =>
    let t := v.typeName
    throw (typeFault s!"{name} must be None or a string, not {t}")

/-- Prints values, with what the keywords say between them and after them. -/
def print (arguments : List Value) (keywords : List (String × Value)) : Step Unit := do
  match keywords.find? fun (k, _) => !(["sep", "end", "file", "flush"].contains k) with
  | some (k, _) => throw (typeFault s!"'{k}' is an invalid keyword argument for print()")
  | none => pure ()
  let separator ← printOption keywords "sep" " "
  let ending ← printOption keywords "end" "\n"
  let st ← Step.store
  let text := joinWith separator (arguments.map st.shown) ++ ending
  match (keywords.lookup "file").getD .null with
  | .data .null => Step.emit false text
  | .stream isError => Step.emit isError text
  | v =>
    let t := v.typeName
    throw (raised "AttributeError" s!"'{t}' object has no attribute 'write'")

def only (what : String) (arguments : List Value) : Step Value :=
  match arguments with
  | [v] => pure v
  | vs =>
    let count := vs.length
    throw (typeFault s!"{what}() takes exactly one argument ({count} given)")

def lengthOf (v : Value) : Step Value := do
  match (← Step.store).items? v with
  | some items => return .int items.length
  | none =>
    let t := v.typeName
    throw (typeFault s!"object of type '{t}' has no len()")

def absoluteOf (v : Value) : Step Value :=
  match Number.ofValue? v with
  | some (.whole n) => return .int n.natAbs
  | some (.floating x) => return .data (.float (if x.isNegative then x.negate else x))
  | none =>
    let t := v.typeName
    throw (typeFault s!"bad operand type for abs(): '{t}'")

def exit (arguments : List Value) : Step Value := do
  match arguments with
  | [] | [.data .null] => throw ⟨"SystemExit", [], []⟩
  | [.exception "SystemExit" arguments details] => throw ⟨"SystemExit", arguments, details⟩
  | [.tuple items] => throw ⟨"SystemExit", items, []⟩
  | [v] => throw ⟨"SystemExit", [v], []⟩
  | vs =>
    let count := vs.length
    throw (typeFault s!"exit expected at most 1 argument, got {count}")

def toWhole (v : Value) : Step Value := do
  match v with
  | .data (.str s) => match wholeNumber? 10 s with
    | some n => return .int n
    | none =>
      let shown := (← Step.store).inside v
      throw (valueFault s!"invalid literal for int() with base 10: {shown}")
  | v => match Number.ofValue? v with
    | some (.whole n) => return .int n
    | some (.floating x) =>
      if x.isNaN then throw (valueFault "cannot convert float NaN to integer")
      else if x.isInfinite then
        throw (raised "OverflowError" "cannot convert float infinity to integer")
      else return .int x.truncate
    | none =>
      let t := v.typeName
      throw (typeFault <| "int() argument must be a string, a bytes-like object or a real number, " ++
        s!"not '{t}'")

def toFloating (v : Value) : Step Value := do
  match v with
  | .data (.str s) => match Decimal.real? s with
    | some x => return .data (.float x)
    | none =>
      let shown := (← Step.store).inside v
      throw (valueFault s!"could not convert string to float: {shown}")
  | v => match Number.ofValue? v with
    | some n => return .data (.float (← MonadExcept.ofExcept n.toFloating))
    | none =>
      let t := v.typeName
      throw (typeFault s!"float() argument must be a string or a real number, not '{t}'")

def itemsOf (v : Value) : Step (List Value) := do
  match (← Step.store).items? v with
  | some items => return items
  | none =>
    let t := v.typeName
    throw (typeFault s!"'{t}' object is not iterable")

/-- A value made by a class from at most one argument. -/
def makeData (kind : String) (arguments : List Value) : Step Value := do
  let st ← Step.store
  match kind, arguments with
  | "bool", [] => return .bool false
  | "bool", [v] => return .bool (isTruthy st v)
  | "int", [] => return .int 0
  | "int", [v] => toWhole v
  | "float", [] => return .data (.float (Binary64.ofInt 0))
  | "float", [v] => toFloating v
  | "str", [] => return .str ""
  | "str", [v] => return .str (st.shown v)
  | "list", [] => Step.newList []
  | "list", [v] => do Step.newList (← itemsOf v)
  | "tuple", [] => return .tuple []
  | "tuple", [v] => return .tuple (← itemsOf v)
  | "type", [v] => return .type v.typeName
  | "type", _ => throw (typeFault "type() takes 1 or 3 arguments")
  | kind, vs =>
    let count := vs.length
    throw (typeFault s!"{kind} expected at most 1 argument, got {count}")

def callOf (f : Value) (arguments : List Value) (keywords : List (String × Value)) : Step Value := do
  let refuseKeywords (what : String) : Step Unit := do
    unless keywords.isEmpty do throw (typeFault s!"{what}() takes no keyword arguments")
  match f with
  | .function "print" => do
    print arguments keywords
    return .null
  | .function "exit" =>
    refuseKeywords "sys.exit"
    exit arguments
  | .function name =>
    refuseKeywords name
    let v ← only name arguments
    if name = "len" then lengthOf v
    else if name = "abs" then absoluteOf v
    else return .str ((← Step.store).inside v)
  | .write isError =>
    refuseKeywords "StringIO.write"
    match ← only "StringIO.write" arguments with
    | .data (.str s) =>
      Step.emit isError s
      return .int s.length
    | v =>
      let t := v.typeName
      throw (typeFault s!"string argument expected, got '{t}'")
  | .type kind =>
    refuseKeywords kind
    if dataKinds.contains kind then makeData kind arguments
    else
      let r ← MonadExcept.ofExcept (Raised.ofKind (← Step.store) kind arguments)
      return r.toValue
  | f =>
    let t := f.typeName
    throw (typeFault s!"'{t}' object is not callable")

def calledText (st : Store) : Value → String
  | .function "exit" => "sys.exit()"
  | .function name | .type name => name ++ "()"
  | .write _ => "StringIO.write()"
  | v => st.shown v

/-- The items of a value that stands for them, or the complaint that it has none. -/
def spreadItems (what : String) (v : Value) : Step (List Value) := do
  match (← Step.store).items? v with
  | some items => return items
  | none =>
    let t := v.typeName
    throw (typeFault s!"{what} after * must be an iterable, not {t}")

/-- Refuses a value that stands for keywords: there are none that could. -/
def refuseKeywords {α : Type} (f v : Value) : Step α := do
  let what := calledText (← Step.store) f
  let t := v.typeName
  throw (typeFault s!"{what} argument after ** must be a mapping, not {t}")

mutual

def Expression.evaluate : Expression → Step Value
  | .mk _ form => form.evaluate

def Form.evaluate : Form → Step Value
  | .none => pure .null
  | .bool b => pure (.bool b)
  | .dots => pure .dots
  | .whole n => pure (.int n)
  | .decimal ds e => pure (.data (.float (Binary64.ofDecimal false ds e)))
  | .text s => pure (.str s)
  | .list items => do Step.newList (← evaluateItems items)
  | .tuple items => do return .tuple (← evaluateItems items)
  | .name n => lookUp n
  | .spread e => e.evaluate
  | .member e name => do memberOf (← e.evaluate) name
  | .index e i => do
    let v ← e.evaluate
    let i ← i.evaluate
    MonadExcept.ofExcept (itemAt (← Step.store) v i)
  | .call e arguments keywords => do
    let f ← e.evaluate
    match arguments with
    | [.mk _ (.spread e)] =>
      let v ← e.evaluate
      let ks ← evaluateKeywords f keywords
      callOf f (← spreadItems (calledText (← Step.store) f ++ " argument") v) ks
    | arguments =>
      let vs ← evaluateItems arguments
      callOf f vs (← evaluateKeywords f keywords)
  | .signed op e => do return .data (← MonadExcept.ofExcept (operateSign op (← e.evaluate)))
  | .binary op left right => do
    let a ← left.evaluate
    let b ← right.evaluate
    operate op (op.complaintSign false) a b
  | .compare first rest => do evaluateComparisons (← first.evaluate) rest
  | .not e => do
    let v ← e.evaluate
    return .bool (!isTruthy (← Step.store) v)
  | .both left right => do
    let v ← left.evaluate
    if isTruthy (← Step.store) v then right.evaluate else return v
  | .either left right => do
    let v ← left.evaluate
    if isTruthy (← Step.store) v then return v else right.evaluate
  | .choose condition yes no => do
    let v ← condition.evaluate
    if isTruthy (← Step.store) v then yes.evaluate else no.evaluate
  | .naming name e => do
    let v ← e.evaluate
    Step.assign name v
    return v

/-- The values of expressions, some of which stand for several. -/
def evaluateItems : List Expression → Step (List Value)
  | [] => pure []
  | .mk _ (.spread e) :: es => do
    let vs ← spreadItems "Value" (← e.evaluate)
    return vs ++ (← evaluateItems es)
  | e :: es => do
    let v ← e.evaluate
    return v :: (← evaluateItems es)

def evaluateKeywords (f : Value) :
    List (Option String × Expression) → Step (List (String × Value))
  | [] => pure []
  | (some name, e) :: rest => do
    let v ← e.evaluate
    return (name, v) :: (← evaluateKeywords f rest)
  | (none, e) :: _ => do refuseKeywords f (← e.evaluate)

/-- Comparisons of neighbours up to the first that does not hold. -/
def evaluateComparisons (a : Value) : List (Comparison × Expression) → Step Value
  | [] => pure (.bool true)
  | (c, e) :: rest => do
    let b ← e.evaluate
    if ← MonadExcept.ofExcept (compareValues (← Step.store) c a b) then
      evaluateComparisons b rest
    else return .bool false

end

def assignMember (v : Value) (name : String) : Step Unit :=
  match v with
  | .type kind => throw (typeFault s!"cannot set '{name}' attribute of immutable type '{kind}'")
  | .system | .stream _ | .exception .. => pure ()
  | v =>
    let t := v.typeName
    throw (raised "AttributeError" s!"'{t}' object has no attribute '{name}'")

/-- The parts that several targets take of some items: one item each, except that one target may
take a list of as many as are left. -/
def shares (targets : List Target) (items : List Value) : Step (List Value) := do
  let wanted := (targets.filter (!·.isRest)).length
  let count := items.length
  if wanted = targets.length then
    if count < wanted then
      throw (valueFault s!"not enough values to unpack (expected {wanted}, got {count})")
    else if wanted < count then
      throw (valueFault s!"too many values to unpack (expected {wanted})")
    else return items
  else if count < wanted then
    throw (valueFault s!"not enough values to unpack (expected at least {wanted}, got {count})")
  else
    let early := (targets.takeWhile (!·.isRest)).length
    let taken := (items.drop early).take (count - wanted)
    return items.take early ++ [← Step.newList taken] ++ items.drop (early + taken.length)

mutual

/-- Gives a target a value. Several targets take as many items. -/
def Target.assign (v : Value) : Target → Step Unit
  | .name _ s => Step.assign s v
  | .member _ e part => do assignMember (← e.evaluate) part
  | .index e i => do
    let row ← e.evaluate
    let place ← i.evaluate
    putAt row place v
  | .several _ targets => do
    match (← Step.store).items? v with
    | none =>
      let t := v.typeName
      throw (typeFault s!"cannot unpack non-iterable {t} object")
    | some items => assignEach (← shares targets items) targets
  | .rest _ t => t.assign v

def assignEach (items : List Value) : List Target → Step Unit
  | [] => pure ()
  | t :: ts => do
    match items with
    | v :: vs =>
      t.assign v
      assignEach vs ts
    | [] => pure ()

end

def Target.update (op : Operation) (e : Expression) : Target → Step Unit
  | .name _ s => do
    let old ← lookUp s
    let v ← Script.update op old (← e.evaluate)
    Step.assign s v
  | .member _ owner part => do
    let owner ← owner.evaluate
    let old ← memberOf owner part
    let _ ← Script.update op old (← e.evaluate)
    assignMember owner part
  | .index row i => do
    let row ← row.evaluate
    let i ← i.evaluate
    let old ← MonadExcept.ofExcept (itemAt (← Step.store) row i)
    let v ← Script.update op old (← e.evaluate)
    putAt row i v
  | .several .. | .rest .. => pure ()

def Target.delete : Target → Step Unit
  | .name _ s => do
    match ← Step.lookUp? s with
    | some _ => Step.erase s
    | none => throw (raised "NameError" s!"name '{s}' is not defined")
  | .member _ e part => do assignMember (← e.evaluate) part
  | .index e i => do
    let row ← e.evaluate
    removeAt row (← i.evaluate)
  | .several _ targets => deleteEach targets
  | .rest _ t => t.delete
where
  deleteEach : List Target → Step Unit
    | [] => pure ()
    | t :: ts => do
      t.delete
      deleteEach ts

/-- Finds a module by the parts of its name. There is only one, and it has no parts. -/
def findModule : List String → Step Value
  | ["sys"] => pure .system
  | "sys" :: part :: _ =>
    throw <| raised "ModuleNotFoundError"
      s!"No module named 'sys.{part}'; 'sys' is not a package"
  | parts =>
    let source := (parts.head?).getD ""
    throw (raised "ModuleNotFoundError" s!"No module named '{source}'")

def takeMember (owner : Value) (name : String) (given : Option String) : Step Unit := do
  let found ← tryCatch (some <$> memberOf owner name) fun _ => pure none
  match found with
  | some v => Step.assign (given.getD name) v
  | none =>
    throw (raised "ImportError" s!"cannot import name '{name}' from 'sys' (unknown location)")

/-- The exception that a value is, or one of the class that it is. -/
def exceptionOf (v : Value) (complaint : String) : Step Raised := do
  match v with
  | .exception kind arguments details => return ⟨kind, arguments, details⟩
  | .type kind =>
    if isExceptionKind kind then MonadExcept.ofExcept (Raised.ofKind (← Step.store) kind [])
    else throw (typeFault complaint)
  | _ => throw (typeFault complaint)

def Action.run : Action → Step Unit
  | .pass | .leave _ => pure ()
  | .evaluate e => do let _ ← e.evaluate
  | .assign targets e => do
    let v ← e.evaluate
    targets.forM (Target.assign v)
  | .update target op e => target.update op e
  | .load modules => modules.forM fun l => do Step.assign l.name (← findModule l.parts)
  | .take source members => do
    let owner ← findModule source
    members.forM fun (name, given) => takeMember owner name given
  | .raise none _ => throw (raised "RuntimeError" "No active exception to reraise")
  | .raise (some e) cause => do
    let v ← e.evaluate
    let because ← cause.mapM Expression.evaluate
    let r ← exceptionOf v "exceptions must derive from BaseException"
    match because with
    | some w => unless w.isNull do
        let _ ← exceptionOf w "exception causes must derive from BaseException"
    | none => pure ()
    throw r
  | .assert e message => do
    let v ← e.evaluate
    unless isTruthy (← Step.store) v do
      let message ← message.mapM Expression.evaluate
      throw ⟨"AssertionError", message.toList, []⟩
  | .delete targets => targets.forM Target.delete

/-- A statement of a script, and the text by which it describes the script, if it does. -/
structure Line where
  statement : Statement
  description : Option String

/-- The statements of a script. A text that they start with describes it. -/
def linesOf : List Statement → List Line
  | [] => []
  | s :: rest =>
    let description := match s.action with
      | .evaluate (.mk _ (.text text)) => some text
      | _ => none
    ⟨s, description⟩ :: rest.map (⟨·, none⟩)

namespace Line

/-- The expression that a statement is, if it is one. -/
def expression? (l : Line) : Option Expression :=
  match l.statement.action with
  | .evaluate e => some e
  | _ => none

def run (l : Line) : Step Unit := do
  if let some text := l.description then Step.assign "__doc__" (.str text)
  l.statement.action.run

end Line

/-- What a check warns of, and whether it refuses what it has checked. -/
def checked (check : Step Unit) : String × Except Raised Unit :=
  let (result, m) := check.run ⟨.empty, "", ""⟩
  (m.error, result)

/-- Reads a script: what is to be warned of, and the statements, or why there are none. -/
def readLines (source : String) : String × Except Ending (List Line) :=
  if source.toList.contains '\x00' then
    ("", .error ⟨"ValueError", "source code string cannot contain null bytes"⟩)
  else
    let ⟨notices, result⟩ := Reading.ofText source
    let warnings := notices.map fun (line, notice) => warningText ReadFault.sourceName line notice
    (String.join warnings,
      match result with
      | .ok statements => .ok (linesOf statements)
      | .error fault => .error ⟨fault.kind, fault.message⟩)

def language : Interpreter where
  Space := Namespace
  Statement := Line
  Expression := Expression
  Value := Value
  Raised := Raised
  empty := .empty
  fresh := .fresh
  read := readLines
  expression? := Line.expression?
  compile body := checked (body.forM (·.statement.check))
  compileExpression e := checked e.check
  run := Line.run
  evaluate := Expression.evaluate
  shown space v := space.store.shown v
  ending space r := ⟨r.kind, r.text space.store⟩
  isContained r := !interruptions.contains r.kind

def execute (source : String) (space : Namespace) : Except Ending Outcome × Namespace :=
  language.execute source space

end Script

end DocFilter
