import DocFilter.Decimal.Binary64
import DocFilter.Script.Value

/-!
# Exceptions

The classes of exception, and how an exception is made from a class and arguments. Some classes take
the arguments apart, and then refuse those that they have no use for.
-/

namespace DocFilter

namespace Script

/-- An exception: its class, its arguments, and the details that its class has taken from them. -/
structure Raised where
  kind : String
  arguments : List Value
  details : List Value

namespace Raised

def toValue (r : Raised) : Value := .exception r.kind r.arguments r.details

def text (st : Store) (r : Raised) : String := st.shown r.toValue

end Raised

def raised (kind message : String) : Raised := ⟨kind, [.str message], []⟩

def typeFault (message : String) : Raised := raised "TypeError" message
def valueFault (message : String) : Raised := raised "ValueError" message

/-- The classes of exception that not even the end of a script contains. -/
def interruptions : List String :=
  ["KeyboardInterrupt", "GeneratorExit", "BaseException", "BaseExceptionGroup"]

/-- The classes of exception that no part of a script contains, though its end does. -/
def outermostKinds : List String := ["SystemExit"]

/-- The other classes of exception. -/
def ordinaryKinds : List String :=
  ["Exception", "ArithmeticError", "AssertionError", "AttributeError", "BufferError", "EOFError",
    "FloatingPointError", "ImportError", "IndexError", "KeyError", "LookupError", "MemoryError",
    "ModuleNotFoundError", "NameError", "NotImplementedError", "OverflowError", "RecursionError",
    "ReferenceError", "RuntimeError", "StopAsyncIteration", "StopIteration", "SystemError",
    "TypeError", "UnboundLocalError", "UnicodeError", "ValueError", "Warning", "UserWarning",
    "DeprecationWarning", "PendingDeprecationWarning", "SyntaxWarning", "RuntimeWarning",
    "FutureWarning", "ImportWarning", "UnicodeWarning", "BytesWarning", "ResourceWarning",
    "EncodingWarning", "ZeroDivisionError", "ExceptionGroup"] ++ scriptKinds ++ codingKinds

def isExceptionKind (name : String) : Bool :=
  ordinaryKinds.contains name || outermostKinds.contains name || interruptions.contains name ||
    isSystemKind name

/-- The class that a name means. Two names are other names of the class of refusals. -/
def kindOfName (name : String) : String :=
  if name = "IOError" || name = "EnvironmentError" then "OSError" else name

/-- Whether an exception of a class is contained by whatever contains all ordinary ones. -/
def isOrdinary (kind : String) : Bool :=
  !(interruptions.contains kind || outermostKinds.contains kind)

/-- The name of the class of an argument, as complaints about arguments give it. -/
def argumentName (v : Value) : String := if v.isNull then "None" else v.typeName

def checkCount (what : String) (least most : Nat) (given : Nat) : Except Raised Unit :=
  let complain (bound : String) (n : Nat) : Except Raised Unit :=
    let ending := if n = 1 then "" else "s"
    throw (typeFault s!"{what} takes {bound} {n} argument{ending} ({given} given)")
  if given < least then complain (if least = most then "exactly" else "at least") least
  else if most < given then complain (if least = most then "exactly" else "at most") most
  else pure ()

/-- Refuses an argument, given with its number, that is no text. -/
def checkText (what : String) (position : Nat) (v : Value) : Except Raised Unit :=
  match v with
  | .data (.str _) => pure ()
  | v =>
    let name := argumentName v
    throw (typeFault s!"{what}argument {position} must be str, not {name}")

/-- The whole number that an argument is, if it has the size of a machine word. -/
def wordOf (v : Value) (excess : Raised) : Except Raised Value :=
  match v.whole? with
  | some n =>
    if n < -(twoPow 63 : Int) ∨ (twoPow 63 : Int) ≤ n then throw excess else pure (.int n)
  | none =>
    let name := v.typeName
    throw (typeFault s!"'{name}' object cannot be interpreted as an integer")

/-- A number too large for counting, as an argument that positions are taken from. -/
def wordExcess : Raised := raised "OverflowError" "Python int too large to convert to C ssize_t"

/-- The exception for a refusal by the operating system: of two to five arguments the first is its
code, the second its message, and the third and the fifth are files. In general it takes the class
that its code stands for. -/
def Raised.ofSystem (kind : String) (arguments : List Value) : Except Raised Raised :=
  if 2 ≤ arguments.length ∧ arguments.length ≤ 5 then do
    let part (i : Nat) : Value := (arguments[i]?).getD .null
    let special := (part 0).whole?.bind fun code =>
      (systemKinds.find? (·.2.contains code)).map (·.1)
    let kind := if kind = "OSError" then special.getD kind else kind
    let isNumber := match part 2 with
      | .data (.bool _) | .data (.int _) | .data (.float _) => true
      | _ => false
    if kind = "BlockingIOError" && isNumber then
      let _ ← wordOf (part 2) (valueFault "cannot fit 'int' into an index-sized integer")
      return ⟨kind, arguments, [part 0, part 1, .null, .null]⟩
    else if (part 2).isNull then return ⟨kind, arguments, [part 0, part 1, .null, .null]⟩
    else return ⟨kind, arguments.take 2, [part 0, part 1, part 2, part 4]⟩
  else return ⟨kind, arguments, []⟩

/-- The complaint about the text of a script: of two arguments the second lists a file, a line and
more. -/
def Raised.ofScript (st : Store) (kind : String) (arguments : List Value) :
    Except Raised Raised := do
  let message := (arguments.head?).getD .null
  match arguments with
  | [_, place] =>
    match st.items? place with
    | none =>
      let name := place.typeName
      throw (typeFault s!"'{name}' object is not iterable")
    | some parts =>
      checkCount "function" 4 6 parts.length
      if parts.length = 5 then
        throw (typeFault "end_offset must be provided when end_lineno is provided")
      let part (i : Nat) : Value := (parts[i]?).getD .null
      return ⟨kind, arguments, [message, part 0, part 1]⟩
  | _ => return ⟨kind, arguments, [message, .null, .null]⟩

/-- The complaint about characters that a coding has no place for. What was to be decoded would have
to be bytes, which no script has. -/
def Raised.ofCoding (kind : String) (arguments : List Value) : Except Raised Raised := do
  let isTranslation := kind = "UnicodeTranslateError"
  let count := if isTranslation then 4 else 5
  checkCount "function" count count arguments.length
  let details ← arguments.zipIdx.mapM fun (v, i) =>
    let fromEnd := count - i
    if fromEnd = 3 || fromEnd = 2 then wordOf v wordExcess
    else if kind = "UnicodeDecodeError" && fromEnd = 4 then pure v
    else do
      checkText "" (i + 1) v
      return v
  if kind = "UnicodeDecodeError" then
    let name := (Value.typeName ((arguments[1]?).getD .null))
    throw (typeFault s!"a bytes-like object is required, not '{name}'")
  return ⟨kind, arguments, details⟩

/-- A group of exceptions: a message, and a list of exceptions that is not empty. -/
def Raised.ofGroup (st : Store) (kind : String) (arguments : List Value) :
    Except Raised Raised := do
  let what := "BaseExceptionGroup.__new__()"
  checkCount what 2 2 arguments.length
  let message := (arguments[0]?).getD .null
  let members := (arguments[1]?).getD .null
  checkText (what ++ " ") 1 message
  let items ← match members with
    | .data (.obj _) | .data (.table _) =>
      throw (typeFault "second argument (exceptions) must be a sequence")
    | v => match st.items? v with
      | some items => pure items
      | none => throw (typeFault "second argument (exceptions) must be a sequence")
  if items.isEmpty then
    throw (valueFault "second argument (exceptions) must be a non-empty sequence")
  let kinds ← items.zipIdx.mapM fun (v, i) => match v with
    | .exception kind _ _ => pure kind
    | _ => throw (valueFault s!"Item {i} of second argument (exceptions) is not an exception")
  if kind = "ExceptionGroup" && !kinds.all isOrdinary then
    throw (typeFault "Cannot nest BaseExceptions in an ExceptionGroup")
  let narrowed := if kinds.all isOrdinary then "ExceptionGroup" else kind
  return ⟨narrowed, arguments, [message, .int items.length]⟩

def Raised.ofKind (st : Store) (kind : String) (arguments : List Value) : Except Raised Raised :=
  let kind := kindOfName kind
  match Wording.ofKind kind with
  | .system => Raised.ofSystem kind arguments
  | .script => Raised.ofScript st kind arguments
  | .coding => Raised.ofCoding kind arguments
  | .group => Raised.ofGroup st kind arguments
  | .plain | .quoted => .ok ⟨kind, arguments, []⟩

end Script

end DocFilter
