import DocFilter.Json.Display

/-!
# Values of scripts

What the names of a script stand for. Data never changes; a list does, so a value only says at which
place of the store it is kept, and two values with the same place are one list. A list may come to
contain itself.
-/

namespace DocFilter

namespace Script

/-- A value: data, a list in the store, a tuple, an exception, a class, a function, or one of the
few objects that scripts can reach. The details of an exception are what its class has taken from
the arguments when it was made. -/
inductive Value where
  | data (v : Json)
  | list (place : Nat)
  | tuple (items : List Value)
  | exception (kind : String) (arguments details : List Value)
  | type (name : String)
  | function (name : String)
  | write (isError : Bool)
  | stream (isError : Bool)
  | system
  | dots
deriving Inhabited

namespace Value

def null : Value := .data .null
def int (n : Int) : Value := .data (.int n)
def str (s : String) : Value := .data (.str s)
def bool (b : Bool) : Value := .data (.bool b)

def isNull : Value → Bool
  | .data .null => true
  | _ => false

def typeName : Value → String
  | .data v => v.kindName
  | .list _ => "list"
  | .tuple _ => "tuple"
  | .exception kind _ _ => kind
  | .type _ => "type"
  | .function _ | .write _ => "builtin_function_or_method"
  | .stream _ => "_io.StringIO"
  | .system => "module"
  | .dots => "ellipsis"

def whole? : Value → Option Int
  | .data v => v.asInt?
  | _ => none

mutual

/-- The number of values that a value is made of, the items of lists in the store not counted. -/
def weight : Value → Nat
  | .tuple items => 1 + weightEach items
  | .exception _ arguments details => 1 + weightEach arguments + weightEach details
  | _ => 1

def weightEach : List Value → Nat
  | [] => 0
  | v :: vs => weight v + weightEach vs

end

end Value

/-- The lists that a script has made. The place of a list is its number. -/
structure Store where
  lists : Array (List Value)

namespace Store

def empty : Store := ⟨#[]⟩

def items (st : Store) (place : Nat) : List Value := (st.lists[place]?).getD []

def add (st : Store) (items : List Value) : Nat × Store := (st.lists.size, ⟨st.lists.push items⟩)

def put (st : Store) (place : Nat) (items : List Value) : Store :=
  ⟨st.lists.setIfInBounds place items⟩

/-- The items of a value that can be gone through: a list, a tuple, or a text. -/
def items? (st : Store) : Value → Option (List Value)
  | .list place => some (st.items place)
  | .tuple items => some items
  | .data v => v.listed?.map fun items => items.map .data
  | _ => none

/-- The number of values that a store holds. -/
def weight (st : Store) : Nat := st.lists.foldl (fun n items => n + 1 + Value.weightEach items) 0

end Store

def tupleText : List String → String
  | [item] => "(" ++ item ++ ",)"
  | items => "(" ++ joinWith ", " items ++ ")"

def argumentsText : List String → String
  | [item] => "(" ++ item ++ ")"
  | items => tupleText items

/-- A value as it stands inside another. A list inside itself, one of those that are `shownLists`
already, is three dots; `fuel` bounds the depth. -/
def insideFrom (st : Store) : Nat → List Nat → Value → String
  | 0, _, _ => "..."
  | fuel + 1, shownLists, v =>
    match v with
    | .data v => v.shownInside
    | .list place =>
      if shownLists.contains place then "[...]"
      else
        let items := (st.items place).map (insideFrom st fuel (place :: shownLists))
        "[" ++ joinWith ", " items ++ "]"
    | .tuple items => tupleText (items.map (insideFrom st fuel shownLists))
    | .exception kind arguments _ =>
      kind ++ argumentsText (arguments.map (insideFrom st fuel shownLists))
    | .type name => s!"<class '{name}'>"
    | .function name => s!"<built-in function {name}>"
    | .write _ => "<built-in method write of _io.StringIO object>"
    | .stream _ => "<_io.StringIO object>"
    | .system => "<module 'sys' (built-in)>"
    | .dots => "Ellipsis"

/-- A depth that no value of the store reaches without coming to a list a second time. -/
def Store.depth (st : Store) (v : Value) : Nat := st.weight + v.weight + 1

def Store.inside (st : Store) (v : Value) : String := insideFrom st (st.depth v) [] v

/-- What the text of an exception is made of, which depends on its class. -/
inductive Wording where
  | plain
  | quoted
  | system
  | script
  | coding
  | group
deriving DecidableEq

/-- The classes of refusal by the operating system, and the codes that they stand for. -/
def systemKinds : List (String × List Int) :=
  [("FileNotFoundError", [2]), ("PermissionError", [1, 13]), ("FileExistsError", [17]),
    ("NotADirectoryError", [20]), ("IsADirectoryError", [21]), ("InterruptedError", [4]),
    ("ChildProcessError", [10]), ("ProcessLookupError", [3]), ("TimeoutError", [110]),
    ("BlockingIOError", [11, 114, 115]), ("BrokenPipeError", [32, 108]),
    ("ConnectionAbortedError", [103]), ("ConnectionRefusedError", [111]),
    ("ConnectionResetError", [104])]

/-- The classes of complaints about the text of a script, about characters that a coding does not
have, and of groups of exceptions. -/
def scriptKinds : List String := ["SyntaxError", "IndentationError", "TabError"]
def codingKinds : List String :=
  ["UnicodeEncodeError", "UnicodeDecodeError", "UnicodeTranslateError"]
def groupKinds : List String := ["BaseExceptionGroup", "ExceptionGroup"]

def isSystemKind (kind : String) : Bool :=
  kind == "OSError" || kind == "ConnectionError" || systemKinds.any (·.1 == kind)

def Wording.ofKind (kind : String) : Wording :=
  if kind = "KeyError" then .quoted
  else if isSystemKind kind then .system
  else if scriptKinds.contains kind then .script
  else if codingKinds.contains kind then .coding
  else if groupKinds.contains kind then .group
  else .plain

def escapedPoint (c : Char) : String :=
  let n := c.toNat
  String.ofList <|
    if n < 0x100 then '\\' :: 'x' :: hexDigits 2 n
    else if n < 0x10000 then '\\' :: 'u' :: hexDigits 4 n
    else '\\' :: 'U' :: hexDigits 8 n

/-- The characters of a text that a coding has no place for, from `start` up to `stop`. -/
def codingText (act text : String) (start stop : Int) : String :=
  match if stop = start + 1 ∧ 0 ≤ start then text.toList[start.toNat]? else none with
  | some c => s!"can't {act} character '{escapedPoint c}' in position {start}"
  | none =>
    let last := stop - 1
    s!"can't {act} characters in position {start}-{last}"

def lastPart (path : String) : String :=
  String.ofList (path.toList.reverse.takeWhile (· ≠ '/')).reverse

/-- The number that counts lines, where it has the size of a machine word. -/
def lineText (n : Int) : String :=
  toString (if n < -(twoPow 63 : Int) ∨ (twoPow 63 : Int) ≤ n then -1 else n)

/-- The text of an exception, given the texts of values on their own and inside others. -/
def exceptionText (alone within : Value → String) (kind : String)
    (arguments details : List Value) : String :=
  let plain := match arguments with
    | [] => ""
    | [v] => alone v
    | vs => tupleText (vs.map within)
  match Wording.ofKind kind, details with
  | .quoted, _ => match arguments with
    | [v] => within v
    | _ => plain
  | .system, [code, message, .data .null, _] => "[Errno " ++ alone code ++ "] " ++ alone message
  | .system, [code, message, file, other] =>
    let place := ": " ++ within file ++ (if other.isNull then "" else " -> " ++ within other)
    "[Errno " ++ alone code ++ "] " ++ alone message ++ place
  | .script, [message, file, line] =>
    let file? := match file with
      | .data (.str path) => some (lastPart path)
      | _ => none
    let line? := match line with
      | .data (.int n) => some ("line " ++ lineText n)
      | _ => none
    match file?.toList ++ line?.toList with
    | [] => alone message
    | places => alone message ++ " (" ++ joinWith ", " places ++ ")"
  | .coding, [.data (.str coding), .data (.str text), .data (.int i), .data (.int j), reason] =>
    s!"'{coding}' codec " ++ codingText "encode" text i j ++ ": " ++ alone reason
  | .coding, [.data (.str text), .data (.int i), .data (.int j), reason] =>
    codingText "translate" text i j ++ ": " ++ alone reason
  | .group, [message, .data (.int count)] =>
    let ending := if count = 1 then "" else "s"
    alone message ++ s!" ({count} sub-exception{ending})"
  | _, _ => plain

/-- A value as text; `fuel` bounds the depth. -/
def shownFrom (st : Store) : Nat → Value → String
  | 0, _ => "..."
  | fuel + 1, v =>
    match v with
    | .data v => v.shown
    | .exception kind arguments details =>
      exceptionText (shownFrom st fuel) st.inside kind arguments details
    | v => st.inside v

/-- A value as text: a text stands as it is, and an exception is what it says. -/
def Store.shown (st : Store) (v : Value) : String := shownFrom st (st.depth v) v

end Script

end DocFilter
