import DocFilter.Decimal.Binary64
import DocFilter.Dictionary

/-!
# JSON values

Values with exact whole numbers and with the fields of objects in order. A field list is looked up
by its first match and written by replacing in place or adding at the end, so an object built
through `Json.ofFields` has each key once.

Some kinds of value have no JSON text of their own. Configuration files and lists of entries can make
them, and they can be looked at like all others.
-/

namespace DocFilter

/-- A value that JSON has no form for, such as a date: the name of its kind, that name with where
the kind belongs, the value as text, whether it counts as nothing, and whether it can be a key. -/
structure Foreign where
  kind : String
  typeName : String
  text : String
  isEmpty : Bool
  isKey : Bool
deriving DecidableEq

/-- A JSON value, or one of the kinds that JSON has no form for: a foreign value, a pair that stands
for an entry of an ordered table, and a table of which some key is no text. -/
inductive Json where
  | null
  | bool (b : Bool)
  | int (n : Int)
  | float (x : Binary64)
  | str (s : String)
  | arr (items : List Json)
  | pair (first second : Json)
  | obj (fields : List (String × Json))
  | table (entries : List (Json × Json))
  | foreign (v : Foreign)
deriving Inhabited

/-- The fields of an object, in order. -/
abbrev Fields := List (String × Json)

namespace Fields

def get? (fields : Fields) (key : String) : Option Json := fields.lookup key

def has (fields : Fields) (key : String) : Bool := Dictionary.has fields key

/-- Gives the field `key` a value: in its place if there is one, else at the end. -/
def set (fields : Fields) (key : String) (v : Json) : Fields := Dictionary.set fields key v

def ofAssignments (assignments : Fields) : Fields :=
  assignments.foldl (fun fs (k, v) => fs.set k v) []

theorem get?_set (fields : Fields) (key key' : String) (v : Json) :
    (fields.set key v).get? key' = if key' == key then some v else fields.get? key' :=
  Dictionary.lookup_set fields key key' v

end Fields

namespace Json

def ofFields (assignments : Fields) : Json := .obj (Fields.ofAssignments assignments)

def text? : Json → Option String
  | .str s => some s
  | _ => none

/-- The value of a field, if the value is an object or table that has it. -/
def field? : Json → String → Option Json
  | .obj fields, key => Fields.get? fields key
  | .table entries, key => (entries.find? fun (k, _) => k.text? == some key).map (·.2)
  | _, _ => none

def entries? : Json → Option (List (Json × Json))
  | .obj fields => some (fields.map fun (k, v) => (.str k, v))
  | .table entries => some entries
  | _ => none

def items? : Json → Option (List Json)
  | .arr items => some items
  | _ => none

/-- The items of a value that can be listed: of a list its items, of a text its characters, of an
object or table its keys. -/
def listed? : Json → Option (List Json)
  | .arr items => some items
  | .pair v w => some [v, w]
  | .str s => some (s.toList.map fun c => .str (String.singleton c))
  | v => v.entries?.map fun entries => entries.map (·.1)

def isNull : Json → Bool
  | .null => true
  | _ => false

def isObject : Json → Bool
  | .obj _ | .table _ => true
  | _ => false

/-- Whether a value counts as something: not null, false, zero, or empty. -/
def isTruthy : Json → Bool
  | .null => false
  | .bool b => b
  | .int n => n != 0
  | .float x => !x.isZero
  | .str s => s != ""
  | .arr items => !items.isEmpty
  | .pair .. => true
  | .obj fields => !fields.isEmpty
  | .table entries => !entries.isEmpty
  | .foreign v => !v.isEmpty

/-- The name of a value's kind, as messages give it. -/
def kindName : Json → String
  | .null => "NoneType"
  | .bool _ => "bool"
  | .int _ => "int"
  | .float _ => "float"
  | .str _ => "str"
  | .arr _ => "list"
  | .pair .. => "tuple"
  | .obj _ | .table _ => "dict"
  | .foreign v => v.kind

/-- The name of a value's kind with where the kind belongs, as complaints about arguments give
it. -/
def typeName : Json → String
  | .foreign v => v.typeName
  | v => v.kindName

/-- The whole number that a truth value or whole number stands for. -/
def asInt? : Json → Option Int
  | .bool b => some (if b then 1 else 0)
  | .int n => some n
  | _ => none

def texts? : Json → Option (List String)
  | .arr items => items.mapM text?
  | _ => none

def ofTexts (ts : List String) : Json := .arr (ts.map .str)

end Json

end DocFilter
