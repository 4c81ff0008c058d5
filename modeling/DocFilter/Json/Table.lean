import DocFilter.Failure

/-!
# Tables

Tables whose keys may be more than texts, made of assignments or of a list of entries, and the
values that JSON text can hold. Keys that are equal as numbers are the same key; the one that came
first stays.
-/

namespace DocFilter

namespace Json

/-- Whether two numbers, of which a truth value is one, are equal; none if one is no number. -/
def sameNumber? (a b : Json) : Option Bool :=
  match a.asInt?, b.asInt?, a, b with
  | some m, some n, _, _ => some (m == n)
  | some m, none, _, .float y => some (y.eqInt m)
  | none, some n, .float x, _ => some (x.eqInt n)
  | none, none, .float x, .float y => some (x.eqValue y)
  | _, _, _, _ => none

mutual

/-- Whether two values are equal: numbers by their value, and objects in any order. -/
def same (a : Json) : Json → Bool
  | .null => a.isNull
  | .str t => a.text? == some t
  | .arr ys =>
    match a with
    | .arr xs => xs.length == ys.length && sameItems xs ys
    | _ => false
  | .pair v w =>
    match a with
    | .pair x y => same x v && same y w
    | _ => false
  | .obj ys =>
    match a with
    | .obj xs => xs.length == ys.length && sameFields xs ys
    | _ => false
  | .table _ => false
  | .foreign w =>
    match a with
    | .foreign v => v == w
    | _ => false
  | b => (sameNumber? a b).getD false

def sameItems (xs : List Json) : List Json → Bool
  | [] => true
  | y :: ys =>
    match xs with
    | [] => true
    | x :: xs => same x y && sameItems xs ys

def sameFields (xs : Fields) : List (String × Json) → Bool
  | [] => true
  | (k, y) :: ys =>
    (match xs.get? k with
    | some x => same x y
    | none => false) && sameFields xs ys

end

/-- Whether two values are the same key. A number that is none is the same as itself, and what holds
other values is no key, except a pair of keys. -/
def isSameKey (a : Json) : Json → Bool
  | .pair v w =>
    match a with
    | .pair x y => isSameKey x v && isSameKey y w
    | _ => false
  | .float y =>
    match a with
    | .float x => x == y || x.eqValue y
    | _ => same a (.float y)
  | .arr _ | .obj _ | .table _ => false
  | b => same a b

/-- Whether a value can be a key. What holds other values can be none, except a pair of keys. -/
def isKey : Json → Bool
  | .pair v w => v.isKey && w.isKey
  | .arr _ | .obj _ | .table _ => false
  | .foreign v => v.isKey
  | _ => true

end Json

namespace Table

def get? (entries : List (Json × Json)) (key : Json) : Option Json :=
  (entries.find? fun (k, _) => k.isSameKey key).map (·.2)

/-- Gives a key a value: in its place if there is one, else at the end. -/
def set : List (Json × Json) → Json → Json → List (Json × Json)
  | [], key, v => [(key, v)]
  | (k, w) :: rest, key, v =>
    if k.isSameKey key then (k, v) :: rest else (k, w) :: set rest key v

/-- An object if all keys are texts, and a table otherwise. -/
def ofEntries (entries : List (Json × Json)) : Json :=
  match entries.mapM fun (k, v) => k.text?.map (·, v) with
  | some fields => .obj fields
  | none => .table entries

def ofAssignments (assignments : List (Json × Json)) : Json :=
  ofEntries (assignments.foldl (fun entries (k, v) => set entries k v) [])

/-- An entry of a list that stands for a table: a key and its value. -/
def entryOf (place : Nat) (v : Json) : Except Failure (Json × Json) :=
  match v.listed? with
  | some [key, value] =>
    if key.isKey then .ok (key, value)
    else
      let kind := key.typeName
      .error (.wrongType s!"unhashable type: '{kind}'")
  | some items =>
    let size := items.length
    .error (.badValue
      s!"dictionary update sequence element #{place} has length {size}; 2 is required")
  | none =>
    .error (.wrongType
      s!"cannot convert dictionary update sequence element #{place} to a sequence")

/-- The table that a value stands for: it may be one, or a list of entries. -/
def ofValue (v : Json) : Except Failure Json :=
  if v.isObject then .ok v
  else match v.listed? with
    | some entries => do
      return ofAssignments (← entries.zipIdx.mapM fun (entry, place) => entryOf place entry)
    | none =>
      let kind := v.typeName
      .error (.wrongType s!"'{kind}' object is not iterable")

/-- The fields of a table, of which every key has to be a text. -/
def fields : Json → Except Failure Fields
  | .obj fields => .ok fields
  | _ => .error (.wrongType "keywords must be strings")

end Table

/-- Why a foreign value cannot be written as JSON. One that holds itself is called by the kind of
what holds it. -/
def Foreign.refusal (v : Foreign) : Failure :=
  let kind := v.kind
  if kind = "list" || kind = "dict" then .badValue "Circular reference detected"
  else .wrongType s!"Object of type {kind} is not JSON serializable"

namespace Json

mutual

/-- Refuses a value that holds a foreign one. -/
def checkWritable : Json → Except Failure Unit
  | .arr items => checkItems items
  | .pair v w => do
    checkWritable v
    checkWritable w
  | .obj fields => checkFields fields
  | .table entries => checkEntries entries
  | .foreign v => .error v.refusal
  | _ => .ok ()

def checkItems : List Json → Except Failure Unit
  | [] => .ok ()
  | v :: vs => do
    checkWritable v
    checkItems vs

def checkFields : List (String × Json) → Except Failure Unit
  | [] => .ok ()
  | (_, v) :: fs => do
    checkWritable v
    checkFields fs

def checkEntries : List (Json × Json) → Except Failure Unit
  | [] => .ok ()
  | (.foreign k, _) :: _ =>
    let kind := k.kind
    .error (.wrongType s!"keys must be str, int, float, bool or None, not {kind}")
  | (_, v) :: rest => do
    checkWritable v
    checkEntries rest

end

end Json

end DocFilter
