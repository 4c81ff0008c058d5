import DocFilter.Decimal.Scaling
import DocFilter.Json.Value
import DocFilter.Sql.Statement

/-!
# Tables

The content of a database, and what each statement does to it: the content after it, and the result
set of a query.
-/

namespace DocFilter

namespace Sql

/-- A table: its columns in order, and its rows in the order they were added. -/
structure Table where
  name : String
  columns : List String
  rows : List (List Json)

/-- The tables of a database, in the order they were made. -/
abbrev Tables := List Table

/-- The rows that a query gives, under their column names. -/
structure ResultSet where
  columns : List String
  rows : List (List Json)

/-- Whether two names are the same up to the case of ASCII letters. -/
def sameName (a b : String) : Bool := a.toList.map Char.toLower == b.toList.map Char.toLower

/-- The name of the only database of a connection. -/
def mainDatabase : String := "main"

/-- The table of a name, which may say the database that it is in. -/
def Tables.find? (ts : Tables) (name : TableName) : Option Table :=
  if name.database.all (sameName mainDatabase) then List.find? (sameName ·.name name.table) ts
  else none

def Table.column? (t : Table) (name : String) : Option Nat :=
  t.columns.findIdx? (sameName · name)

/-- A whole number, which becomes a floating one outside the range of 64 bits. -/
def ofWhole (n : Int) : Json :=
  if -(twoPow 63 : Int) ≤ n ∧ n < (twoPow 63 : Int) then .int n
  else .float (signedFloat (n < 0) (Decimal.scaled n.natAbs 0))
where
  signedFloat (negative : Bool) (x : Binary64) : Binary64 := if negative then x.negate else x

def ofReal (negative : Bool) (digits : Nat) (exponent : Int) : Json :=
  let x := Decimal.scaled digits exponent
  .float (if negative then x.negate else x)

/-- The signed number that has the last 64 bits of a whole number. -/
def ofWord (n : Nat) : Json :=
  let bits := n % twoPow 64
  .int (if bits < twoPow 63 then bits else (bits : Int) - twoPow 64)

/-- The number that a text starts with; 0 if it starts with none. -/
def leadingNumber (s : String) : Json :=
  let (negative, cs) := splitSign (s.toList.dropWhile Char.isWhitespace)
  match readNumber cs with
  | (.whole ds, _) => ofWhole (signedInt negative (ofDigits 10 (ds.filterMap asciiDigit?)))
  | (.decimal ds, _) =>
    if ds.any Char.isDigit then
      let (digits, e) := Reader.decimalOf ds
      ofReal negative digits e
    else .int 0
  | _ => .int 0

def opposite : Json → Json
  | .int n => ofWhole (-n)
  | .float x => .float x.negate
  | .str s => match leadingNumber s with
    | .float x => .float x.negate
    | .int n => ofWhole (-n)
    | v => v
  | v => v

/-- The value of an expression, given the value of each name. -/
def Expression.evaluate (look : ColumnName → Except String Json) :
    Expression → Except String Json
  | .null => .ok .null
  | .whole n => .ok (ofWhole n)
  | .hexadecimal n _ => .ok (ofWord n)
  | .decimal ds e => .ok (ofReal false ds e)
  | .text s => .ok (.str s)
  | .name n => look n
  | .minus (.whole n) => .ok (ofWhole (-(n : Int)))
  | .minus e => (evaluate look e).map opposite
  | .plus e => evaluate look e

/-- The complaint about a hexadecimal number that does not fit into 64 bits. -/
def Expression.excess? : Expression → Option String
  | .hexadecimal n written =>
    if twoPow 64 ≤ n then some s!"hex literal too big: {written}" else none
  | .minus (.hexadecimal n written) =>
    if twoPow 64 ≤ n ∨ n = twoPow 63 then some s!"hex literal too big: -{written}" else none
  | .minus e | .plus e => excess? e
  | _ => none

def checkExcess (es : List Expression) : Except String Unit :=
  match es.findSome? Expression.excess? with
  | some message => throw message
  | none => pure ()

/-- The value of a name where no column is at hand: if it stands alone, a text if it is quoted, and a
number if it is the word for a truth value. -/
def unresolved (name : ColumnName) : Except String Json :=
  let missing := s!"no such column: {name.shown}"
  if !name.qualifier.isEmpty then .error missing
  else if name.isQuoted then .ok (.str name.column)
  else if sameName name.column "true" then .ok (.int 1)
  else if sameName name.column "false" then .ok (.int 0)
  else .error missing

/-- A row that a query reads: its number, from one, and its values. -/
structure Row where
  number : Nat
  values : List Json

/-- Whether a name means the number of a row where no column has it. -/
def isRowNumber (name : String) : Bool := ["rowid", "_rowid_", "oid"].any (sameName name)

/-- What a query reads: a table under the name it goes by there, or no table. -/
abbrev Scope := Option Table

def Scope.table? (scope : Scope) (name : ColumnName) : Option Table :=
  scope.filter fun t =>
    match name.qualifier with
    | [] => true
    | [table] => sameName t.name table
    | [database, table] => sameName mainDatabase database && sameName t.name table
    | _ => false

/-- The value of a name in a row, if the name is known there. -/
def Scope.known? (scope : Scope) (row : Row) (name : ColumnName) : Option Json := do
  let t ← scope.table? name
  match t.column? name.column with
  | some i => some ((row.values[i]?).getD .null)
  | none => if isRowNumber name.column then some (.int row.number) else none

def Scope.value (scope : Scope) (row : Row) (name : ColumnName) : Except String Json :=
  match scope.known? row name with
  | some v => .ok v
  | none => unresolved name

/-- The rows that a query reads. Without a table that is one row without values. -/
def Scope.rows (scope : Scope) : List (List Json) :=
  match scope with
  | some t => t.rows
  | none => [[]]

def Scope.blankRow (scope : Scope) : Row :=
  ⟨0, (scope.map fun t => t.columns.map fun _ => Json.null).getD []⟩

/-- The result columns for every column of a table, each under its own name. -/
def Table.everyColumn (t : Table) : List ResultColumn :=
  t.columns.map fun c => ⟨.name ⟨[], c, false⟩, some c, c⟩

/-- The result columns that an item asks for. -/
def Selected.columns (scope : Scope) : Selected → Except String (List ResultColumn)
  | .column c => .ok [c]
  | .every =>
    match scope with
    | some t => .ok t.everyColumn
    | none => .error "no tables specified"
  | .everyOf name =>
    match scope.filter (sameName ·.name name) with
    | some t => .ok t.everyColumn
    | none => .error s!"no such table: {name}"

/-- The result columns that all items ask for. The last complaint is the one that is heard. -/
def resultColumns (scope : Scope) : List Selected → Except String (List ResultColumn)
  | [] => .ok []
  | item :: rest => do
    let following ← resultColumns scope rest
    return (← item.columns scope) ++ following

/-- The name that a result column is shown under. -/
def ResultColumn.label (scope : Scope) (c : ResultColumn) : String :=
  match c.given, c.value with
  | some n, _ => n
  | none, .name n =>
    match scope.table? n with
    | some t =>
      match t.column? n.column with
      | some i => (t.columns[i]?).getD n.column
      | none => if isRowNumber n.column then "rowid" else c.written
    | none => c.written
  | none, _ => c.written

def resultRow (scope : Scope) (row : Row) (columns : List ResultColumn) :
    Except String (List Json) :=
  columns.mapM fun c => c.value.evaluate (scope.value row)

/-- The rank of a value's kind in sorted results: null, numbers, texts. -/
def kindRank : Json → Nat
  | .null => 0
  | .str _ => 2
  | _ => 1

/-- How two values are sorted. -/
def compareValues (a b : Json) : Ordering :=
  match a, b with
  | .int m, .int n => compare m n
  | .float x, .int n => x.compareInt n
  | .int m, .float y => (y.compareInt m).swap
  | .float x, .float y =>
    if x.toFloat < y.toFloat then .lt else if y.toFloat < x.toFloat then .gt else .eq
  | .str s, .str t => compare s t
  | a, b => compare (kindRank a) (kindRank b)

def compareKeys : List (Json × Bool) → List (Json × Bool) → Ordering
  | (a, descending) :: as, (b, _) :: bs =>
    match compareValues a b with
    | .eq => compareKeys as bs
    | o => if descending then o.swap else o
  | _, _ => .eq

def ordinal (n : Nat) : String :=
  let ending := if n % 100 / 10 = 1 then "th" else match n % 10 with
    | 1 => "st"
    | 2 => "nd"
    | 3 => "rd"
    | _ => "th"
  toString n ++ ending

/-- What the first result column with a given name shows, for a name that stands alone. -/
def given? (columns : List ResultColumn) (name : ColumnName) : Option Expression :=
  if name.qualifier.isEmpty then
    (columns.find? fun c => (c.given.map (sameName · name.column)).getD false).map (·.value)
  else none

/-- The small whole number that an expression writes, with signs. -/
def Expression.position? : Expression → Option Int
  | .whole n | .hexadecimal n _ => if n < twoPow 31 then some n else none
  | .minus e => (position? e).map (- ·)
  | .plus e => position? e
  | _ => none

/-- The value of a name in a term that results are sorted by, where the names given to result
columns are known after those of the table. -/
def inSorting (scope : Scope) (columns : List ResultColumn) (row : Row) (name : ColumnName) :
    Except String Json :=
  match scope.known? row name, given? columns name with
  | none, some e => e.evaluate (scope.value row)
  | _, _ => scope.value row name

/-- What a row is sorted by for a term that is not the number of a result column: what the result
column of that name shows, or the value of the term. -/
def SortTerm.value (scope : Scope) (columns : List ResultColumn) (row : Row) (term : SortTerm) :
    Except String Json :=
  match term.key with
  | .name n => match given? columns n with
    | some e => e.evaluate (scope.value row)
    | none => term.key.evaluate (scope.value row)
  | e => e.evaluate (inSorting scope columns row)

/-- Refuses the terms that cannot be sorted by: an unknown name, or the number of a column that is
not there. -/
def checkSorting (scope : Scope) (columns : List ResultColumn) (sorting : List SortTerm) :
    Except String Unit := do
  let count := columns.length
  let outside (index : Nat) : Except String Unit :=
    let place := ordinal (index + 1)
    throw s!"{place} ORDER BY term out of range - should be between 1 and {count}"
  for (term, i) in sorting.zipIdx do
    match term.key.position? with
    | some k => if k < 1 ∨ 65535 < k then outside i
    | none => let _ ← term.value scope columns ⟨0, []⟩
  for (term, i) in sorting.zipIdx do
    match term.key.position? with
    | some k => if count < k then outside i
    | none => pure ()

def sortKey (scope : Scope) (columns : List ResultColumn) (row : Row) (shown : List Json)
    (term : SortTerm) : Except String (Json × Bool) := do
  let v ← match term.key.position? with
    | some k => pure ((shown[k.toNat - 1]?).getD .null)
    | none => term.value scope columns row
  return (v, term.descending)

def resultOf (scope : Scope) (selected : List Selected) (sorting : List SortTerm) :
    Except String ResultSet := do
  let columns ← resultColumns scope selected
  let _ ← resultRow scope scope.blankRow columns
  checkSorting scope columns sorting
  checkExcess (columns.map (·.value))
  checkExcess (sorting.map (·.key))
  let rows ← scope.rows.zipIdx.mapM fun (values, i) => do
    let row : Row := ⟨i + 1, values⟩
    let shown ← resultRow scope row columns
    return (← sorting.mapM (sortKey scope columns row shown), shown)
  let ordered := rows.mergeSort fun a b => compareKeys a.1 b.1 != .gt
  return ⟨columns.map (·.label scope), ordered.map (·.2)⟩

def repeated? : List String → Option String
  | [] => none
  | names => (names.zipIdx.find? fun (n, i) => (names.take i).any (sameName · n)).map (·.1)

/-- The values of the rows of an insertion, the last row first judged; all have the same length. -/
def rowValues : List (List Expression) → Except String (List (List Json))
  | [] => .ok []
  | row :: rest => do
    let following ← rowValues rest
    let values ← row.mapM (Expression.evaluate unresolved)
    match following with
    | next :: _ =>
      if next.length != values.length then throw "all VALUES must have the same number of terms"
    | [] => pure ()
    return values :: following

/-- The rows to add to a table, called `name` in the statement, for the rows of values given. -/
def newRows (t : Table) (name : String) (columns : Option (List String))
    (rows : List (List Expression)) : Except String (List (List Json)) := do
  let targets ← match columns with
    | none => pure (List.range t.columns.length)
    | some names => names.mapM fun n => match t.column? n with
      | some i => pure i
      | none => throw s!"table {name} has no column named {n}"
  let values ← rowValues rows
  let width := (values.head?.map List.length).getD 0
  if width != targets.length then
    let count := targets.length
    match columns with
    | none => throw s!"table {name} has {count} columns but {width} values were supplied"
    | some _ => throw s!"{width} values for {count} columns"
  checkExcess rows.flatten
  return values.map fun row => (List.range t.columns.length).map fun i =>
    match targets.idxOf? i with
    | some k => (row[k]?).getD .null
    | none => .null

/-- What a statement does to the tables: the tables after it, and its result set. -/
def Statement.run (ts : Tables) : Statement → Except String (Tables × Option ResultSet)
  | .empty => .ok (ts, none)
  | .create c => do
    let name := c.name.table
    let known := (ts.find? ⟨none, name⟩).isSome
    unless c.name.database.all (sameName mainDatabase) do
      let database := c.writtenDatabase
      throw s!"unknown database {database}"
    if (lower name).take 7 == "sqlite_".toList then
      throw s!"object name reserved for internal use: {name}"
    if known && !c.unlessExists then
      let written := c.written
      throw s!"table {written} already exists"
    if let some column := if known then none else repeated? c.columns then
      throw s!"duplicate column name: {column}"
    if let some fault := c.fault then throw fault.message
    return (if known then ts else ts ++ [⟨name, c.columns, []⟩], none)
  | .drop name ifExists =>
    match ts.find? name with
    | none => if ifExists then .ok (ts, none) else .error (missing name)
    | some t => .ok (ts.filter (·.name != t.name), none)
  | .insert source columns rows => do
    let t ← table source.name
    let added ← newRows t (source.otherName.getD source.name.shown) columns rows
    return (update t (t.rows ++ added), none)
  | .delete name => do
    let t ← table name
    return (update t [], none)
  | .query selected none sorting => do
    return (ts, some (← resultOf none selected sorting))
  | .query selected (some source) sorting => do
    let t ← table source.name
    return (ts, some (← resultOf (some { t with name := source.otherName.getD t.name }) selected sorting))
where
  lower (s : String) : List Char := s.toList.map Char.toLower
  missing (name : TableName) : String := s!"no such table: {name.shown}"
  table (name : TableName) : Except String Table :=
    match ts.find? name with
    | some t => .ok t
    | none => .error (missing name)
  update (t : Table) (rows : List (List Json)) : Tables :=
    ts.map fun u => if u.name = t.name then { u with rows := rows } else u

/-- Whether a statement changes rows, and so is part of a transaction. -/
def Statement.changesRows : Statement → Bool
  | .insert .. | .delete .. => true
  | _ => false

def Statement.namesTable : Statement → Bool
  | .empty | .query _ none _ => false
  | _ => true

end Sql

end DocFilter
