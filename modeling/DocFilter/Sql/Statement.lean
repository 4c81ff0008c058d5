import DocFilter.Sql.Token
import DocFilter.Text.Digits
import DocFilter.Text.Lines

/-!
# SQL statements

The statements that tables are made, filled, emptied and read with, and their reader. A statement
that breaks off is told apart from one with a token in the wrong place.
-/

namespace DocFilter

namespace Sql

/-- The name of a column with what stands before it: a table, or a database and a table. A name that
stands alone in double quotes may also mean a text. -/
structure ColumnName where
  qualifier : List String
  column : String
  isQuoted : Bool

/-- A column name as messages show it, without quotes. -/
def ColumnName.shown (n : ColumnName) : String := joinWith "." (n.qualifier ++ [n.column])

/-- The name of a table, with that of its database if one is given. -/
structure TableName where
  database : Option String
  table : String

/-- A table name as messages show it, without quotes. -/
def TableName.shown (n : TableName) : String :=
  match n.database with
  | some database => s!"{database}.{n.table}"
  | none => n.table

/-- An expression: a literal, the name of a column, or a sign before another. -/
inductive Expression where
  | null
  | whole (digits : Nat)
  | hexadecimal (value : Nat) (written : String)
  | decimal (digits : Nat) (exponent : Int)
  | text (s : String)
  | name (n : ColumnName)
  | minus (e : Expression)
  | plus (e : Expression)

/-- An expression of a result, with the name given to it and the text it was written as. -/
structure ResultColumn where
  value : Expression
  given : Option String
  written : String

/-- What a query asks for: every column, every column of the table that goes by a name, or one
expression. -/
inductive Selected where
  | every
  | everyOf (table : String)
  | column (c : ResultColumn)

structure SortTerm where
  key : Expression
  descending : Bool

/-- Why a text is no statement. -/
inductive ReadFault where
  | near (spelling : String)
  | incomplete
  | unknownToken (spelling : String)

def ReadFault.message : ReadFault → String
  | .near spelling => s!"near \"{spelling}\": syntax error"
  | .incomplete => "incomplete input"
  | .unknownToken spelling => s!"unrecognized token: \"{spelling}\""

/-- A new table: its name, also as its parts are written, and its columns. It is made while it is
read, so a fault in the text keeps what was read before it. -/
structure Creation where
  name : TableName
  writtenDatabase : String
  written : String
  unlessExists : Bool
  columns : List String
  fault : Option ReadFault

/-- A table that a statement works on, with another name that it goes by there. -/
structure Source where
  name : TableName
  otherName : Option String

/-- A statement. Names are kept without their quotes. -/
inductive Statement where
  | empty
  | create (c : Creation)
  | drop (table : TableName) (ifExists : Bool)
  | insert (table : Source) (columns : Option (List String)) (rows : List (List Expression))
  | delete (table : TableName)
  | query (selected : List Selected) (table : Option Source) (sorting : List SortTerm)

def reservedWords : List String :=
  ["ADD", "ALL", "ALTER", "AND", "AS", "AUTOINCREMENT", "BETWEEN", "CASE", "CHECK", "COLLATE",
    "COMMIT", "CONSTRAINT", "CREATE", "DEFAULT", "DEFERRABLE", "DELETE", "DISTINCT", "DROP", "ELSE",
    "ESCAPE", "EXCEPT", "EXISTS", "FOREIGN", "FROM", "GROUP", "HAVING", "IN", "INDEX",
    "INSERT", "INTERSECT", "INTO", "IS", "ISNULL", "JOIN", "LIMIT", "NOT", "NOTHING", "NOTNULL",
    "NULL", "ON", "OR", "ORDER", "PRIMARY", "REFERENCES", "RETURNING", "SELECT", "SET", "TABLE",
    "THEN", "TO", "TRANSACTION", "UNION", "UNIQUE", "UPDATE", "USING", "VALUES", "WHEN", "WHERE"]

/-- The words of joins, which are names elsewhere. -/
def joinWords : List String :=
  ["CROSS", "FULL", "INNER", "LEFT", "NATURAL", "OUTER", "RIGHT"]

def operatorWords : List String := ["AND", "OR", "IS", "BETWEEN", "LIKE", "GLOB", "REGEXP", "MATCH"]
def operatorSigns : List String :=
  ["+", "-", "*", "/", "%", "<", ">", "<=", ">=", "<>", "!=", "=", "==", "||", "<<", ">>", "&", "|"]

namespace Token

def isGivenName (t : Token) : Bool :=
  match t.lexeme with
  | .word =>
    let w := t.keyword
    !reservedWords.contains w && !joinWords.contains w && w != "INDEXED"
  | .quotedName _ | .text _ => true
  | _ => false

/-- The name that a token is where an operand is due, if what stands before a point may be one. -/
def operandName? (t : Token) : Option String :=
  match t.lexeme with
  | .word =>
    let w := t.keyword
    if reservedWords.contains w || w == "CAST" || w == "RAISE" then none else some t.text
  | .quotedName n | .text n => some n
  | _ => none

def isOperator (t : Token) : Bool :=
  operatorWords.contains t.keyword || (t.lexeme == .sign && operatorSigns.contains t.text)

end Token

/-- A reader of tokens. It may also say which text could not be made into a token after them. -/
abbrev Reader (α : Type) : Type := StateT (List Token) (Except ReadFault) α

namespace Reader

def refuse {α : Type} : Reader α := fun
  | [] => .error .incomplete
  | t :: _ => .error (.near t.text)

def peek : Reader (Option Token) := fun ts => .ok (ts.head?, ts)

def take? (test : Token → Bool) : Reader (Option Token) := fun
  | t :: ts => if test t then .ok (some t, ts) else .ok (none, t :: ts)
  | [] => .ok (none, [])

def sign? (s : String) : Reader Bool := return (← take? (·.isSign s)).isSome
def word? (w : String) : Reader Bool := return (← take? (·.keyword == w)).isSome

def sign (s : String) : Reader Unit := do unless ← sign? s do refuse
def word (w : String) : Reader Unit := do unless ← word? w do refuse

/-- A name: a word that is not reserved, or anything in quotes. -/
def name : Reader String := do
  match ← peek with
  | some t =>
    match t.lexeme with
    | .word =>
      if reservedWords.contains t.keyword then refuse
      else let _ ← take? fun _ => true; return t.text
    | .quotedName n | .text n => let _ ← take? fun _ => true; return n
    | _ => refuse
  | none => refuse

/-- The name after a point, if a point comes next. -/
def afterPoint? : Reader (Option String) := do
  if ← sign? "." then return some (← name) else return none

def tableName : Reader TableName := do
  let first ← name
  match ← afterPoint? with
  | some table => return ⟨some first, table⟩
  | none => return ⟨none, first⟩

/-- An operand that starts with a name: the name of a column if points follow, and otherwise what the
name means alone. -/
def qualified (first : String) (alone : Expression) : Reader Expression := do
  match ← afterPoint? with
  | none => return alone
  | some second =>
    match ← afterPoint? with
    | none => return .name ⟨[first], second, false⟩
    | some third => return .name ⟨[first, second], third, false⟩

/-- The number that the characters of a decimal write: its digits, and the power of ten. -/
def decimalOf (cs : List Char) : Nat × Int :=
  let mantissa := cs.takeWhile fun c => c ≠ 'e' && c ≠ 'E'
  let (negative, exponent) := splitSign (cs.drop (mantissa.length + 1))
  let value (ds : List Char) : Nat := ofDigits 10 (ds.filterMap asciiDigit?)
  let places := (mantissa.dropWhile (· ≠ '.')).length - 1
  (value mantissa, signedInt negative (value exponent) - places)

/-- An expression; `fuel` bounds its nesting. Words that start other expressions than literals and
names are known, but no such expression is read to its end. -/
def expression : Nat → Reader Expression
  | 0 => refuse
  | fuel + 1 => do
    match ← peek with
    | none => refuse
    | some t =>
      let skip : Reader Unit := do let _ ← take? fun _ => true
      match t.lexeme with
      | .whole ds => skip; return .whole (ofDigits 10 (ds.filterMap asciiDigit?))
      | .hexadecimal ds => skip; return .hexadecimal (ofDigits 16 (ds.filterMap hexValue?)) t.text
      | .decimal cs => skip; let (ds, e) := decimalOf cs; return .decimal ds e
      | .text s => skip; qualified s (.text s)
      | .quotedName n =>
        skip
        qualified n (.name ⟨[], n, t.spelling.head? == some '"'⟩)
      | .word =>
        if t.keyword = "NULL" then skip; return .null
        else if ["CAST", "RAISE", "EXISTS"].contains t.keyword then skip; sign "("; refuse
        else if t.keyword = "NOT" then
          skip
          let _ ← expression fuel
          refuse
        else if t.keyword = "CASE" then
          skip
          unless ← word? "WHEN" do
            let _ ← expression fuel
            word "WHEN"
          refuse
        else if reservedWords.contains t.keyword then refuse
        else skip; qualified t.text (.name ⟨[], t.text, false⟩)
      | .sign =>
        if t.isSign "(" then
          skip
          let e ← expression fuel
          sign ")"
          return e
        else if t.isSign "-" then skip; return .minus (← expression fuel)
        else if t.isSign "+" then skip; return .plus (← expression fuel)
        else refuse

/-- One or more items with commas between them; `fuel` bounds their number. -/
def list {α : Type} (item : Reader α) : Nat → Reader (List α)
  | 0 => refuse
  | fuel + 1 => do
    let first ← item
    if ← sign? "," then return first :: (← list item fuel) else return [first]

def parenthesized {α : Type} (item : Reader α) (fuel : Nat) : Reader (List α) := do
  sign "("
  let items ← list item fuel
  sign ")"
  return items

/-- The words that start a clause about the columns of a new table or about one of them, with what has
to follow. -/
def clauses : List (String × List String) :=
  [("PRIMARY", ["KEY"]), ("UNIQUE", ["("]), ("CHECK", ["("]), ("FOREIGN", ["KEY", "("])]
def columnClauses : List (String × List String) :=
  [("PRIMARY", ["KEY"]), ("CHECK", ["("]), ("NOT", ["NULL"]), ("DEFAULT", []), ("CONSTRAINT", []),
    ("REFERENCES", []), ("COLLATE", []), ("AS", ["("])]

/-- The words that start a clause of a query, or of a deletion, with what has to follow. -/
def queryClauses : List (String × List String) :=
  [("WHERE", []), ("GROUP", ["BY"]), ("HAVING", []), ("LIMIT", [])]

/-- Goes into a clause, if one stands next. No clause is read to its end. -/
def refuseClause (known : List (String × List String)) : Reader Unit := do
  let word := ((← peek).map (·.keyword)).getD ""
  match known.lookup word with
  | some following =>
    let _ ← take? fun _ => true
    following.forM fun w => do
      unless (← take? fun t => t.keyword == w || t.isSign w).isSome do refuse
    refuse
  | none => return ()

/-- An operator and the operand after it, after which no text goes on. -/
def operand {α : Type} (fuel : Nat) : Reader α := do
  let _ ← take? fun _ => true
  let _ ← expression fuel
  refuse

/-- The name of a table before a point and a star, if that comes next. -/
def everyOf? : Reader (Option String) := fun ts =>
  match ts with
  | t :: point :: star :: rest =>
    match t.operandName? with
    | some table =>
      if point.isSign "." && star.isSign "*" then .ok (some table, rest) else .ok (none, ts)
    | none => .ok (none, ts)
  | _ => .ok (none, ts)

/-- One selected item; `whole` is the text that the tokens were taken from. -/
def selected (whole : List Char) (fuel : Nat) : Reader Selected := do
  if ← sign? "*" then return .every
  if let some table ← everyOf? then return .everyOf table
  let first ← peek
  let value ← expression fuel
  let following ← peek
  let start := (first.map (·.before)).getD 0
  let stop := (following.map (·.before)).getD 0
  let written := ((whole.drop (whole.length - start)).take (start - stop)).reverse
  let spelled := String.ofList (written.dropWhile isBlankInside).reverse
  if ← word? "AS" then return .column ⟨value, some (← name), spelled⟩
  match following with
  | some t =>
    if t.isOperator then operand fuel
    else if t.isGivenName then return .column ⟨value, some (← name), spelled⟩
    else return .column ⟨value, none, spelled⟩
  | none => return .column ⟨value, none, spelled⟩

/-- The table that a query reads, with the other name given to it. -/
def querySource : Reader Source := do
  let table ← tableName
  if ← word? "AS" then return ⟨table, some (← name)⟩
  if (← take? fun t => joinWords.contains t.keyword).isSome then refuse
  if ((← peek).map Token.isGivenName).getD false then return ⟨table, some (← name)⟩
  return ⟨table, none⟩

/-- The table that an insertion or a deletion works on, where another name needs its word. -/
def changedSource : Reader Source := do
  let table ← tableName
  if ← word? "AS" then return ⟨table, some (← name)⟩ else return ⟨table, none⟩

/-- The name of a new column; the words after it that name a type are of no consequence. -/
def newColumn : Nat → Reader String
  | 0 => refuse
  | fuel + 1 => do
    let column ← name
    skipWords fuel
    refuseClause columnClauses
    return column
where
  skipWords : Nat → Reader Unit
    | 0 => return ()
    | fuel + 1 => do
      if (← take? Token.isGivenName).isSome then skipWords fuel

/-- The columns of a new table up to the end of the statement: those that are followed by a comma or
by the closing sign, and the fault after them; `fuel` bounds their number. -/
def newColumns : Nat → List Token → List String × Option ReadFault
  | 0, _ => ([], some .incomplete)
  | fuel + 1, ts =>
    match (newColumn fuel).run ts with
    | .error fault => ([], some fault)
    | .ok (_, []) => ([], some .incomplete)
    | .ok (column, t :: rest) =>
      if t.isSign "," then
        match (refuseClause clauses).run rest with
        | .error fault => ([column], some fault)
        | .ok _ =>
          let (columns, fault) := newColumns fuel rest
          (column :: columns, fault)
      else if t.isSign ")" then
        match rest with
        | [] => ([column], none)
        | u :: _ => ([column], if u.isSign ";" then none else some (.near u.text))
      else ([], some (.near t.text))

/-- A new table after the word that announces it. -/
def creation (fuel : Nat) : Reader Creation := do
  let unlessExists ←
    if ← word? "IF" then do word "NOT"; word "EXISTS"; pure true else pure false
  let spelled : Reader String := do return ((← peek).map (·.text)).getD ""
  let writtenFirst ← spelled
  let first ← name
  let (table, written) ←
    if ← sign? "." then do
      let written ← spelled
      pure ((⟨some first, ← name⟩ : TableName), written)
    else pure (⟨none, first⟩, writtenFirst)
  sign "("
  let (columns, fault) := newColumns fuel (← get)
  set ([] : List Token)
  return ⟨table, writtenFirst, written, unlessExists, columns, fault⟩

def sortTerm (fuel : Nat) : Reader SortTerm := do
  let key ← expression fuel
  if ((← peek).map Token.isOperator).getD false then operand fuel
  if ← word? "DESC" then return ⟨key, true⟩
  let _ ← word? "ASC"
  return ⟨key, false⟩

/-- The start of a trigger. Triggers are not supported, so no text goes on from there. -/
def triggerHead : Reader Statement := do
  if ← word? "IF" then do word "NOT"; word "EXISTS"
  let _ ← name
  if ← word? "INSTEAD" then word "OF"
  else if !(← word? "BEFORE") then let _ ← word? "AFTER"
  if !(← word? "DELETE") && !(← word? "UPDATE") then word "INSERT"
  word "ON"
  let _ ← name
  refuse

/-- One statement, without the semicolon after it. -/
def statement (whole : List Char) (fuel : Nat) : Reader Statement := do
  match ← peek with
  | none => return .empty
  | some _ =>
    if ← word? "CREATE" then
      if !(← word? "TEMP") then let _ ← word? "TEMPORARY"
      if ← word? "TRIGGER" then return ← triggerHead
      word "TABLE"
      return .create (← creation fuel)
    else if ← word? "DROP" then
      word "TABLE"
      let ifExists ← if ← word? "IF" then do word "EXISTS"; pure true else pure false
      return .drop (← tableName) ifExists
    else if ← word? "INSERT" then
      word "INTO"
      let table ← changedSource
      let columns ← match ← peek with
        | some t => if t.isSign "(" then some <$> parenthesized name fuel else pure none
        | none => pure none
      word "VALUES"
      return .insert table columns (← list (parenthesized (expression fuel) fuel) fuel)
    else if ← word? "DELETE" then
      word "FROM"
      let table ← changedSource
      refuseClause queryClauses
      return .delete table.name
    else if ← word? "SELECT" then
      let columns ← list (selected whole fuel) fuel
      let table ← if ← word? "FROM" then some <$> querySource else pure none
      refuseClause queryClauses
      let sorting ← if ← word? "ORDER" then do word "BY"; list (sortTerm fuel) fuel else pure []
      refuseClause [("LIMIT", [])]
      return .query columns table sorting
    else refuse

end Reader

/-- Reads the one statement of a text. A spelling that is no token is reported where the tokens
before it could go on. -/
def Statement.read (sql : String) : Except ReadFault Statement :=
  let whole := sql.toList
  let fuel := whole.length + 1
  let (ts, unknown) := tokens fuel whole
  let answer : Except ReadFault Statement := do
    let (s, rest) ← (Reader.statement whole fuel).run (ts.dropWhile (·.isSign ";"))
    match rest with
    | [] => return s
    | t :: _ => if t.isSign ";" then return s else throw (.near t.text)
  match unknown, answer with
  | some spelling, .ok (.create c) =>
    let fault := match c.fault with
      | none | some .incomplete => .unknownToken spelling
      | some fault => fault
    .ok (.create { c with fault := some fault })
  | some spelling, .ok _ | some spelling, .error .incomplete => .error (.unknownToken spelling)
  | _, answer => answer

end Sql

end DocFilter
