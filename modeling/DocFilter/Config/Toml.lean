import DocFilter.Moment
import DocFilter.Text.Digits

/-!
# TOML

A reader of TOML documents. Tables that were declared, and values written inline, cannot be declared
or extended later; which ones these are is kept as marks on their key paths while reading.
-/

namespace DocFilter

namespace Toml

def skipSpace (cs : List Char) : List Char := cs.dropWhile fun c => c = ' ' || c = '\t'

/-- Control characters other than the tab, which no text or comment may hold. -/
def isForbidden (c : Char) : Bool := (c.toNat < 0x20 && c != '\t') || c.toNat = 0x7F

def skipComment : List Char → Except String (List Char)
  | '#' :: r =>
    if (r.takeWhile (· ≠ '\n')).any isForbidden then .error "Found invalid character"
    else .ok (r.dropWhile (· ≠ '\n'))
  | cs => .ok cs

/-- Space, comments and ends of lines between the items of an array; `fuel` bounds the lines. -/
def skipLines : Nat → List Char → Except String (List Char)
  | 0, cs => .ok cs
  | fuel + 1, cs => do
    match cs.dropWhile fun c => c = ' ' || c = '\t' || c = '\n' with
    | '#' :: r => skipLines fuel (← skipComment ('#' :: r))
    | rest => return rest

/-! ### Texts -/

def escaped? : Char → Option Char
  | 'b' => some '\x08'
  | 't' => some '\t'
  | 'n' => some '\n'
  | 'f' => some '\x0c'
  | 'r' => some '\r'
  | '"' => some '"'
  | '\\' => some '\\'
  | _ => none

def scalar (ds : List Char) : Except String Char :=
  match ds.mapM hexValue? with
  | some vs =>
    let n := ofDigits 16 vs
    if n < 0xD800 || (0xE000 ≤ n && n < 0x110000) then .ok (Char.ofNat n)
    else .error "Escaped character is not a Unicode scalar value"
  | none => .error "Invalid hex value"

/-- The escape after a backslash; none if it stands for nothing. -/
def readEscape (many : Bool) : List Char → Except String (Option Char × List Char)
  | 'u' :: r =>
    if r.length < 4 then .error "Invalid hex value"
    else (scalar (r.take 4)).map fun c => (some c, r.drop 4)
  | 'U' :: r =>
    if r.length < 8 then .error "Invalid hex value"
    else (scalar (r.take 8)).map fun c => (some c, r.drop 8)
  | c :: r =>
    if many && (c = ' ' || c = '\t' || c = '\n') then
      match skipSpace (c :: r) with
      | '\n' :: rest => .ok (none, rest.dropWhile fun d => d = ' ' || d = '\t' || d = '\n')
      | [] => .ok (none, [])
      | _ => .error "Unescaped '\\' in a string"
    else match escaped? c with
      | some e => .ok (some e, r)
      | none => .error "Unescaped '\\' in a string"
  | [] => .error "Unterminated string"

/-- Adds the quotes, at most two, that stand before the three that close a text. -/
def closeMany (q : Char) (acc : List Char) (r : List Char) : List Char × List Char :=
  match r with
  | a :: b :: rest =>
    if a = q then if b = q then (q :: q :: acc, rest) else (q :: acc, b :: rest) else (acc, r)
  | [a] => if a = q then (q :: acc, []) else (acc, r)
  | [] => (acc, r)

/-- A text with escapes up to its closing quote, or up to three if it may have `many` lines; `acc`
holds what was read, newest first. -/
def readBasic (many : Bool) (acc : List Char) :
    Nat → List Char → Except String (String × List Char)
  | 0, _ | _ + 1, [] => .error "Unterminated string"
  | fuel + 1, c :: r =>
    if c = '"' then
      if !many then .ok (String.ofList acc.reverse, r)
      else match r with
        | '"' :: '"' :: rest =>
          let (acc, rest) := closeMany '"' acc rest
          .ok (String.ofList acc.reverse, rest)
        | _ => readBasic many ('"' :: acc) fuel r
    else if c = '\\' then do
      let (e, rest) ← readEscape many r
      readBasic many (e.toList ++ acc) fuel rest
    else if isForbidden c && !(many && c = '\n') then .error "Illegal character"
    else readBasic many (c :: acc) fuel r

/-- A text without escapes up to its closing quote, or up to three. -/
def readLiteral (many : Bool) (acc : List Char) : List Char → Except String (String × List Char)
  | [] => .error "Unterminated string"
  | c :: r =>
    if c = '\x27' then
      if !many then .ok (String.ofList acc.reverse, r)
      else match r with
        | '\x27' :: '\x27' :: rest =>
          let (acc, rest) := closeMany '\x27' acc rest
          .ok (String.ofList acc.reverse, rest)
        | _ => readLiteral many ('\x27' :: acc) r
    else if isForbidden c && !(many && c = '\n') then .error "Illegal character"
    else readLiteral many (c :: acc) r

/-- A line end right after the quotes that open a text of many lines is not part of it. -/
def dropLineEnd : List Char → List Char
  | '\n' :: r => r
  | cs => cs

/-! ### Keys -/

def isBareKeyChar (c : Char) : Bool := c.isAlphanum || c = '-' || c = '_'

def readKeyPart (cs : List Char) : Except String (String × List Char) :=
  match cs with
  | '"' :: r => readBasic false [] (r.length + 1) r
  | '\x27' :: r => readLiteral false [] r
  | c :: r =>
    if isBareKeyChar c then
      .ok (String.ofList (c :: r.takeWhile isBareKeyChar), r.dropWhile isBareKeyChar)
    else .error "Invalid initial character for a key part"
  | [] => .error "Invalid initial character for a key part"

/-- A key: parts with dots between them. -/
def readKey : Nat → List Char → Except String (List String × List Char)
  | 0, _ => .error "Invalid key"
  | fuel + 1, cs => do
    let (part, r) ← readKeyPart cs
    match skipSpace r with
    | '.' :: rest =>
      let (parts, rest) ← readKey fuel (skipSpace rest)
      return (part :: parts, rest)
    | rest => return ([part], rest)

/-! ### Numbers -/

/-- Digits with single underscores between them, as many as there are. -/
def spanGrouped (isDigit : Char → Bool) : List Char → List Char × List Char
  | c :: r =>
    if isDigit c then
      let (ds, rest) := spanGrouped isDigit r
      (c :: ds, rest)
    else match c, r with
      | '_', d :: rest' =>
        if isDigit d then
          let (ds, rest) := spanGrouped isDigit (d :: rest')
          (ds, rest)
        else ([], c :: r)
      | _, _ => ([], c :: r)
  | [] => ([], [])
termination_by cs => cs.length

/-- One digit at least, the first not an underscore. -/
def readDigits (isDigit : Char → Bool) : List Char → Option (List Char × List Char)
  | c :: r => if isDigit c then some (spanGrouped isDigit (c :: r)) else none
  | [] => none

def digitsValue (ds : List Char) : Nat := ofDigits 10 (ds.filterMap asciiDigit?)

/-- A whole number in another base, after its leading zero. -/
def readBased : List Char → Option (Json × List Char)
  | 'x' :: r => do
    let (ds, rest) ← readDigits (fun c => (hexValue? c).isSome) r
    return (.int (ofDigits 16 (ds.filterMap hexValue?)), rest)
  | 'o' :: r => do
    let (ds, rest) ← readDigits (fun c => '0' ≤ c && c ≤ '7') r
    return (.int (ofDigits 8 (ds.filterMap asciiDigit?)), rest)
  | 'b' :: r => do
    let (ds, rest) ← readDigits (fun c => c = '0' || c = '1') r
    return (.int (ofDigits 2 (ds.filterMap asciiDigit?)), rest)
  | _ => none

def readDecimal (cs : List Char) : Option (Json × List Char) := do
  let (negative, r) := splitSign cs
  let (whole, r) ← match r with
    | '0' :: rest => some (['0'], rest)
    | r => readDigits Char.isDigit r
  let fraction := match r with
    | '.' :: rest => readDigits Char.isDigit rest
    | _ => none
  let r' := (fraction.map (·.2)).getD r
  let exponent : Option (Int × List Char) := match r' with
    | c :: rest =>
      if c = 'e' || c = 'E' then
        let (down, rest) := splitSign rest
        (readDigits Char.isDigit rest).map fun (ds, rest) => (signedInt down (digitsValue ds), rest)
      else none
    | [] => none
  match fraction, exponent with
  | none, none => return (.int (signedInt negative (digitsValue whole)), r)
  | _, _ =>
    let places := ((fraction.map (·.1)).getD [])
    let (e, rest) := exponent.getD (0, r')
    let digits := digitsValue (whole ++ places)
    return (.float (Binary64.ofDecimal negative digits (e - places.length)), rest)

/-- The values that are no numbers, with or without a sign. -/
def readSpecial (cs : List Char) : Option (Json × List Char) :=
  let (negative, r) := splitSign cs
  match r with
  | 'i' :: 'n' :: 'f' :: rest =>
    some (.float (if negative then Binary64.negInfinity else Binary64.infinity), rest)
  | 'n' :: 'a' :: 'n' :: rest => some (.float Binary64.nan, rest)
  | _ => none

/-- A number of `count` digits from `least` to `most`. -/
def readFixed (count least most : Nat) (cs : List Char) : Option (Nat × List Char) := do
  let ds ← (cs.take count).mapM asciiDigit?
  let n := ofDigits 10 ds
  if ds.length = count && least ≤ n && n ≤ most then return (n, cs.drop count) else none

def after (c : Char) : List Char → Option (List Char)
  | d :: r => if d = c then some r else none
  | [] => none

def microseconds (ds : List Char) : Nat := digitsValue ((ds ++ List.replicate 6 '0').take 6)

def readTime (cs : List Char) : Option (DayTime × List Char) := do
  let (hour, r) ← readFixed 2 0 23 cs
  let (minute, r) ← readFixed 2 0 59 (← after ':' r)
  let (second, r) ← readFixed 2 0 59 (← after ':' r)
  let fraction := (((after '.' r).map fun r => r.takeWhile Char.isDigit)).getD []
  if fraction.isEmpty then return (⟨hour, minute, second, 0⟩, r)
  else return (⟨hour, minute, second, microseconds fraction⟩, r.drop (fraction.length + 1))

def readDay (cs : List Char) : Option (Day × List Char) := do
  let (year, r) ← readFixed 4 0 9999 cs
  let (month, r) ← readFixed 2 1 12 (← after '-' r)
  let (day, r) ← readFixed 2 1 31 (← after '-' r)
  return (⟨year, month, day⟩, r)

/-- An offset from universal time, in minutes. -/
def readOffset : List Char → Option (Int × List Char)
  | 'Z' :: r | 'z' :: r => some (0, r)
  | c :: r => do
    if c != '+' && c != '-' then none
    let (hours, r) ← readFixed 2 0 23 r
    let (minutes, r) ← readFixed 2 0 59 (← after ':' r)
    return (signedInt (c = '-') (60 * hours + minutes), r)
  | [] => none

/-- A day, a time of day, or both, at the front. -/
def readMoment (cs : List Char) : Option (Moment × List Char) :=
  match readDay cs with
  | none => (readTime cs).map fun (t, r) => (.time t, r)
  | some (d, r) =>
    let time := match r with
      | c :: r => if c = 'T' || c = 't' || c = ' ' then readTime r else none
      | [] => none
    match time with
    | none => some (.day d, r)
    | some (t, r) =>
      match readOffset r with
      | some (offset, r) => some (.both d t (some offset), r)
      | none => some (.both d t none, r)

def readNumber (cs : List Char) : Except String (Json × List Char) :=
  match readMoment cs with
  | some (m, rest) =>
    if m.fault?.isSome then .error "Invalid date or datetime" else .ok (m.toJson, rest)
  | none =>
    let based := match cs with
      | '0' :: r => readBased r
      | _ => none
    match based.or ((readDecimal cs).or (readSpecial cs)) with
    | some result => .ok result
    | none => .error "Invalid value"

/-! ### Tables -/

/-- What a key path cannot be used for any more. -/
inductive Mark where
  /-- The table was declared by a header of its own. -/
  | declared
  /-- The value was written inline, and it and everything in it is final. -/
  | final
deriving DecidableEq

/-- The marked key paths. A final path covers all paths under it. -/
abbrev Marks := List (List String × Mark)

namespace Marks

def isDeclared (ms : Marks) (path : List String) : Bool :=
  path != [] && ms.any fun (p, m) => m == .declared && p == path

def isFinal (ms : Marks) (path : List String) : Bool :=
  path != [] && ms.any fun (p, m) => m == .final && p.isPrefixOf path

def release (ms : Marks) (path : List String) : Marks := ms.filter fun (p, _) => !path.isPrefixOf p

end Marks

/-- Changes the table at a path, making the tables on the way. The last table of an array of tables
stands for the array if `through` allows it. -/
def changeTable (through : Bool) (change : Fields → Option Fields) :
    List String → Fields → Option Fields
  | [], fs => change fs
  | k :: ks, fs =>
    match fs.get? k with
    | none => (changeTable through change ks []).map fun sub => fs.set k (.obj sub)
    | some (.obj sub) => (changeTable through change ks sub).map fun sub => fs.set k (.obj sub)
    | some (.arr items) =>
      match through, items.getLast? with
      | true, some (.obj sub) =>
        (changeTable through change ks sub).map fun sub =>
          fs.set k (.arr (items.dropLast ++ [.obj sub]))
      | _, _ => none
    | some _ => none

def addField (key : String) (v : Json) (fs : Fields) : Option Fields :=
  if Fields.has fs key then none else some (fs.set key v)

def addTable (key : String) (fs : Fields) : Option Fields :=
  match fs.get? key with
  | none => some (fs.set key (.arr [.obj []]))
  | some (.arr items) => some (fs.set key (.arr (items ++ [.obj []])))
  | some _ => none

/-- Whether a value is a table or array, and so final once it is written inline. -/
def isContainer : Json → Bool
  | .arr _ | .obj _ => true
  | _ => false

def overwriting : String := "Cannot overwrite a value"

mutual

/-- A value; `fuel` bounds the nesting and the number of items. -/
def readValue : Nat → List Char → Except String (Json × List Char)
  | 0, _ => .error "Invalid value"
  | fuel + 1, cs =>
    let text (r : Except String (String × List Char)) : Except String (Json × List Char) :=
      r.map fun (s, rest) => (.str s, rest)
    match cs with
    | '"' :: '"' :: '"' :: r => text (readBasic true [] (r.length + 1) (dropLineEnd r))
    | '"' :: r => text (readBasic false [] (r.length + 1) r)
    | '\x27' :: '\x27' :: '\x27' :: r => text (readLiteral true [] (dropLineEnd r))
    | '\x27' :: r => text (readLiteral false [] r)
    | 't' :: 'r' :: 'u' :: 'e' :: r => .ok (.bool true, r)
    | 'f' :: 'a' :: 'l' :: 's' :: 'e' :: r => .ok (.bool false, r)
    | '[' :: r => do
      match ← skipLines (r.length + 1) r with
      | ']' :: rest => return (.arr [], rest)
      | first =>
        let (items, rest) ← readItems fuel first
        return (.arr items, rest)
    | '\x7b' :: r =>
      match skipSpace r with
      | '\x7d' :: rest => .ok (.obj [], rest)
      | first => do
        let (fields, rest) ← readInline fuel [] [] first
        return (.obj fields, rest)
    | cs => readNumber cs

/-- The items of an array, starting at the first. -/
def readItems : Nat → List Char → Except String (List Json × List Char)
  | 0, _ => .error "Unclosed array"
  | fuel + 1, cs => do
    let (v, r) ← readValue fuel cs
    match ← skipLines (r.length + 1) r with
    | ']' :: rest => return ([v], rest)
    | ',' :: r =>
      match ← skipLines (r.length + 1) r with
      | ']' :: rest => return ([v], rest)
      | next =>
        let (vs, rest) ← readItems fuel next
        return (v :: vs, rest)
    | _ => throw "Unclosed array"

/-- The fields of an inline table, starting at the first. -/
def readInline : Nat → Marks → Fields → List Char → Except String (Fields × List Char)
  | 0, _, _, _ => .error "Unclosed inline table"
  | fuel + 1, marks, fields, cs => do
    let (key, r) ← readKey (cs.length + 1) cs
    match r with
    | '=' :: r =>
      let (v, r) ← readValue fuel (skipSpace r)
      if marks.isFinal key then throw "Cannot mutate immutable namespace"
      match changeTable false (addField (key.getLast?.getD "") v) key.dropLast fields with
      | none => throw overwriting
      | some fields =>
        match skipSpace r with
        | '\x7d' :: rest => return (fields, rest)
        | ',' :: rest =>
          let marks := if isContainer v then (key, .final) :: marks else marks
          readInline fuel marks fields (skipSpace rest)
        | _ => throw "Unclosed inline table"
    | _ => throw "Expected '=' after a key in a key/value pair"

end

/-- A document under way: its fields, the marks, the path of the current table, and the paths that
will be declared when the next header comes. -/
structure Draft where
  fields : Fields
  marks : Marks
  header : List String
  pending : List (List String)

def Draft.settle (d : Draft) : Draft :=
  { d with marks := d.pending.map (·, .declared) ++ d.marks, pending := [] }

/-- A table header, after its bracket. -/
def readTable (d : Draft) (cs : List Char) : Except String (Draft × List Char) := do
  let (key, r) ← readKey (cs.length + 1) (skipSpace cs)
  if d.marks.isDeclared key || d.marks.isFinal key then throw "Cannot declare a table twice"
  match changeTable true some key d.fields with
  | none => throw overwriting
  | some fields =>
    match r with
    | ']' :: rest =>
      let marks := (key, .declared) :: d.marks
      return ({ d with fields := fields, marks := marks, header := key }, rest)
    | _ => throw "Expected ']' at the end of a table declaration"

/-- The header of one more table of an array, after its brackets. -/
def readArrayTable (d : Draft) (cs : List Char) : Except String (Draft × List Char) := do
  let (key, r) ← readKey (cs.length + 1) (skipSpace cs)
  if d.marks.isFinal key then throw "Cannot mutate immutable namespace"
  match changeTable true (addTable (key.getLast?.getD "")) key.dropLast d.fields with
  | none => throw overwriting
  | some fields =>
    match r with
    | ']' :: ']' :: rest =>
      let marks := (key, .declared) :: d.marks.release key
      return ({ d with fields := fields, marks := marks, header := key }, rest)
    | _ => throw "Expected ']]' at the end of an array declaration"

def readPair (d : Draft) (cs : List Char) : Except String (Draft × List Char) := do
  let (key, r) ← readKey (cs.length + 1) cs
  match r with
  | '=' :: r =>
    let r := skipSpace r
    let (v, rest) ← readValue (r.length + 1) r
    let opened := (List.range key.length).drop 1 |>.map fun n => d.header ++ key.take n
    if opened.any d.marks.isDeclared then throw "Cannot redefine namespace"
    let parent := d.header ++ key.dropLast
    if d.marks.isFinal parent then throw "Cannot mutate immutable namespace"
    match changeTable true (addField (key.getLast?.getD "") v) parent d.fields with
    | none => throw overwriting
    | some fields =>
      let marks := if isContainer v then (d.header ++ key, .final) :: d.marks else d.marks
      return ({ d with fields := fields, marks := marks, pending := opened ++ d.pending }, rest)
  | _ => throw "Expected '=' after a key in a key/value pair"

def readLine (d : Draft) (cs : List Char) : Except String (Draft × List Char) :=
  match cs with
  | '[' :: '[' :: r => readArrayTable d.settle r
  | '[' :: r => readTable d.settle r
  | c :: _ =>
    if isBareKeyChar c || c = '"' || c = '\x27' then readPair d cs
    else .error "Invalid statement"
  | [] => .ok (d, [])

/-- The lines of a document; `fuel` bounds their number. -/
def readLines : Nat → Draft → List Char → Except String Fields
  | 0, d, _ => .ok d.fields
  | fuel + 1, d, cs => do
    let cs := skipSpace cs
    let (d, r) ← if cs.head?.all fun c => c = '\n' || c = '#' then pure (d, cs) else readLine d cs
    match ← skipComment (skipSpace r) with
    | [] => return d.fields
    | '\n' :: rest => readLines fuel d rest
    | _ => throw "Expected newline or end of document after a statement"

def unifyPairs : List Char → List Char
  | '\r' :: '\n' :: cs => '\n' :: unifyPairs cs
  | c :: cs => c :: unifyPairs cs
  | [] => []

def parse (text : String) : Except String Fields :=
  let cs := unifyPairs text.toList
  readLines (cs.length + 1) ⟨[], [], [], []⟩ cs

end Toml

end DocFilter
