import DocFilter.Decimal.Shortest
import DocFilter.Json.Value
import DocFilter.Text.Quoted

/-!
# Written JSON

A value as JSON text: compact without any space, or with every item on a line of its own. Keys that
are no texts are written as the text of their value. A foreign value, which JSON has no form for,
stands as a text, and a pair as a list of its two parts.
-/

namespace DocFilter

namespace Json

/-- One character of a string. Only the quote, the backslash and control characters are escaped. -/
def escapeChar (c : Char) : List Char :=
  if c = '"' then ['\\', '"']
  else if c = '\\' then ['\\', '\\']
  else if c = '\n' then ['\\', 'n']
  else if c = '\r' then ['\\', 'r']
  else if c = '\t' then ['\\', 't']
  else if c = '\x08' then ['\\', 'b']
  else if c = '\x0c' then ['\\', 'f']
  else if c.toNat < 0x20 then '\\' :: 'u' :: hexDigits 4 c.toNat
  else [c]

def writeString (s : String) : List Char := '"' :: s.toList.flatMap escapeChar ++ ['"']

def writeInt (n : Int) : List Char :=
  if n < 0 then '-' :: Nat.toDigits 10 n.natAbs else Nat.toDigits 10 n.natAbs

/-- The space around the parts of arrays and objects: the step of indentation, or none at all. -/
abbrev Spacing := Option Nat

def Spacing.lineBreak : Spacing → Nat → List Char
  | none, _ => []
  | some step, level => '\n' :: List.replicate (step * level) ' '

def Spacing.afterKey : Spacing → List Char
  | none => [':']
  | some _ => [':', ' ']

/-- The text that stands for a key. -/
def keyText : Json → String
  | .null => "null"
  | .bool true => "true"
  | .bool false => "false"
  | .int n => String.ofList (writeInt n)
  | .float x => Decimal.inJson.text x
  | .str s => s
  | .foreign v => v.text
  | .arr _ | .pair .. | .obj _ | .table _ => ""

mutual

/-- The text of a value at a nesting level. -/
def write (spacing : Spacing) (level : Nat) : Json → List Char
  | .null => ['n', 'u', 'l', 'l']
  | .bool true => ['t', 'r', 'u', 'e']
  | .bool false => ['f', 'a', 'l', 's', 'e']
  | .int n => writeInt n
  | .float x => (Decimal.inJson.text x).toList
  | .str s => writeString s
  | .arr [] => ['[', ']']
  | .arr (v :: vs) =>
    '[' :: (spacing.lineBreak (level + 1) ++ write spacing (level + 1) v ++
      writeItems spacing (level + 1) vs ++ (spacing.lineBreak level ++ [']']))
  | .pair v w =>
    '[' :: (spacing.lineBreak (level + 1) ++ write spacing (level + 1) v ++
      (',' :: (spacing.lineBreak (level + 1) ++ write spacing (level + 1) w)) ++
      (spacing.lineBreak level ++ [']']))
  | .obj [] => ['\x7b', '\x7d']
  | .obj ((k, v) :: fs) =>
    '\x7b' :: (spacing.lineBreak (level + 1) ++ (writeString k ++ spacing.afterKey ++
      write spacing (level + 1) v) ++ writeFields spacing (level + 1) fs ++
      (spacing.lineBreak level ++ ['\x7d']))
  | .table [] => ['\x7b', '\x7d']
  | .table ((k, v) :: rest) =>
    '\x7b' :: (spacing.lineBreak (level + 1) ++ (writeString (keyText k) ++ spacing.afterKey ++
      write spacing (level + 1) v) ++ writeEntries spacing (level + 1) rest ++
      (spacing.lineBreak level ++ ['\x7d']))
  | .foreign v => writeString v.text

def writeItems (spacing : Spacing) (level : Nat) : List Json → List Char
  | [] => []
  | v :: vs =>
    ',' :: (spacing.lineBreak level ++ write spacing level v ++ writeItems spacing level vs)

def writeFields (spacing : Spacing) (level : Nat) : Fields → List Char
  | [] => []
  | (k, v) :: fs =>
    ',' :: (spacing.lineBreak level ++ (writeString k ++ spacing.afterKey ++
      write spacing level v) ++ writeFields spacing level fs)

def writeEntries (spacing : Spacing) (level : Nat) : List (Json × Json) → List Char
  | [] => []
  | (k, v) :: rest =>
    ',' :: (spacing.lineBreak level ++ (writeString (keyText k) ++ spacing.afterKey ++
      write spacing level v) ++ writeEntries spacing level rest)

end

def render (spacing : Spacing) (v : Json) : String := String.ofList (write spacing 0 v)

def compact (v : Json) : String := render none v

theorem toList_render (spacing : Spacing) (v : Json) :
    (render spacing v).toList = write spacing 0 v := by simp [render]

end Json

end DocFilter
