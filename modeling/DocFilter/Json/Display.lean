import DocFilter.Decimal.Shortest
import DocFilter.Json.Value
import DocFilter.Text.Lines
import DocFilter.Text.Quoted

/-!
# Values as shown text

A value as it is shown to a reader: a text stands as it is, and is in quotes only inside a list or
table of values.
-/

namespace DocFilter

namespace Json

mutual

/-- A value as it stands inside a list or table. -/
def shownInside : Json → String
  | .null => "None"
  | .bool true => "True"
  | .bool false => "False"
  | .int n => toString n
  | .float x => Decimal.shown.text x
  | .str s => quoted s
  | .arr items => "[" ++ joinWith ", " (shownItems items) ++ "]"
  | .pair v w => "(" ++ shownInside v ++ ", " ++ shownInside w ++ ")"
  | .obj fields => "\x7b" ++ joinWith ", " (shownFields fields) ++ "\x7d"
  | .table entries => "\x7b" ++ joinWith ", " (shownEntries entries) ++ "\x7d"
  | .foreign v => v.text

def shownItems : List Json → List String
  | [] => []
  | v :: vs => shownInside v :: shownItems vs

def shownFields : List (String × Json) → List String
  | [] => []
  | (k, v) :: fs => (quoted k ++ ": " ++ shownInside v) :: shownFields fs

def shownEntries : List (Json × Json) → List String
  | [] => []
  | (k, v) :: rest => (shownInside k ++ ": " ++ shownInside v) :: shownEntries rest

end

def shown : Json → String
  | .str s => s
  | v => shownInside v

@[simp] theorem shown_str (s : String) : shown (.str s) = s := rfl

end Json

end DocFilter
