import DocFilter.Command.Arguments

/-!
# Help

The help of a command line: usage, what it is for, its arguments by groups, and closing remarks. All
explanations start in one column, which is as far left as the names allow.
-/

namespace DocFilter

namespace Command

def greatestColumn : Nat := 24

/-- The names of an option, each with the placeholder of its value. -/
def Switch.invocation {σ : Type} (s : Switch σ) : String :=
  match s.effect with
  | .valued placeholder _ => joinWith ", " (s.names.map (· ++ " " ++ placeholder))
  | _ => joinWith ", " s.names

/-- What is explained, with its explanation: on one line if it leaves a gap before the column. -/
def explained (column : Nat) (name : String) (lines : List String) : List String :=
  let margin := repeatChar ' ' column
  let below (lines : List String) : List String := lines.map (margin ++ ·)
  match lines with
  | [] => ["  " ++ name]
  | first :: rest =>
    if name.length + 4 ≤ column then (padRight ("  " ++ name) column ++ first) :: below rest
    else ("  " ++ name) :: below (first :: rest)

namespace Grammar

variable {σ : Type}

def usageLine (g : Grammar σ) : String := "usage: " ++ g.usage

def column (g : Grammar σ) : Nat :=
  let names := g.placeName :: g.switches.map Switch.invocation
  min greatestColumn (names.foldl (fun n name => max n (name.length + 4)) 0)

/-- The titles of the groups of options: the common one first, the others as they come. -/
def groups (g : Grammar σ) : List String :=
  g.switches.foldl (fun titles s => if titles.contains s.group then titles else titles ++ [s.group])
    ["options"]

def groupLines (g : Grammar σ) (title : String) : List String :=
  (title ++ ":") :: (g.switches.filter (·.group == title)).flatMap fun s =>
    explained g.column s.invocation s.help

def help (g : Grammar σ) : String :=
  let place := "positional arguments:" :: explained g.column g.placeName g.placeHelp
  let closing := if g.epilogue.isEmpty then [] else [g.epilogue]
  let blocks := [[g.usageLine], [g.description], place] ++ g.groups.map g.groupLines ++ closing
  joinWith "\n\n" (blocks.map (joinWith "\n")) ++ "\n"

end Grammar

/-- What the reading of a command line writes when it ends without settings: the text for the
standard output, the text for the error stream, and the exit code. -/
def Stop.report {σ : Type} (g : Grammar σ) : Stop → String × String × Nat
  | .help => (g.help, "", 0)
  | .answer text => (text ++ "\n", "", 0)
  | .misuse message => ("", g.usageLine ++ "\n" ++ g.program ++ ": error: " ++ message ++ "\n", 2)

end Command

end DocFilter
