import DocFilter.Text.Lines

/-!
# Frames

Panels and tables drawn with lines, for a screen of a fixed width. Texts are broken between words;
in a table that would be too wide the widest column gives way.
-/

namespace DocFilter

namespace Frame

def screen : Nat := 80

def fill (width : Nat) (line : String) : List String → List String
  | [] => [line]
  | w :: ws =>
    let longer := line ++ " " ++ w
    if longer.length ≤ width then fill width longer ws else line :: fill width w ws

def wrap (width : Nat) (text : String) : List String :=
  match splitAtChar ' ' text with
  | [] => [""]
  | w :: ws => fill width w ws

/-- A text in the middle of a line filled up with a character; what is odd goes to the right. -/
def centered (c : Char) (width : Nat) (text : String) : String :=
  let space := width - text.length
  repeatChar c (space / 2) ++ text ++ repeatChar c (space - space / 2)

/-- A panel over the width of the screen, with a title in its upper edge. -/
def panel (title : String) (texts : List String) : List String :=
  let width := screen - 4
  let edge (left right : String) (middle : String) : String := left ++ middle ++ right
  let lines := texts.flatMap (wrap width)
  [edge "╭" "╮" (centered '─' (width + 2) (" " ++ title ++ " "))] ++
    lines.map (fun line => "│ " ++ padRight line width ++ " │") ++
    [edge "╰" "╯" (repeatChar '─' (width + 2))]

/-- The widths of columns after the widest has given way by a number of characters. -/
def narrowed (excess : Nat) (widths : List Nat) : List Nat :=
  let widest := widths.foldl max 0
  widths.map fun w => if w = widest then w - excess else w

/-- The widths of the columns of a table, whose rows are given with the header. -/
def columnWidths (header : List String) (rows : List (List String)) : List Nat :=
  let widths := rows.foldl (fun ws row => ws.zipWith (fun w cell => max w cell.length) row)
    (header.map String.length)
  let total := widths.foldl (· + ·) 0 + 3 * widths.length + 1
  narrowed (total - screen) widths

def rule (left middle right : String) (line : Char) (widths : List Nat) : String :=
  left ++ joinWith middle (widths.map fun w => repeatChar line (w + 2)) ++ right

def rowLines (edge : String) (widths : List Nat) (cells : List String) : List String :=
  let wrapped := widths.zipWith wrap cells
  let height := (wrapped.map List.length).foldl max 0
  (List.range height).map fun i =>
    let part (w : Nat) (lines : List String) := " " ++ padRight (lines[i]?.getD "") w ++ " "
    let parts := widths.zipWith part wrapped
    edge ++ joinWith edge parts ++ edge

def table (title : String) (header : List String) (rows : List (List String)) : List String :=
  let widths := columnWidths header rows
  let above := rule "┏" "┳" "┓" '━' widths
  [centered ' ' above.length title, above] ++ rowLines "┃" widths header ++
    [rule "┡" "╇" "┩" '━' widths] ++ rows.flatMap (rowLines "│" widths) ++
    [rule "└" "┴" "┘" '─' widths]

end Frame

end DocFilter
