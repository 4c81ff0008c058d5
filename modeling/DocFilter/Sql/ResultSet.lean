import DocFilter.Document.Node
import DocFilter.Sql.Tables
import DocFilter.Text.Lines

/-!
# Showing result sets

A result set as a grid of text or as a table of the document. Both show the same cells, and both say
so when there is nothing to show.
-/

namespace DocFilter

namespace Sql

namespace ResultSet

def cellText : Json → String
  | .null => ""
  | v => v.shown

def isEmpty (r : ResultSet) : Bool := r.columns.isEmpty || r.rows.isEmpty

def cells (r : ResultSet) : List (List String) := r.rows.map (·.map cellText)

/-- Widths that are wide enough for a row too. There is none for a row that is too long. -/
def widen : List Nat → List String → Option (List Nat)
  | ws, [] => some ws
  | [], _ :: _ => none
  | w :: ws, c :: cs => (widen ws cs).map (max w c.length :: ·)

def widths? (r : ResultSet) : Option (List Nat) :=
  r.cells.foldlM widen (r.columns.map String.length)

def gridRow (widths : List Nat) (cells : List String) : String :=
  joinWith " | " ((cells.zip widths).map fun (c, w) => padRight c w)

def rule (widths : List Nat) : String := joinWith "-+-" (widths.map (repeatChar '-'))

/-- The grid, unless a row is longer than the header. -/
def grid? (r : ResultSet) : Option String :=
  if r.isEmpty then some "No results"
  else r.widths?.map fun ws =>
    joinWith "\n" (gridRow ws r.columns :: rule ws :: r.cells.map (gridRow ws))

def tableCell (text : String) : Json :=
  .arr [Attr.empty.toJson, Node.bare "AlignDefault", .int 1, .int 1,
    .arr [Node.plain [Node.str (.str text)]]]

def tableRow (cells : List String) : Json := .arr [Attr.empty.toJson, .arr (cells.map tableCell)]

def table (r : ResultSet) : Json :=
  if r.isEmpty then Node.para [Node.str (.str "No results")]
  else
    let attr := Attr.empty.toJson
    Node.of "Table" (.arr [attr, .arr [.null, .arr []],
      .arr (r.columns.map fun _ => .arr [Node.bare "AlignDefault", Node.bare "ColWidthDefault"]),
      .arr [attr, .arr [tableRow r.columns]],
      .arr [.arr [attr, .int 0, .arr [], .arr (r.cells.map tableRow)]],
      .arr [attr, .arr []]])

end ResultSet

end Sql

end DocFilter
