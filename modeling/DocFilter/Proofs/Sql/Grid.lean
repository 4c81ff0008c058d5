import DocFilter.Sql.ResultSet
import Mathlib.Algebra.GroupWithZero.Nat
import Mathlib.Data.List.Forall2
import Mathlib.Order.Bounds.Basic

/-!
# The grid of a result set

The widths of the columns grow row by row to the greatest length of what stands in them, and every
line of the grid is made for these widths, so that a cell has the same place in each of them. The
table of the document is read back to the same cells.
-/

namespace DocFilter

/-! ### Places in joined texts -/

section Joined
variable (sep : String) {parts : List String} {k : Nat}

theorem joinWith_cons_cons (s t : String) (rest : List String) :
    joinWith sep (s :: t :: rest) = s ++ sep ++ joinWith sep (t :: rest) := rfl

theorem length_joinWith (parts : List String) :
    (joinWith sep parts).length =
      (parts.map String.length).sum + sep.length * (parts.length - 1) := by
  induction parts with
  | nil => rfl
  | cons s rest ih =>
    cases rest with
    | nil => simp [joinWith]
    | cons t rest =>
      rw [joinWith_cons_cons, String.length_append, String.length_append, ih]
      simp only [List.map_cons, List.sum_cons, List.length_cons, Nat.add_sub_cancel, Nat.mul_succ]
      omega

/-- What is left of a joined text where a part begins is made of the parts from there on. -/
theorem drop_joinWith (hk : k < parts.length) :
    (joinWith sep parts).toList.drop (((parts.map String.length).take k).sum + sep.length * k) =
      (joinWith sep (parts.drop k)).toList := by
  induction k generalizing parts with
  | zero => simp
  | succ k ih =>
    obtain _ | ⟨s, _ | ⟨t, rest⟩⟩ := parts
    · simp at hk
    · simp at hk
    · have hplace : (((s :: t :: rest).map String.length).take (k + 1)).sum + sep.length * (k + 1) =
          (s ++ sep).toList.length +
            ((((t :: rest).map String.length).take k).sum + sep.length * k) := by
        simp only [List.map_cons, List.take_succ_cons, List.sum_cons, String.length_toList,
          String.length_append, Nat.mul_succ]
        omega
      rw [joinWith_cons_cons, String.toList_append, hplace, List.drop_length_add_append,
        List.drop_succ_cons]
      exact ih (Nat.lt_of_succ_lt_succ hk)

/-- A part of a joined text, at its place. -/
theorem take_drop_joinWith (hk : k < parts.length) :
    ((joinWith sep parts).toList.drop (((parts.map String.length).take k).sum +
      sep.length * k)).take parts[k].length = parts[k].toList := by
  rw [drop_joinWith sep hk, List.drop_eq_getElem_cons hk]
  cases parts.drop (k + 1) with
  | nil => rw [joinWith, ← String.length_toList, List.take_length]
  | cons t rest =>
    rw [joinWith_cons_cons, String.append_assoc, String.toList_append, ← String.length_toList,
      List.take_left]

/-- What stands after a part that is not the last. -/
theorem take_drop_joinWith_sep (hk : k + 1 < parts.length) :
    ((joinWith sep parts).toList.drop (((parts.map String.length).take (k + 1)).sum +
      sep.length * k)).take sep.length = sep.toList := by
  have hlt : k < parts.length := Nat.lt_of_succ_lt hk
  have hplace : ((parts.map String.length).take (k + 1)).sum + sep.length * k =
      (((parts.map String.length).take k).sum + sep.length * k) + parts[k].toList.length := by
    rw [List.take_add_one, List.getElem?_map, List.getElem?_eq_getElem hlt]
    simp only [Option.map_some, Option.toList_some, List.sum_append, List.sum_singleton,
      String.length_toList]
    omega
  rw [hplace, ← List.drop_drop, drop_joinWith sep hlt, List.drop_eq_getElem_cons hlt,
    List.drop_eq_getElem_cons hk, joinWith_cons_cons, String.append_assoc, String.toList_append,
    List.drop_left, String.toList_append, ← String.length_toList, List.take_left]

end Joined

namespace Sql

namespace ResultSet

/-! ### Widths -/

def lengthsAt (k : Nat) (rows : List (List String)) : Set Nat :=
  {l | ∃ cells ∈ rows, ∃ c, cells[k]? = some c ∧ c.length = l}

/-- Widths of which each is the greatest length in its column. -/
def AreWidths (ws : List Nat) (rows : List (List String)) : Prop :=
  ∀ k w, ws[k]? = some w → IsGreatest (lengthsAt k rows) w

theorem lengthsAt_singleton {k : Nat} {cells : List String} {c : String}
    (h : cells[k]? = some c) : lengthsAt k [cells] = {c.length} := by
  ext l
  constructor
  · rintro ⟨cells', hcells, c', hc, rfl⟩
    rw [List.mem_singleton.mp hcells, h] at hc
    cases hc
    rfl
  · rintro rfl
    exact ⟨cells, List.mem_singleton_self cells, c, h, rfl⟩

theorem lengthsAt_append (k : Nat) (rows more : List (List String)) :
    lengthsAt k (rows ++ more) = lengthsAt k rows ∪ lengthsAt k more := by
  ext l
  simp only [lengthsAt, List.mem_append, or_and_right, exists_or, Set.mem_ofPred_eq, Set.mem_union]

theorem areWidths_header (columns : List String) :
    AreWidths (columns.map String.length) [columns] := by
  intro k w hw
  rw [List.getElem?_map, Option.map_eq_some_iff] at hw
  obtain ⟨c, hc, rfl⟩ := hw
  rw [lengthsAt_singleton hc]
  exact isGreatest_singleton

theorem widen_eq {ws : List Nat} {cells : List String} (h : cells.length = ws.length) :
    widen ws cells = some (List.zipWith (fun w c => max w c.length) ws cells) := by
  induction ws generalizing cells with
  | nil =>
    rw [List.length_nil, List.length_eq_zero_iff] at h
    rw [h]
    rfl
  | cons w ws ih =>
    cases cells with
    | nil => cases h
    | cons c cs =>
      rw [widen, ih (Nat.succ_injective h)]
      rfl

theorem AreWidths.zipWith_max {ws : List Nat} {rows : List (List String)} {cells : List String}
    (h : AreWidths ws rows) :
    AreWidths (List.zipWith (fun w c => max w c.length) ws cells) (rows ++ [cells]) := by
  intro k w' hw'
  obtain ⟨w, c, hw, hc, rfl⟩ := List.getElem?_zipWith_eq_some.mp hw'
  rw [lengthsAt_append, lengthsAt_singleton hc]
  exact (h k w hw).union isGreatest_singleton

/-- Widths grow to the greatest lengths in what was seen and what is still to come. -/
theorem AreWidths.foldlM_widen {rows more : List (List String)} {ws : List Nat}
    (h : AreWidths ws rows) (hmore : ∀ cells ∈ more, cells.length = ws.length) :
    ∃ ws', more.foldlM widen ws = some ws' ∧ ws'.length = ws.length ∧
      AreWidths ws' (rows ++ more) := by
  induction more generalizing ws rows with
  | nil => exact ⟨ws, rfl, rfl, by rwa [List.append_nil]⟩
  | cons cells more ih =>
    have hcells : cells.length = ws.length := hmore cells List.mem_cons_self
    have hlength : (List.zipWith (fun w c => max w c.length) ws cells).length = ws.length := by
      rw [List.length_zipWith, hcells, Nat.min_self]
    have hstep : AreWidths (List.zipWith (fun w c => max w c.length) ws cells) (rows ++ [cells]) :=
      h.zipWith_max
    obtain ⟨ws', hws', hlength', hwidths⟩ := ih hstep fun c hc => by
      rw [hlength]
      exact hmore c (List.mem_cons_of_mem cells hc)
    refine ⟨ws', ?_, hlength'.trans hlength, ?_⟩
    · rw [List.foldlM_cons, widen_eq hcells]
      exact hws'
    · rwa [List.append_assoc] at hwidths

/-! ### Lines -/

/-- A line in which every cell begins at the place of its column and is followed by spaces up to its
width, with a separator of three characters between each two. -/
structure Aligned (ws : List Nat) (sep : String) (cells : List String) (line : String) : Prop where
  length_cells : cells.length = ws.length
  length_line : line.length = ws.sum + 3 * (ws.length - 1)
  cell : ∀ k w c, ws[k]? = some w → cells[k]? = some c →
    (line.toList.drop ((ws.take k).sum + 3 * k)).take w =
      c.toList ++ List.replicate (w - c.length) ' '
  between : ∀ k, k + 1 < ws.length →
    (line.toList.drop ((ws.take (k + 1)).sum + 3 * k)).take 3 = sep.toList

theorem length_padRight {c : String} {w : Nat} (h : c.length ≤ w) : (padRight c w).length = w := by
  rw [padRight, String.length_append, repeatChar, String.length_ofList, List.length_replicate]
  omega

/-- Cells that fit into the widths, filled up and joined, are aligned. -/
theorem aligned_joinWith {ws : List Nat} (sep : String) {cells : List String}
    (hsep : sep.length = 3) (hfit : List.Forall₂ (fun c w => c.length ≤ w) cells ws) :
    Aligned ws sep cells
      (joinWith sep ((cells.zip ws).map fun (c, w) => padRight c w)) := by
  have hcells : cells.length = ws.length := hfit.length_eq
  have hwidths : ((cells.zip ws).map fun (c, w) => padRight c w).map String.length = ws := by
    induction hfit with
    | nil => rfl
    | cons h _ ih =>
      rw [List.zip_cons_cons, List.map_cons, List.map_cons, length_padRight h,
        ih (Nat.succ_injective hcells)]
  have hlength : ((cells.zip ws).map fun (c, w) => padRight c w).length = ws.length := by
    have hlengths := congrArg List.length hwidths
    rwa [List.length_map] at hlengths
  refine ⟨hcells, ?_, fun k w c hw hc => ?_, fun k hk => ?_⟩
  · rw [length_joinWith, hwidths, hsep, hlength]
  · obtain ⟨hk, rfl⟩ := List.getElem?_eq_some_iff.mp hw
    obtain ⟨hk', rfl⟩ := List.getElem?_eq_some_iff.mp hc
    have hpart := take_drop_joinWith sep (hlength ▸ hk)
    have hle : cells[k].length ≤ ws[k] := hfit.get hk' hk
    simp only [List.getElem_map, List.getElem_zip, length_padRight hle, hwidths, hsep] at hpart
    rw [hpart, padRight, String.toList_append, repeatChar, String.toList_ofList]
  · have hbetween := take_drop_joinWith_sep sep (hlength ▸ hk)
    rwa [hwidths, hsep] at hbetween

theorem AreWidths.forall₂_le {ws : List Nat} {rows : List (List String)} {cells : List String}
    (h : AreWidths ws rows) (hmem : cells ∈ rows) (hlength : cells.length = ws.length) :
    List.Forall₂ (fun c w => c.length ≤ w) cells ws := by
  refine List.forall₂_iff_get.mpr ⟨hlength, fun k hk hk' => ?_⟩
  exact (h k _ (List.getElem?_eq_getElem hk')).2
    ⟨cells, hmem, _, List.getElem?_eq_getElem hk, rfl⟩

theorem AreWidths.aligned_gridRow {ws : List Nat} {rows : List (List String)}
    {cells : List String} (h : AreWidths ws rows) (hmem : cells ∈ rows)
    (hlength : cells.length = ws.length) : Aligned ws " | " cells (gridRow ws cells) :=
  aligned_joinWith " | " rfl (h.forall₂_le hmem hlength)

theorem aligned_rule (ws : List Nat) :
    Aligned ws "-+-" (ws.map (repeatChar '-')) (rule ws) := by
  have hlength : ∀ w, (repeatChar '-' w).length = w := fun w => by
    rw [repeatChar, String.length_ofList, List.length_replicate]
  have hfit : List.Forall₂ (fun c w => c.length ≤ w) (ws.map (repeatChar '-')) ws :=
    List.forall₂_map_left_iff.mpr (List.forall₂_same.mpr fun w _ => (hlength w).le)
  -- dashes as wide as the column are not filled up
  have hpad : ((ws.map (repeatChar '-')).zip ws).map (fun (c, w) => padRight c w) =
      ws.map (repeatChar '-') := by
    induction ws with
    | nil => rfl
    | cons w ws ih =>
      have hfull : padRight (repeatChar '-' w) w = repeatChar '-' w := by
        rw [padRight, hlength, Nat.sub_self]
        exact String.append_empty
      exact congrArg₂ List.cons hfull (ih (List.forall₂_cons.mp hfit).2)
  have haligned := aligned_joinWith "-+-" rfl hfit
  rwa [hpad] at haligned

/-! ### Tables read back -/

/-- The text of a table cell that spans one row and one column. -/
def shownCell? : Json → Option String
  | .arr [_, _, .int 1, .int 1, .arr [block]] =>
    match Node.hasTag block "Plain", Node.content block with
    | true, .arr [inline] => if Node.hasTag inline "Str" then (Node.content inline).text? else none
    | _, _ => none
  | _ => none

/-- The texts of the cells of a table row. -/
def shownRow? : Json → Option (List String)
  | .arr [_, .arr cells] => cells.mapM shownCell?
  | _ => none

/-- What a table shows: how many columns it specifies, and the texts of its header and its body. -/
structure Shown where
  columns : Nat
  header : List (List String)
  body : List (List String)

/-- What a table node with one body and no footer shows. -/
def shown? (v : Json) : Option Shown :=
  match Node.hasTag v "Table", Node.content v with
  | true, .arr [_, _, .arr specs, .arr [_, .arr header], .arr [.arr [_, _, _, .arr body]],
      .arr [_, .arr []]] =>
    match header.mapM shownRow?, body.mapM shownRow? with
    | some header, some body => some ⟨specs.length, header, body⟩
    | _, _ => none
  | _, _ => none

theorem shownRow?_tableRow (cells : List String) : shownRow? (tableRow cells) = some cells := by
  have hcell : ∀ c, shownCell? (tableCell c) = some c := fun c => rfl
  have hcells : (cells.map tableCell).mapM shownCell? = some cells := by
    induction cells with
    | nil => rfl
    | cons c cells ih => rw [List.map_cons, List.mapM_cons, hcell, ih]; rfl
  exact hcells

theorem mapM_shownRow? (rows : List (List String)) :
    (rows.map tableRow).mapM shownRow? = some rows := by
  induction rows with
  | nil => rfl
  | cons cells rows ih => rw [List.map_cons, List.mapM_cons, shownRow?_tableRow, ih]; rfl

theorem shown?_table {r : ResultSet} (h : r.isEmpty = false) :
    shown? r.table = some ⟨r.columns.length, [r.columns], r.cells⟩ := by
  have htag : ∀ content, Node.hasTag (Node.of "Table" content) "Table" = true := fun _ => rfl
  have hcontent : ∀ content, Node.content (Node.of "Table" content) = content := fun _ => rfl
  have hheader : [tableRow r.columns].mapM shownRow? = some [r.columns] := mapM_shownRow? [r.columns]
  rw [table, h, if_neg Bool.false_ne_true, shown?, htag, hcontent]
  simp only [hheader, mapM_shownRow?, List.length_map]

/-! ### Nothing to show -/

theorem grid?_eq_noResults_iff {r : ResultSet} :
    r.grid? = some "No results" ↔ r.isEmpty = true := by
  cases h : r.isEmpty with
  | true => simp [grid?, h]
  | false =>
    simp only [grid?, h, Bool.false_eq_true, if_false, iff_false, Option.map_eq_some_iff, not_exists]
    -- a grid has at least two lines
    rintro ws ⟨-, hgrid⟩
    have hmem : '\n' ∈ "No results".toList := by
      rw [← hgrid, joinWith_cons_cons, String.toList_append, String.toList_append]
      simp
    exact absurd hmem (by decide)

theorem table_eq_noResults_iff {r : ResultSet} :
    r.table = Node.para [Node.str (.str "No results")] ↔ r.isEmpty = true := by
  cases h : r.isEmpty with
  | true => simp [table, h]
  | false =>
    refine ⟨fun htable => ?_, fun h => by cases h⟩
    have hshown := shown?_table h
    rw [htable] at hshown
    cases hshown

/-- Both ways of showing a result set show the same cells. When there are columns and rows, and no
row is shorter or longer than the header, the grid is made of one line for the header, one for the
rule and one for each row, aligned to the greatest lengths in the columns; the table has as many
columns and shows the same header and rows. And both say that there are no results for the same
result sets, whatever their rows. -/
theorem grid_and_table_show_cells (r : ResultSet) :
    (r.columns ≠ [] → r.rows ≠ [] → (∀ row ∈ r.rows, row.length = r.columns.length) →
      ∃ ws header dashes lines, ws.length = r.columns.length ∧
        AreWidths ws (r.columns :: r.cells) ∧
        r.grid? = some (joinWith "\n" (header :: dashes :: lines)) ∧
        Aligned ws " | " r.columns header ∧
        Aligned ws "-+-" (ws.map (repeatChar '-')) dashes ∧
        List.Forall₂ (Aligned ws " | ") r.cells lines ∧ lines.length = r.rows.length ∧
        shown? r.table = some ⟨r.columns.length, [r.columns], r.cells⟩ ∧
        ∀ cells ∈ r.cells, cells.length = r.columns.length) ∧
    (r.grid? = some "No results" ↔ r.isEmpty = true) ∧
    (r.table = Node.para [Node.str (.str "No results")] ↔ r.isEmpty = true) := by
  refine ⟨fun hcolumns hrows hlength => ?_, grid?_eq_noResults_iff, table_eq_noResults_iff⟩
  have hne : r.isEmpty = false := by
    rw [isEmpty, List.isEmpty_eq_false_iff.mpr hcolumns, List.isEmpty_eq_false_iff.mpr hrows]
    rfl
  have hcells : ∀ cells ∈ r.cells, cells.length = r.columns.length := by
    intro cells hmem
    obtain ⟨row, hrow, rfl⟩ := List.mem_map.mp hmem
    rw [List.length_map, hlength row hrow]
  have hfirst : ∀ cells ∈ r.cells, cells.length = (r.columns.map String.length).length := by
    simpa only [List.length_map] using hcells
  obtain ⟨ws, hws, hcount, hwidths⟩ := (areWidths_header r.columns).foldlM_widen hfirst
  rw [List.length_map] at hcount
  have hgrid : r.grid? = some (joinWith "\n"
      (gridRow ws r.columns :: rule ws :: r.cells.map (gridRow ws))) := by
    rw [grid?, hne, if_neg Bool.false_ne_true, widths?, hws]
    rfl
  refine ⟨ws, gridRow ws r.columns, rule ws, r.cells.map (gridRow ws), hcount, hwidths, hgrid,
    hwidths.aligned_gridRow List.mem_cons_self hcount.symm, aligned_rule ws, ?_, ?_,
    shown?_table hne, hcells⟩
  · refine List.forall₂_map_right_iff.mpr (List.forall₂_same.mpr fun cells hmem => ?_)
    exact hwidths.aligned_gridRow (List.mem_cons_of_mem _ hmem)
      ((hcells cells hmem).trans hcount.symm)
  · rw [List.length_map, cells, List.length_map]

theorem grid_and_table_show_null_and_line_end :
    let r : ResultSet :=
      ⟨["id", "note"], [[.int 1, .null], [.int 205, .str "two\nlines"], [.null, .str ""]]⟩
    ∃ ws header dashes lines, ws.length = 2 ∧
      AreWidths ws [["id", "note"], ["1", ""], ["205", "two\nlines"], ["", ""]] ∧
      r.grid? = some (joinWith "\n" (header :: dashes :: lines)) ∧
      List.Forall₂ (Aligned ws " | ") [["1", ""], ["205", "two\nlines"], ["", ""]] lines ∧
      shown? r.table =
        some ⟨2, [["id", "note"]], [["1", ""], ["205", "two\nlines"], ["", ""]]⟩ := by
  intro r
  have hcells : r.cells = [["1", ""], ["205", "two\nlines"], ["", ""]] := by decide
  obtain ⟨ws, header, dashes, lines, hcount, hwidths, hgrid, -, -, hlines, -, htable, -⟩ :=
    (grid_and_table_show_cells r).1 (by decide) (by decide) (by decide)
  rw [hcells] at hwidths hlines htable
  exact ⟨ws, header, dashes, lines, hcount, hwidths, hgrid, hlines, htable⟩

end ResultSet

end Sql

end DocFilter
