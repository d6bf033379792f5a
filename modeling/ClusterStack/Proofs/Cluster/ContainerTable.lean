import ClusterStack.Cluster.ContainerRow
import ClusterStack.Proofs.Text.Columns
/-!
# The table of containers

The rows of a list of containers are set out in columns below a header. Whoever knows how wide the
columns are can read the rows back, as long as no cell holds a line end or ends with a blank character.
-/
namespace ClusterStack.Cluster.ContainerRow

open Text (isBlank linesOf slice stripEnd)

/-- The lines of the table by their cells, the header in front. -/
def lines (rows : List ContainerRow) : List (List String) := columns :: rows.map cells

def ofCells? : List String → Option ContainerRow
  | [name, state, ports, definition, health] => some ⟨name, state, ports, definition, health⟩
  | _ => none

/-- The rows of a table, read from it by the widths of its columns. -/
def readTable (widths : List Nat) (table : String) : List ContainerRow :=
  ((Text.Table.read widths table).drop 1).filterMap ofCells?

variable {rows : List ContainerRow}

theorem length_of_mem_lines : ∀ cells ∈ lines rows, cells.length = columns.length :=
  List.forall_mem_cons.mpr ⟨rfl, List.forall_mem_map.mpr fun _ _ => rfl⟩

section

variable (unbroken : ∀ row ∈ rows, ∀ cell ∈ row.cells, '\n' ∉ cell.toList)

include unbroken

theorem lines_unbroken : ∀ cells ∈ lines rows, ∀ cell ∈ cells, '\n' ∉ cell.toList :=
  List.forall_mem_cons.mpr ⟨by decide, List.forall_mem_map.mpr unbroken⟩

theorem linesOf_table :
    linesOf (table rows) = (lines rows).map (Text.Table.line (Text.Table.widths (lines rows))) :=
  Text.Table.linesOf_text length_of_mem_lines nofun (lines_unbroken unbroken)

theorem readTable_table (trimmed : ∀ row ∈ rows, ∀ cell ∈ row.cells, stripEnd cell = cell) :
    readTable (Text.Table.widths (lines rows)) (table rows) = rows := by
  have whole : (lines rows).map (fun cells => cells.map stripEnd) = lines rows := by
    have trimmed' : ∀ cells ∈ lines rows, ∀ cell ∈ cells, stripEnd cell = cell :=
      List.forall_mem_cons.mpr ⟨by decide, List.forall_mem_map.mpr trimmed⟩
    refine (List.map_congr_left fun cells member => ?_).trans (List.map_id _)
    exact (List.map_congr_left (trimmed' cells member)).trans (List.map_id cells)
  have read : Text.Table.read (Text.Table.widths (lines rows)) (table rows) = lines rows :=
    (Text.Table.read_text length_of_mem_lines nofun (lines_unbroken unbroken)).trans whole
  rw [readTable, read]
  change (rows.map cells).filterMap ofCells? = rows
  rw [List.filterMap_map]
  exact List.filterMap_some

end

/-- The cells of the table stand in columns that begin at the same place on every line, and two spaces
at most stand between them. No line ends with a blank character, and if no cell does either, the rows
are what is read back from the table. -/
theorem table_columns_read_back
    (unbroken : ∀ row ∈ rows, ∀ cell ∈ row.cells, '\n' ∉ cell.toList) :
    let width := Text.Table.columnWidth (lines rows)
    let start := Text.Table.columnStart (lines rows)
    (linesOf (table rows)).length = rows.length + 1 ∧
    (∀ (i : Nat) line cells, (linesOf (table rows))[i]? = some line → (lines rows)[i]? = some cells →
      ∀ (j : Nat) cell, cells[j]? = some cell →
        stripEnd (slice line (start j) (width j)) = stripEnd cell ∧
        ∀ k < 2, ∀ c, line.toList[start j + width j + k]? = some c → c = ' ') ∧
    (∀ line ∈ linesOf (table rows), ∀ c ∈ line.toList.getLast?, isBlank c = false) ∧
    ((∀ row ∈ rows, ∀ cell ∈ row.cells, stripEnd cell = cell) →
      readTable ((List.range columns.length).map width) (table rows) = rows) := by
  intro width start
  rw [linesOf_table unbroken]
  refine ⟨by simp [lines], fun i line cells shown there j cell found => ?_, ?_, fun trimmed => ?_⟩
  · rw [List.getElem?_map, there] at shown
    cases shown
    exact Text.Table.column_of_line length_of_mem_lines (List.mem_of_getElem? there) found
  · exact List.forall_mem_map.mpr fun cells _ => Text.Table.isBlank_last_line _ cells
  · rw [← Text.Table.widths_eq length_of_mem_lines nofun]
    exact readTable_table unbroken trimmed

/-- The first row ends with an empty cell, and two spaces stand within a cell of the second one. -/
def spacedRows : List ContainerRow :=
  [⟨"t/web", "RUNNING", "80->80/tcp", "web:1", ""⟩, ⟨"t/a  b", "", "", "", "HEALTHY"⟩]

theorem spacedRows_read_back :
    (∀ row ∈ spacedRows, ∀ cell ∈ row.cells, '\n' ∉ cell.toList) ∧
    (linesOf (table spacedRows)).length = 3 ∧
    readTable [6, 7, 10, 14, 7] (table spacedRows) = spacedRows := by
  have unbroken : ∀ row ∈ spacedRows, ∀ cell ∈ row.cells, '\n' ∉ cell.toList := by decide
  have wide : (List.range columns.length).map (Text.Table.columnWidth (lines spacedRows)) =
      [6, 7, 10, 14, 7] := by decide
  obtain ⟨count, -, -, back⟩ := table_columns_read_back unbroken
  rw [← wide]
  exact ⟨unbroken, count, back (by decide)⟩

end ClusterStack.Cluster.ContainerRow
