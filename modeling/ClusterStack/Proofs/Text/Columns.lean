import ClusterStack.Proofs.Text.Trimming
import ClusterStack.Text.Table
import Mathlib.Data.List.Forall2
/-!
# Tables read back

A table is read by its columns: each of them begins at the same place on every line, which the widths
alone decide. A cell may hold anything but a line end, even runs of spaces, and may be empty. What a line
loses at its end are blank characters, so that a column read there is too short at most, and it makes no
difference once the blank characters after the cell are left out.
-/
namespace ClusterStack.Text

/-- What stands between the line ends of a text. -/
def linesOf (s : String) : List String := (s.toList.splitOn '\n').map String.ofList

/-- The part of a text from a place on, of at most this length. -/
def slice (s : String) (start length : Nat) : String :=
  String.ofList ((s.toList.drop start).take length)

theorem stripEnd_slice_stripEnd (s : String) (start length : Nat) :
    stripEnd (slice (stripEnd s) start length) = stripEnd (slice s start length) := by
  obtain ⟨after, whole, blank⟩ := exists_eq_dropTrailingBlanks_append s.toList
  unfold stripEnd slice
  simp only [String.toList_ofList]
  -- The part of the whole text is the part of what is kept, followed by some of the blank characters.
  generalize dropTrailingBlanks s.toList = kept at whole
  rw [whole, List.drop_append, List.take_append, dropTrailingBlanks_append]
  intro c member
  exact blank c (List.mem_of_mem_drop (List.mem_of_mem_take member))

theorem linesOf_intercalate {lines : List String} (unbroken : ∀ line ∈ lines, '\n' ∉ line.toList)
    (given : lines ≠ []) : linesOf ("\n".intercalate lines) = lines := by
  have unbroken' : ∀ cs ∈ lines.map String.toList, '\n' ∉ cs := List.forall_mem_map.mpr unbroken
  have given' : lines.map String.toList ≠ [] := fun empty => given (List.map_eq_nil_iff.mp empty)
  have separator : "\n".toList = ['\n'] := rfl
  rw [linesOf, String.toList_intercalate, separator, List.splitOn_intercalate '\n' unbroken' given',
    List.map_map]
  exact (List.map_congr_left fun line _ => String.ofList_toList).trans (List.map_id lines)

namespace Table

/-- The width of a column, which is that of its longest cell. -/
def columnWidth (lines : List (List String)) (j : Nat) : Nat :=
  (lines.map fun cells => (cells.getD j "").length).foldr max 0

/-- The place where a column begins. -/
def columnStart (lines : List (List String)) (j : Nat) : Nat :=
  ((List.range j).map fun k => columnWidth lines k + 2).foldr (· + ·) 0

def start (widths : List Nat) (j : Nat) : Nat := ((widths.take j).map (· + 2)).foldr (· + ·) 0

/-- The cells of a line, read from it by the widths of the columns. -/
def cellsIn (widths : List Nat) (line : String) : List String :=
  (List.range widths.length).map fun j =>
    stripEnd (slice line (start widths j) (widths.getD j 0))

def read (widths : List Nat) (text : String) : List (List String) :=
  (linesOf text).map (cellsIn widths)

/-- A line with the blank characters at its end. -/
def full (widths : List Nat) (cells : List String) : String :=
  "  ".intercalate (List.zipWith fill cells widths)

/-- What follows a cell in the full line. -/
def behind (widths : List Nat) : List String → List Char
  | [] => []
  | cell :: cells => ' ' :: ' ' :: (full widths (cell :: cells)).toList

/-- The columns are wide enough for the cells, of which there is one in each. -/
def Fits (cells : List String) (widths : List Nat) : Prop :=
  List.Forall₂ (fun cell width => cell.length ≤ width) cells widths

section

variable {cell : String} {cells : List String} {width : Nat} {widths : List Nat}

theorem line_eq (widths : List Nat) (cells : List String) :
    line widths cells = stripEnd (full widths cells) := rfl

theorem toList_fill (cell : String) (width : Nat) :
    (fill cell width).toList = cell.toList ++ List.replicate (width - cell.length) ' ' :=
  String.toList_ofList

theorem length_toList_fill (fits : cell.length ≤ width) : (fill cell width).toList.length = width := by
  rw [toList_fill, List.length_append, List.length_replicate, String.length_toList]
  omega

theorem stripEnd_fill (cell : String) (width : Nat) : stripEnd (fill cell width) = stripEnd cell := by
  rw [stripEnd, toList_fill, dropTrailingBlanks_append, stripEnd]
  intro c member
  rw [(List.mem_replicate.mp member).2]
  rfl

theorem toList_full_cons (fits : Fits cells widths) :
    (full (width :: widths) (cell :: cells)).toList =
      (fill cell width).toList ++ behind widths cells := by
  unfold full
  cases fits with
  | nil => exact (congrArg String.toList String.intercalate_singleton).trans (List.append_nil _).symm
  | cons =>
      rw [List.zipWith_cons_cons, List.zipWith_cons_cons, String.intercalate_cons_cons]
      simp only [String.toList_append, List.append_assoc]
      rfl

theorem drop_behind (fits : Fits cells widths) :
    (behind widths cells).drop 2 = (full widths cells).toList := by
  cases fits <;> rfl

theorem isSpace_behind {k : Nat} (near : k < 2) {c : Char}
    (found : (behind widths cells)[k]? = some c) : c = ' ' := by
  cases cells with
  | nil => cases found
  | cons cell cells =>
      match k, near with
      | 0, _ => exact (Option.some.inj found).symm
      | 1, _ => exact (Option.some.inj found).symm

theorem mem_behind {c : Char} (member : c ∈ behind widths cells) :
    c = ' ' ∨ c ∈ (full widths cells).toList := by
  cases cells with
  | nil => cases member
  | cons cell cells =>
      rcases List.mem_cons.mp member with space | member
      · exact .inl space
      · exact List.mem_cons.mp member

theorem start_succ (width : Nat) (widths : List Nat) (j : Nat) :
    start (width :: widths) (j + 1) = width + (2 + start widths j) := by
  rw [start, List.take_succ_cons, List.map_cons, List.foldr_cons, Nat.add_assoc]
  rfl

/-- From the start of a column on, the full line goes on with the cell, which is filled up to the
width of the column. -/
theorem drop_full (fits : Fits cells widths) {j : Nat} (found : cells[j]? = some cell)
    (there : widths[j]? = some width) :
    cell.length ≤ width ∧ (full widths cells).toList.drop (start widths j) =
      (fill cell width).toList ++ behind (widths.drop (j + 1)) (cells.drop (j + 1)) := by
  induction fits generalizing j with
  | nil => cases found
  | @cons cell' width' cells widths fit fits ih =>
      cases j with
      | zero =>
          cases found
          cases there
          exact ⟨fit, toList_full_cons fits⟩
      | succ j =>
          rw [start_succ, toList_full_cons fits, ← List.drop_drop,
            List.drop_left' (length_toList_fill fit), ← List.drop_drop, drop_behind fits]
          exact ih found there

variable (fits : Fits cells widths) {j : Nat} (found : cells[j]? = some cell)
  (there : widths[j]? = some width)

include fits found there

/-- A cell is read back from its column, but for blank characters at the end of it. -/
theorem stripEnd_slice_line :
    stripEnd (slice (line widths cells) (start widths j) width) = stripEnd cell := by
  obtain ⟨fit, column⟩ := drop_full fits found there
  rw [line_eq, stripEnd_slice_stripEnd, slice, column, List.take_left' (length_toList_fill fit),
    String.ofList_toList, stripEnd_fill]

/-- Nothing but two spaces stands behind a column, unless the line ends before them. -/
theorem isSpace_after_column {k : Nat} (near : k < 2) {c : Char}
    (shown : (line widths cells).toList[start widths j + width + k]? = some c) : c = ' ' := by
  obtain ⟨fit, column⟩ := drop_full fits found there
  obtain ⟨after, whole, -⟩ := exists_eq_dropTrailingBlanks_append (full widths cells).toList
  rw [line_eq, stripEnd, String.toList_ofList] at shown
  obtain ⟨inside, -⟩ := List.getElem?_eq_some_iff.mp shown
  have gap : (full widths cells).toList.drop (start widths j + width) =
      behind (widths.drop (j + 1)) (cells.drop (j + 1)) := by
    rw [← List.drop_drop, column, List.drop_left' (length_toList_fill fit)]
  have read : (behind (widths.drop (j + 1)) (cells.drop (j + 1)))[k]? = some c := by
    rw [← gap, List.getElem?_drop, whole, List.getElem?_append_left inside, shown]
  exact isSpace_behind near read

omit found there

theorem mem_full {c : Char} (member : c ∈ (full widths cells).toList) :
    c = ' ' ∨ ∃ cell ∈ cells, c ∈ cell.toList := by
  induction fits with
  | nil => cases member
  | @cons cell width cells widths fit fits ih =>
      rw [toList_full_cons fits, toList_fill] at member
      rcases List.mem_append.mp member with within | after
      · rcases List.mem_append.mp within with shown | filled
        · exact .inr ⟨cell, List.mem_cons_self, shown⟩
        · exact .inl (List.mem_replicate.mp filled).2
      · rcases mem_behind after with space | further
        · exact .inl space
        · rcases ih further with space | ⟨cell', member, shown⟩
          · exact .inl space
          · exact .inr ⟨cell', List.mem_cons_of_mem _ member, shown⟩

theorem line_unbroken (unbroken : ∀ cell ∈ cells, '\n' ∉ cell.toList) :
    '\n' ∉ (line widths cells).toList := by
  obtain ⟨after, whole, -⟩ := exists_eq_dropTrailingBlanks_append (full widths cells).toList
  rw [line_eq, stripEnd, String.toList_ofList]
  intro broken
  have member : '\n' ∈ (full widths cells).toList := whole ▸ List.mem_append_left after broken
  rcases mem_full fits member with space | ⟨cell, shown, broken⟩
  · cases space
  · exact unbroken cell shown broken

/-- The cells of a line are read back, but for blank characters at the end of each. -/
theorem cellsIn_line : cellsIn widths (line widths cells) = cells.map stripEnd := by
  have equal := fits.length_eq
  refine List.ext_getElem (by simp [cellsIn, equal]) fun j inside inside' => ?_
  have here : j < cells.length := by simpa using inside'
  have there : j < widths.length := equal ▸ here
  have width : widths.getD j 0 = widths[j] := by simp [there]
  simp only [cellsIn, List.getElem_map, List.getElem_range, width]
  exact stripEnd_slice_line fits (List.getElem?_eq_getElem here) (List.getElem?_eq_getElem there)

end

theorem isBlank_last_line (widths : List Nat) (cells : List String) :
    ∀ c ∈ (line widths cells).toList.getLast?, isBlank c = false := by
  rw [line_eq, stripEnd, String.toList_ofList]
  exact isBlank_last_dropTrailingBlanks _

section

variable {lines : List (List String)} {cells : List String} {n : Nat}
  (even : ∀ cells ∈ lines, cells.length = n)

theorem length_le_columnWidth (member : cells ∈ lines) (j : Nat) :
    (cells.getD j "").length ≤ columnWidth lines j := by
  induction member with
  | head rest => exact Nat.le_max_left _ _
  | tail first _ ih => exact Nat.le_trans ih (Nat.le_max_right _ _)

include even

theorem widths_eq (given : lines ≠ []) : widths lines = (List.range n).map (columnWidth lines) := by
  induction lines with
  | nil => exact absurd rfl given
  | cons cells rest ih =>
      obtain ⟨equal, even⟩ := List.forall_mem_cons.mp even
      cases rest with
      | nil =>
          refine List.ext_getElem (by simp [widths, equal]) fun j inside inside' => ?_
          have here : j < cells.length := by simpa [widths] using inside
          simp [widths, columnWidth, here]
      | cons other rest =>
          change List.zipWith max _ (widths (other :: rest)) = _
          rw [ih even nofun]
          refine List.ext_getElem (by simp [equal]) fun j inside inside' => ?_
          have here : j < cells.length := by simpa [equal] using inside'
          simp [columnWidth, here]

theorem fits_widths (member : cells ∈ lines) : Fits cells (widths lines) := by
  rw [widths_eq even (List.ne_nil_of_mem member)]
  refine List.forall₂_iff_zip.mpr ⟨by simp [even cells member], fun zipped => ?_⟩
  obtain ⟨j, inside, same⟩ := List.mem_iff_getElem.mp zipped
  rw [List.getElem_zip] at same
  cases same
  have here : j < cells.length := List.lt_length_left_of_zip inside
  simpa [here] using length_le_columnWidth member j

theorem start_widths (given : lines ≠ []) {j : Nat} (inside : j ≤ n) :
    start (widths lines) j = columnStart lines j := by
  rw [widths_eq even given, start, ← List.map_take, List.take_range, Nat.min_eq_left inside, List.map_map]
  rfl

theorem getElem?_widths (given : lines ≠ []) {j : Nat} (inside : j < n) :
    (widths lines)[j]? = some (columnWidth lines j) := by
  rw [widths_eq even given, List.getElem?_map, List.getElem?_range inside]
  rfl

/-- A cell stands in its column, with nothing but two spaces behind the column. -/
theorem column_of_line (member : cells ∈ lines) {j : Nat} {cell : String}
    (found : cells[j]? = some cell) :
    let shown := line (widths lines) cells
    stripEnd (slice shown (columnStart lines j) (columnWidth lines j)) = stripEnd cell ∧
      ∀ k < 2, ∀ c, shown.toList[columnStart lines j + columnWidth lines j + k]? = some c → c = ' ' := by
  have given := List.ne_nil_of_mem member
  have fits := fits_widths even member
  have inside : j < n := even cells member ▸ (List.getElem?_eq_some_iff.mp found).1
  have wide := getElem?_widths even given inside
  rw [← start_widths even given (Nat.le_of_lt inside)]
  exact ⟨stripEnd_slice_line fits found wide, fun k near c => isSpace_after_column fits found wide near⟩

variable (given : lines ≠ [])
  (unbroken : ∀ cells ∈ lines, ∀ cell ∈ cells, '\n' ∉ cell.toList)

include given unbroken

/-- The table has one line for each line of cells. -/
theorem linesOf_text : linesOf (text lines) = lines.map (line (widths lines)) := by
  refine linesOf_intercalate (List.forall_mem_map.mpr fun cells member => ?_) ?_
  · exact line_unbroken (fits_widths even member) (unbroken cells member)
  · exact fun empty => given (List.map_eq_nil_iff.mp empty)

theorem read_text : read (widths lines) (text lines) = lines.map fun cells => cells.map stripEnd := by
  rw [read, linesOf_text even given unbroken, List.map_map]
  exact List.map_congr_left fun cells member => cellsIn_line (fits_widths even member)

end

end Table

end ClusterStack.Text
