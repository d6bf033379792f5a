import ClusterStack.Text.Blank
/-!
# Tables in plain text

Lines of cells set out in columns. Every column is as wide as its longest cell, counted in
characters, and two spaces stand between columns. A line has no blank characters at its end.
-/
namespace ClusterStack.Text.Table

/-- The widths of the columns of some lines, each that of its longest cell. -/
def widths : List (List String) → List Nat
  | [] => []
  | [line] => line.map String.length
  | line :: rest => List.zipWith max (line.map String.length) (widths rest)

def fill (cell : String) (width : Nat) : String :=
  String.ofList (cell.toList ++ List.replicate (width - cell.length) ' ')

def line (widths : List Nat) (cells : List String) : String :=
  stripEnd ("  ".intercalate (List.zipWith fill cells widths))

def text (lines : List (List String)) : String :=
  "\n".intercalate (lines.map (line (widths lines)))

end ClusterStack.Text.Table
