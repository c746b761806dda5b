import Reconcile.Text.Width

/-!
Tables drawn with lines: a double line below the header, dashed lines between rows.
-/

namespace Reconcile

structure Table where
  header : List String
  rows : List (List String)
  deriving DecidableEq, Repr

namespace Table

def repeated (n : Nat) (c : Char) : String := String.ofList (List.replicate n c)

def widths (table : Table) : List Nat :=
  table.rows.foldl (fun widths row => List.zipWith (fun w cell => max w (Text.width cell)) widths row)
    (table.header.map Text.width)

def rule (widths : List Nat) (left : String) (line : Char) (crossing right : String) : String :=
  left ++ crossing.intercalate (widths.map fun w => repeated (w + 2) line) ++ right

def cell (width : Nat) (text : String) : String :=
  " " ++ text ++ repeated (width - Text.width text) ' ' ++ " "

def row (widths : List Nat) (cells : List String) : String :=
  "│" ++ "┆".intercalate (List.zipWith cell widths cells) ++ "│"

def lines (table : Table) : List String :=
  let widths := table.widths
  [rule widths "┌" '─' "┬" "┐", row widths table.header, rule widths "╞" '═' "╪" "╡"] ++
    (table.rows.map (row widths)).intersperse (rule widths "├" '╌' "┼" "┤") ++
    [rule widths "└" '─' "┴" "┘"]

end Table

end Reconcile
