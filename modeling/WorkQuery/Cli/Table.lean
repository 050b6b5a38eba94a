import WorkQuery.Text.Blank
import WorkQuery.Text.Width

/-!
# WorkQuery.Cli.Table

Tables with rounded corners. The first row is the heading: its cells are centred and a rule follows
it. A cell may have several lines.
-/

namespace WorkQuery
namespace Table

def cellLines (cell : String) : List String :=
  (Text.splitWhere (· == '\n') cell.toList).map String.ofList

/-- Columns that a cell occupies. -/
def cellWidth (cell : String) : Nat := ((cellLines cell).map Text.width).foldl max 0

/-- Widths of the columns of a table of `count` columns. -/
def columnWidths (count : Nat) (rows : List (List String)) : List Nat :=
  (List.range count).map fun i => (rows.map fun row => cellWidth (row.getD i "")).foldl max 0

def spaces (n : Nat) : String := String.ofList (List.replicate n ' ')

def dashes (n : Nat) : String := String.ofList (List.replicate n '─')

/-- A line of a cell, filled up to the width of its column. A centred cell is moved as a whole, by
half of the room that it leaves. -/
def paddedLine (centred : Bool) (columnWidth : Nat) (cell : String) (line : String) : String :=
  let left := if centred then (columnWidth - cellWidth cell) / 2 else 0
  spaces left ++ line ++ spaces (columnWidth - left - Text.width line)

def rowLines (centred : Bool) (widths : List Nat) (row : List String) : List String :=
  let height := (row.map fun cell => (cellLines cell).length).foldl max 1
  (List.range height).map fun i =>
    let cells := (row.zip widths).map fun (cell, width) =>
      " " ++ paddedLine centred width cell ((cellLines cell).getD i "") ++ " "
    "│" ++ Text.join "│" cells ++ "│"

/-- A horizontal line with these corners and crossings. -/
def rule (left cross right : String) (widths : List Nat) : String :=
  left ++ Text.join cross (widths.map fun width => dashes (width + 2)) ++ right

/-- The table of a heading and its rows. -/
def render (heading : List String) (rows : List (List String)) : String :=
  let widths := columnWidths heading.length (heading :: rows)
  let body := rows.flatMap (rowLines false widths)
  let ruleUnderHeading := if rows.isEmpty then [] else [rule "├" "┼" "┤" widths]
  Text.join "\n" ([rule "╭" "┬" "╮" widths] ++ rowLines true widths heading ++ ruleUnderHeading
    ++ body ++ [rule "╰" "┴" "╯" widths])

end Table
end WorkQuery
