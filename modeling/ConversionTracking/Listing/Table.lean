import ConversionTracking.Fault
import ConversionTracking.Text.Parts

/-!
Tables in text: a line of headers, a line of dashes and a line for each row, with the cells of a
column filled up to its widest.
-/

namespace ConversionTracking

namespace Table

/-- The columns of a table: its headers, each with the cells below it. A row has a cell for every
header at least. -/
def columns (headers : List String) (rows : List (List String)) :
    Except Fault (List (String × List String)) :=
  headers.zipIdx.mapM fun (header, index) => do
    let cells ← rows.mapM fun row =>
      match row[index]? with
      | some cell => Except.ok cell
      | none => Except.error Fault.missingItem
    return (header, cells)

def width (column : String × List String) : Nat :=
  (column.2.map String.length).foldl max column.1.length

private def line (widths : List Nat) (cells : List String) : String :=
  "  ".intercalate (List.zipWith padEnd widths cells)

def render (headers : List String) (rows : List (List String)) : Except Fault String := do
  let widths := (← columns headers rows).map width
  let dashes := widths.map fun width => String.ofList (List.replicate width '-')
  return "\n".intercalate (line widths headers :: "  ".intercalate dashes :: rows.map (line widths))

end Table

end ConversionTracking
