import RecordScreens.Text.Blank
import RecordScreens.View.Parts

/-!
# Layout of views as text

Tables with aligned columns, headers, journeys and menus for a terminal. Widths count
characters.
-/

namespace RecordScreens.Layout

/-! ## Tables -/

/-- What stands between two columns. -/
def columnGap : String := "  "

/-- The greatest width to which a text can be filled up. -/
def greatestWidth : Nat := 65535

/-- How filling up to a greater width gives up. -/
def tooWide : Panic := ⟨some "Formatting argument out of range"⟩

/-- A text filled up with blanks to a width, however great it is. -/
def filled (width : Nat) (s : String) : String := s ++ String.ofList (List.replicate (width - s.length) ' ')

/-- A text filled up with blanks to a width. -/
def pad (width : Nat) (s : String) : Except Panic String :=
  if width ≤ greatestWidth then .ok (filled width s) else .error tooWide

/-- Widths that also fit the cells of a row; cells beyond the widths do not count. -/
def widen : List Nat → List String → List Nat
  | width :: widths, cell :: cells => max width cell.length :: widen widths cells
  | widths, _ => widths

/-- The widths that fit the headers and all rows. -/
def widths (headers : List String) (rows : List (List String)) : List Nat :=
  rows.foldl widen (headers.map String.length)

/-- The cells of a line at their widths, without blanks at the end. -/
def line (widths : List Nat) (cells : List String) : Except Panic String := do
  let padded ← (cells.zip widths).mapM fun (cell, width) => pad width cell
  return Text.trimEnd (String.intercalate columnGap padded)

/-- The line under the headers. -/
def rule (widths : List Nat) : String :=
  String.intercalate columnGap (widths.map fun width => String.ofList (List.replicate width '-'))

/-- Rows under headers. -/
def table (headers : List String) (rows : List (List String)) : Except Panic String := do
  let widths := widths headers rows
  let head ← line widths headers
  let body ← rows.mapM (line widths)
  return String.intercalate "\n" (head :: rule widths :: body)

/-! ## Lists -/

/-- A status as a badge. -/
def badge (s : ResolvedStatus) : String := "[" ++ s.label ++ "]"

/-- Buttons by id. -/
def buttons (actions : List ActionButton) : String := String.intercalate ", " (actions.map (·.id))

/-- The text of a cell in a row; the status is shown as a badge. -/
def cellText (status : Option ResolvedStatus) (cell : Cell) : String :=
  match status with
  | some s => if cell.key = "status" then badge s else cell.text
  | none => cell.text

/-- The rows of a list; the first row names the columns. -/
def listRows : List RenderedRow → Except Panic String
  | [] => .ok ""
  | first :: rest =>
    table ("ID" :: first.cells.map (·.label) ++ ["Actions"])
      ((first :: rest).map fun row => row.id :: row.cells.map (cellText row.status) ++ [buttons row.actions])

/-! ## Details -/

/-- Cells with their labels on one line. -/
def labelled (cells : List Cell) : String :=
  String.intercalate " | " (cells.map fun c => c.label ++ ": " ++ c.text)

/-- A line of cells of its own, if there are any. -/
def labelledLine (cells : List Cell) : String := if cells = [] then "" else "\n" ++ labelled cells

def header (h : DetailHeader) : String :=
  h.title ++ ((h.status.map fun s => " " ++ badge s).getD "") ++ labelledLine h.subtitle ++ labelledLine h.metrics

/-- How far a stage is, as a mark. -/
def stepMark : StepState → String
  | .completed => "x"
  | .active => ">"
  | .pending => " "

/-- The stages on one line, with how many of them are done. -/
def journey (steps : List JourneyItem) (completed : Nat) : String :=
  String.intercalate columnGap (steps.map fun step => "[" ++ stepMark step.state ++ "] " ++ step.label)
    ++ columnGap ++ "(" ++ toString completed ++ "/" ++ toString steps.length ++ ")"

/-- An entry of a menu by id. -/
def menuEntry : MenuEntry ActionButton → String
  | .action button => button.id
  | .separator => "|"

def actions (quick : List ActionButton) (menu : MenuView) : String :=
  "Actions: " ++ buttons quick ++ "\nMenu: " ++ String.intercalate " " (menu.map menuEntry)

end RecordScreens.Layout
