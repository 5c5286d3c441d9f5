import ContentTracker.Console.Layout

/-!
Tables on a terminal: a title above a heading and rows, in frames.
-/

namespace ContentTracker.Console

open Text

inductive Alignment
  | left
  | right
deriving Repr, DecidableEq

structure Column where
  heading : String
  alignment : Alignment := .left

/-- A table whose rows have a cell for each column. -/
structure Grid where
  title : String
  columns : List Column
  rows : List (List String)

namespace Grid

def blanks (n : Nat) : String := String.ofList (List.replicate n ' ')

def cellWidth (text : String) : Nat := cellsOf text.toList

/-- The cells that a column takes without its margins. -/
def columnWidth (g : Grid) (index : Nat) (c : Column) : Nat :=
  (g.rows.map fun row => cellWidth (row[index]?.getD "")).foldl max (cellWidth c.heading)

def columnWidths (g : Grid) : List Nat := g.columns.mapIdx fun i c => g.columnWidth i c

/-- The cells that the whole table takes: columns with a margin at either side, and the lines between
them. -/
def width (g : Grid) : Nat := g.columnWidths.foldl (fun n width => n + width + 3) 1

/-- A line of the frame. -/
def rule (g : Grid) (opening dash crossing closing : String) : String :=
  opening ++
    crossing.intercalate (g.columnWidths.map fun n => String.join (List.replicate (n + 2) dash)) ++
    closing ++ "\n"

def aligned (alignment : Alignment) (width : Nat) (text : String) : String :=
  let space := blanks (width - cellWidth text)
  match alignment with
  | .left => text ++ space
  | .right => space ++ text

/-- A line of cells. -/
def cellLine (g : Grid) (bar : String) (texts : List String) : String :=
  let cells := (g.columns.zip g.columnWidths).zip texts
  let shown := cells.map fun ((c, n), text) => " " ++ aligned c.alignment n text ++ " "
  bar ++ bar.intercalate shown ++ bar ++ "\n"

/-- A line of the title in the middle of the table; an odd blank stands behind it. -/
def centred (g : Grid) (line : String) : String :=
  let text := String.ofList ((line.toList.reverse.dropWhile isBlank).reverse)
  let space := g.width - cellWidth text
  blanks (space / 2) ++ text ++ blanks (space - space / 2) ++ "\n"

/-- The table as it is printed. -/
def print (g : Grid) : String :=
  String.join ((wrap g.width g.title).map g.centred) ++ g.rule "┏" "━" "┳" "┓" ++
    g.cellLine "┃" (g.columns.map (·.heading)) ++ g.rule "┡" "━" "╇" "┩" ++
    String.join (g.rows.map (g.cellLine "│")) ++ g.rule "└" "─" "┴" "┘"

end Grid

end ContentTracker.Console
