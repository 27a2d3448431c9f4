import Downlevel.Display.Markup
/-!
# Panels and tables

A panel is a frame as wide as the screen, with a title in its upper edge. A table of two columns
shows a field and a value a row.
-/
namespace Downlevel

/-- The columns of the screen. -/
def screenWidth : Nat := 80

namespace Panel

/-- The columns inside a panel. -/
def innerWidth : Nat := screenWidth - 4

/-- The upper edge of a panel. A title stays on one line. -/
def top (title : Option (List Char)) : List Char :=
  match title with
  | none => '╭' :: List.replicate (screenWidth - 2) '─' ++ ['╮']
  | some t =>
    let line := Text.expandTabs 0 (t.map fun c => if c = '\n' then ' ' else c)
    ['╭', '─'] ++ Text.centred '─' innerWidth (' ' :: line ++ [' ']) ++ ['─', '╮']

/-- The lower edge of a panel. -/
def bottom : List Char :=
  '╰' :: List.replicate (screenWidth - 2) '─' ++ ['╯']

/-- A line between the sides of a panel. -/
def row (line : List Char) : List Char :=
  ['│', ' '] ++ Text.fitted innerWidth line ++ [' ', '│']

/-- A panel around lines. -/
def around (title : Option (List Char)) (body : List (List Char)) : List (List Char) :=
  top title :: body.map row ++ [bottom]

end Panel

/-- A table: a title, and rows of a field and a value, all marked up. -/
structure Table where
  title : List Char
  rows : List (List Char × List Char)

namespace Table

/-- The columns of the names of the fields. -/
def fieldWidth (t : Table) : Nat :=
  t.rows.foldl (fun n r => max n (Text.widest (Markup.shown r.1))) 0

/-- The columns of the values: those of the longest one that a panel has room for beside the fields
and the blanks around both. -/
def valueWidth (t : Table) : Nat :=
  min (Panel.innerWidth - t.fieldWidth - 4)
    (t.rows.foldl (fun n r => max n (Text.widest (Markup.shown r.2))) 0)

/-- The lines of one row: those of the longer cell, and blank ones beside them. -/
def rowLines (fieldWidth valueWidth : Nat) (r : List Char × List Char) : List (List Char) :=
  let fields := Text.wrapped .ellipsis fieldWidth (Markup.shown r.1)
  let values := Text.wrapped .ellipsis valueWidth (Markup.shown r.2)
  let cell (width : Nat) (lines : List (List Char)) (i : Nat) : List Char :=
    ' ' :: lines.getD i (List.replicate width ' ') ++ [' ']
  (List.range (max fields.length values.length)).map fun i =>
    cell fieldWidth fields i ++ cell valueWidth values i

/-- The lines of a table. -/
def lines (t : Table) : List (List Char) :=
  Text.centred ' ' (t.fieldWidth + t.valueWidth + 4) (Markup.shown t.title)
    :: t.rows.flatMap (rowLines t.fieldWidth t.valueWidth)

end Table

end Downlevel
