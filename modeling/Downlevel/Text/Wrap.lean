import Downlevel.Text.Blank
import Downlevel.Text.Column
/-!
# Wrapping

A line that is too long for its columns is broken between words. A word holds the blanks after it,
and the first word those before it, so that nothing of a line is lost when it is broken. A word that
is too long for any line is either broken wherever a line is full, or cut with an ellipsis.
-/
namespace Downlevel.Text

/-- What becomes of what is too long for a line. -/
inductive Overflow where
  | fold
  | ellipsis
  deriving DecidableEq, Repr

/-- The distance of the places to which a tab leads. -/
def tabStop : Nat := 8

/-- A line with its tabs written as blanks, after a number of columns. -/
def expandTabs (column : Nat) : List Char → List Char
  | [] => []
  | c :: rest =>
    if c = '\t' then
      let n := tabStop - column % tabStop
      List.replicate n ' ' ++ expandTabs (column + n) rest
    else c :: expandTabs (column + columnsOf c) rest

/-- A text without the characters that move the cursor: bell, backspace, vertical tab, form feed and
carriage return. -/
def withoutMotion (cs : List Char) : List Char :=
  cs.filter fun c => !inRanges [(0x7, 0x8), (0xb, 0xd)] c.toNat

/-- The words of a line, each with the blanks after it. `word` is what was read of the current one;
`open_` tells whether it may still grow by more than blanks. -/
def wordsFrom (word : List Char) (open_ : Bool) : List Char → List (List Char)
  | [] => if word.all isBlank then [] else [word]
  | c :: rest =>
    if isBlank c then wordsFrom (word ++ [c]) (open_ && word.all isBlank) rest
    else if open_ then wordsFrom (word ++ [c]) true rest
    else word :: wordsFrom [c] true rest

/-- The words of a line, each with the blanks after it, the first also with those before it. A blank
line has none. -/
def words (cs : List Char) : List (List Char) :=
  wordsFrom [] true cs

/-- Cuts a text wherever a line of the given width is full, after what a line holds already. -/
def foldFrom (width : Nat) (line : List Char) : List Char → List (List Char)
  | [] => [line]
  | c :: rest =>
    if width < columns line + columnsOf c then line :: foldFrom width [c] rest
    else foldFrom width (line ++ [c]) rest

/-- Breaks words into lines. `line` is what the current line holds. -/
def breakWords (overflow : Overflow) (width : Nat) (line : List Char) :
    List (List Char) → List (List Char)
  | [] => [line]
  | word :: rest =>
    let needed := columns (stripRight word)
    let before := if line.isEmpty then [] else [line]
    if columns line + needed ≤ width then breakWords overflow width (line ++ word) rest
    else if width < needed && overflow = .fold then
      let pieces := foldFrom width [] word
      before ++ pieces.dropLast ++ breakWords overflow width (pieces.getLastD []) rest
    else before ++ breakWords overflow width word rest

/-- A line without the blanks at its end that are beyond the width. -/
def withoutBlankTail (width : Nat) (line : List Char) : List Char :=
  let tail := (line.reverse.takeWhile isBlank).length
  line.take (line.length - min tail (line.length - width))

/-- A line brought to exactly a number of columns; an ellipsis stands for what is cut off. -/
def fittedWith (overflow : Overflow) (width : Nat) (line : List Char) : List Char :=
  if overflow = .ellipsis && width < columns line then fitted (width - 1) line ++ ['…']
  else fitted width line

/-- The lines of a text on a screen of a number of columns, each filled with blanks. -/
def wrapped (overflow : Overflow) (width : Nat) (cs : List Char) : List (List Char) :=
  (splitOn '\n' cs).flatMap fun line =>
    let line := expandTabs 0 line
    let lines := match words line with
      | [] => [line]
      | ws => breakWords overflow width [] ws
    lines.map fun l => fittedWith overflow width (withoutBlankTail width l)

/-- The columns that the longest line of a text takes. -/
def widest (cs : List Char) : Nat :=
  (splitLines cs).foldl (fun n line => max n (columns line)) 0

/-- A line in the middle of a number of columns, with a character on both sides; of an odd rest the
smaller half is to the left. -/
def centred (fill : Char) (width : Nat) (line : List Char) : List Char :=
  let rest := width - columns line
  if width ≤ columns line then fitted width line
  else List.replicate (rest / 2) fill ++ line ++ List.replicate (rest - rest / 2) fill

end Downlevel.Text
