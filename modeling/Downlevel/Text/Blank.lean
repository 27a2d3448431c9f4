import Downlevel.Text.Range
/-!
# Blanks and line ends

The blanks are the white space of Unicode and the four information separators. Stripping removes
them at both ends of a text. A text is cut into lines at every line end, and the end of the last
line does not open another one.
-/
namespace Downlevel.Text

/-- The blank code points: white space and the information separators `U+001C` to `U+001F`. -/
def blankRanges : List (Nat × Nat) :=
  [(0x9, 0xd), (0x1c, 0x20), (0x85, 0x85), (0xa0, 0xa0), (0x1680, 0x1680), (0x2000, 0x200a),
   (0x2028, 0x2029), (0x202f, 0x202f), (0x205f, 0x205f), (0x3000, 0x3000)]

/-- Whether a character is blank. -/
def isBlank (c : Char) : Bool :=
  inRanges blankRanges c.toNat

/-- Drops the blanks in front. -/
def stripLeft (cs : List Char) : List Char :=
  cs.dropWhile isBlank

/-- Drops the blanks at the end. -/
def stripRight (cs : List Char) : List Char :=
  (cs.reverse.dropWhile isBlank).reverse

/-- Drops the blanks at both ends. -/
def strip (cs : List Char) : List Char :=
  stripRight (stripLeft cs)

/-- A text without the blanks at its ends. -/
def trimmed (s : String) : String :=
  String.ofList (strip s.toList)

/-- Whether a character ends a line. -/
def isLineEnd (c : Char) : Bool :=
  inRanges [(0xa, 0xd), (0x1c, 0x1e), (0x85, 0x85), (0x2028, 0x2029)] c.toNat

/-- Collects lines; the current one is held in reverse. -/
def splitLinesFrom (current : List Char) : List Char → List (List Char)
  | [] => if current.isEmpty then [] else [current.reverse]
  | '\r' :: '\n' :: rest => current.reverse :: splitLinesFrom [] rest
  | c :: rest =>
    if isLineEnd c then current.reverse :: splitLinesFrom [] rest
    else splitLinesFrom (c :: current) rest

/-- The lines of a text without their ends; a carriage return and a line feed end one line
together. -/
def splitLines (cs : List Char) : List (List Char) :=
  splitLinesFrom [] cs

/-- The lines of a text. -/
def lines (s : String) : List String :=
  (splitLines s.toList).map String.ofList

/-- Writes every line end of the three usual kinds as a line feed. -/
def unifyNewlines : List Char → List Char
  | [] => []
  | '\r' :: '\n' :: rest => '\n' :: unifyNewlines rest
  | c :: rest => (if c = '\r' then '\n' else c) :: unifyNewlines rest

/-- Cuts at every occurrence of a separator; the parts include empty ones. -/
def splitOn (sep : Char) : List Char → List (List Char)
  | [] => [[]]
  | c :: rest =>
    if c = sep then [] :: splitOn sep rest
    else match splitOn sep rest with
      | [] => [[c]]
      | part :: parts => (c :: part) :: parts

/-- The parts of a text between the occurrences of a separator. -/
def parts (sep : Char) (s : String) : List String :=
  (splitOn sep s.toList).map String.ofList

/-- Joins texts with a separator between neighbours. -/
def joined (sep : String) (xs : List String) : String :=
  sep.intercalate xs

/-- Whether a text occurs inside another. -/
def occursIn (needle : List Char) : List Char → Bool
  | [] => needle.isEmpty
  | c :: rest => needle.isPrefixOf (c :: rest) || occursIn needle rest

end Downlevel.Text
