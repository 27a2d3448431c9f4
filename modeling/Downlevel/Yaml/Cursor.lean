import Downlevel.Data.Json
/-!
# Positions in a YAML text

A cursor is the rest of a text with the place that it starts at. A line break starts a new line, and a
byte order mark takes no column. The end of the text reads as the null character, which the text
itself never holds.
-/
namespace Downlevel.Yaml

/-- The rest of a text, and where it starts. -/
structure Cursor where
  rest : List Char
  index : Nat := 0
  line : Nat := 0
  column : Nat := 0
  deriving Repr

/-- The null character. -/
def nul : Char := Char.ofNat 0

/-- Whether a character breaks a line. -/
def isBreak (c : Char) : Bool :=
  c = '\n' || c = '\r' || c.toNat = 0x85 || c.toNat = 0x2028 || c.toNat = 0x2029

/-- Whether a character breaks a line or ends the text. -/
def isBreakOrEnd (c : Char) : Bool :=
  isBreak c || c = nul

/-- Whether a character is a space, breaks a line or ends the text. -/
def isSpaceOrEnd (c : Char) : Bool :=
  c = ' ' || isBreakOrEnd c

/-- Whether a character is a space or tab, breaks a line or ends the text. -/
def isBlankOrEnd (c : Char) : Bool :=
  c = '\t' || isSpaceOrEnd c

namespace Cursor

/-- The character at a distance. -/
def peek (c : Cursor) (n : Nat := 0) : Char :=
  (c.rest.drop n).headD nul

/-- Moves over one character. -/
def step (c : Cursor) : Cursor :=
  match c.rest with
  | [] => c
  | ch :: rest =>
    if isBreak ch && !(ch = '\r' && rest.head? = some '\n') then
      ⟨rest, c.index + 1, c.line + 1, 0⟩
    else if ch.toNat = 0xfeff then ⟨rest, c.index + 1, c.line, c.column⟩
    else ⟨rest, c.index + 1, c.line, c.column + 1⟩

/-- Moves over a number of characters. -/
def advance (c : Cursor) : Nat → Cursor
  | 0 => c
  | n + 1 => c.step.advance n

/-- The characters in front for which a test holds, and the cursor after them. -/
def span (c : Cursor) (test : Char → Bool) : List Char × Cursor :=
  let taken := c.rest.takeWhile test
  (taken, c.advance taken.length)

/-- Moves over a line break: the break as it is kept, nothing if there is none. -/
def takeBreak (c : Cursor) : List Char × Cursor :=
  let ch := c.peek
  if ch = '\r' && c.peek 1 = '\n' then (['\n'], c.advance 2)
  else if ch = '\n' || ch = '\r' || ch.toNat = 0x85 then (['\n'], c.step)
  else if isBreak ch then ([ch], c.step)
  else ([], c)

/-- Whether a mark of three characters that starts or ends a document stands here. -/
def atDocumentMark (c : Cursor) : Bool :=
  (c.rest.take 3 = ['-', '-', '-'] || c.rest.take 3 = ['.', '.', '.']) && isBlankOrEnd (c.peek 3)

end Cursor

end Downlevel.Yaml
