import Downlevel.Text.Range
import Downlevel.Xml.NameTable
/-!
# Characters of XML

Which characters a document may hold, and which may stand in names.
-/
namespace Downlevel.Xml

/-- The four blanks of XML. -/
def isSpace (c : Char) : Bool :=
  c = ' ' || c = '\t' || c = '\n' || c = '\r'

/-- Whether a code point may occur in a document. -/
def isCharPoint (n : Nat) : Bool :=
  n = 0x9 || n = 0xa || n = 0xd || (0x20 ≤ n && n ≤ 0xd7ff) || (0xe000 ≤ n && n ≤ 0xfffd)
    || (0x10000 ≤ n && n ≤ 0x10ffff)

/-- Whether a character may start a name part. -/
def isNameStart (c : Char) : Bool :=
  c.isAlpha || c = '_' || Text.inRanges nameStartRanges c.toNat

/-- Whether a character may stand in a name part. -/
def isNamePartChar (c : Char) : Bool :=
  isNameStart c || c.isDigit || c = '-' || c = '.' || Text.inRanges nameExtraRanges c.toNat

/-- A name at the head of a text, a colon included, and the rest. -/
def readName (cs : List Char) : Option (List Char × List Char) :=
  match cs with
  | [] => none
  | c :: rest =>
    if isNameStart c then
      let tail := rest.takeWhile fun d => isNamePartChar d || d = ':'
      some (c :: tail, rest.drop tail.length)
    else none

/-- Drops the blanks in front. -/
def skipSpaces (cs : List Char) : List Char :=
  cs.dropWhile isSpace

/-- The text before the first occurrence of a mark, and the text after it. -/
def cutAt (mark : List Char) : List Char → Option (List Char × List Char)
  | [] => if mark.isEmpty then some ([], []) else none
  | c :: rest =>
    if mark.isPrefixOf (c :: rest) then some ([], (c :: rest).drop mark.length)
    else (cutAt mark rest).map fun r => (c :: r.1, r.2)

/-- A qualified name: a prefix if there is one, and the local part. -/
def splitName (name : List Char) : Option (Option (List Char) × List Char) :=
  match cutAt [':'] name with
  | none => some (none, name)
  | some (front, c :: back) =>
    if isNameStart c && !back.contains ':' then some (some front, c :: back) else none
  | some (_, []) => none

end Downlevel.Xml
