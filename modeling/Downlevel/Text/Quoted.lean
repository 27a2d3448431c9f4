import Downlevel.Text.Printable
import Downlevel.Text.Utf8
/-!
# Quoted text

A text is quoted with single quotes, or with double quotes when it holds a single quote and no
double quote. The quote in use, the backslash and unprintable characters are escaped; line feed,
carriage return and tab have short escapes, other characters their code in two, four or eight
hexadecimal digits. A surrogate is no character, and is escaped wherever it is printed.
-/
namespace Downlevel.Text

/-- The last `width` hexadecimal digits of a number. -/
def hexDigits : Nat → Nat → List Char
  | 0, _ => []
  | width + 1, n => hexDigits width (n / 16) ++ [Nat.digitChar (n % 16)]

/-- The escape of a code point by its number: the shortest of the three forms that holds it. -/
def codeEscape (n : Nat) : List Char :=
  if n < 0x100 then ['\\', 'x'] ++ hexDigits 2 n
  else if n < 0x10000 then ['\\', 'u'] ++ hexDigits 4 n
  else ['\\', 'U'] ++ hexDigits 8 n

/-- A character inside quotes. -/
def quotedChar (quote c : Char) : List Char :=
  if c = quote || c = '\\' then ['\\', c]
  else if c = '\n' then ['\\', 'n']
  else if c = '\r' then ['\\', 'r']
  else if c = '\t' then ['\\', 't']
  else if isPrintable c then [c]
  else codeEscape c.toNat

/-- The quote that a text takes. -/
def quoteFor (cs : List Char) : Char :=
  if cs.contains '\'' && !cs.contains '"' then '"' else '\''

/-- A text in quotes. -/
def quote (cs : List Char) : List Char :=
  let q := quoteFor cs
  q :: cs.flatMap (quotedChar q) ++ [q]

/-- A string in quotes. -/
def quoted (s : String) : String :=
  String.ofList (quote s.toList)

/-- What is printed of a text whose code points may be surrogates. -/
def printed (ns : CodePoints) : String :=
  String.ofList (ns.flatMap fun n => if isSurrogate n then codeEscape n else [Char.ofNat n])

/-- A code point inside quotes. -/
def quotedPoint (quote : Char) (n : Nat) : List Char :=
  if isSurrogate n then codeEscape n else quotedChar quote (Char.ofNat n)

/-- A text in quotes, whose code points may be surrogates. -/
def quotedPoints (ns : CodePoints) : CodePoints :=
  let q := quoteFor (ns.map Char.ofNat)
  codePoints (String.ofList (q :: ns.flatMap (quotedPoint q) ++ [q]))

/-- A text with the code points beyond the first 128 escaped. -/
def ascii (ns : CodePoints) : CodePoints :=
  ns.flatMap fun n => if n < 0x80 then [n] else (codeEscape n).map Char.toNat

end Downlevel.Text
