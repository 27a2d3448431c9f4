import Downlevel.Data
import Downlevel.Text.Blank
import Downlevel.Text.Digit
/-!
# Reading JSON

A JSON text becomes loosely typed data. A number without point and exponent is whole, a repeated
key keeps its first place and its last value, and the names of the infinities and of the undefined
number are accepted.
-/
namespace Downlevel.Json

/-- Drops the four JSON blanks in front. -/
def skipBlanks (cs : List Char) : List Char :=
  cs.dropWhile fun c => c == ' ' || c == '\t' || c == '\n' || c == '\r'

/-- The value of a hexadecimal digit. -/
def hexValue? (c : Char) : Option Nat :=
  if '0' ≤ c && c ≤ '9' then some (c.toNat - '0'.toNat)
  else if 'a' ≤ c && c ≤ 'f' then some (c.toNat - 'a'.toNat + 10)
  else if 'A' ≤ c && c ≤ 'F' then some (c.toNat - 'A'.toNat + 10)
  else none

/-- The number written by hexadecimal digits, at least one. -/
def hexNumber? (cs : List Char) : Option Nat :=
  if cs.isEmpty then none
  else cs.foldlM (fun n c => (hexValue? c).map (16 * n + ·)) 0

/-- A code unit of four hexadecimal digits. -/
def unit? (cs : List Char) : Option (Nat × List Char) :=
  if (cs.take 4).length = 4 then (hexNumber? (cs.take 4)).map (·, cs.drop 4) else none

/-- The character of a simple escape. -/
def simpleEscape? : Char → Option Char
  | '"' => some '"'
  | '\\' => some '\\'
  | '/' => some '/'
  | 'b' => some (Char.ofNat 8)
  | 'f' => some (Char.ofNat 12)
  | 'n' => some '\n'
  | 'r' => some '\r'
  | 't' => some '\t'
  | _ => none

/-- The rest of a string after its opening quote; the part already read is held in reverse. A high
and a low surrogate in a row are one character, a lone one becomes the replacement character. -/
def readString (fuel : Nat) (acc : List Char) (cs : List Char) : Option (String × List Char) :=
  match fuel, cs with
  | 0, _ => none
  | _, [] => none
  | fuel + 1, c :: rest =>
    if c = '"' then some (String.ofList acc.reverse, rest)
    else if c = '\\' then
      match rest with
      | 'u' :: more =>
        match unit? more with
        | none => none
        | some (hi, after) =>
          match after with
          | '\\' :: 'u' :: more2 =>
            match unit? more2 with
            | some (lo, after2) =>
              if 0xd800 ≤ hi && hi < 0xdc00 && 0xdc00 ≤ lo && lo < 0xe000 then
                let n := 0x10000 + (hi - 0xd800) * 0x400 + (lo - 0xdc00)
                readString fuel (Char.ofNat n :: acc) after2
              else
                let ch := if 0xd800 ≤ hi && hi < 0xe000 then Char.ofNat 0xfffd else Char.ofNat hi
                readString fuel (ch :: acc) after
            | none => none
          | _ =>
            let ch := if 0xd800 ≤ hi && hi < 0xe000 then Char.ofNat 0xfffd else Char.ofNat hi
            readString fuel (ch :: acc) after
      | e :: more =>
        match simpleEscape? e with
        | some ch => readString fuel (ch :: acc) more
        | none => none
      | [] => none
    else if c.toNat < 0x20 then none
    else readString fuel (c :: acc) rest

/-- Whether a character is an ASCII digit. -/
def isAsciiDigit (c : Char) : Bool :=
  '0' ≤ c && c ≤ '9'

/-- The exponent part of a number, if one is written: its value and the rest. -/
def readExponent (cs : List Char) : Option (Int × List Char) :=
  match cs with
  | e :: rest =>
    if e = 'e' || e = 'E' then
      let (sign, digits) : Int × List Char := match rest with
        | '+' :: more => (1, more)
        | '-' :: more => (-1, more)
        | _ => (1, rest)
      let ds := digits.takeWhile isAsciiDigit
      if ds.isEmpty then none
      else some (sign * Int.ofNat (Text.digitsValue ds), digits.dropWhile isAsciiDigit)
    else none
  | [] => none

/-- A number. -/
def readNumber (cs : List Char) : Option (Data × List Char) :=
  let (negative, body) : Bool × List Char := match cs with
    | '-' :: rest => (true, rest)
    | _ => (false, cs)
  let whole := match body with
    | '0' :: _ => ['0']
    | _ => body.takeWhile isAsciiDigit
  if whole.isEmpty then none
  else
    let afterWhole := body.drop whole.length
    let fraction := match afterWhole with
      | '.' :: rest => rest.takeWhile isAsciiDigit
      | _ => []
    let afterFraction := if fraction.isEmpty then afterWhole else afterWhole.drop (fraction.length + 1)
    let signed (x : Float) : Float := if negative then -x else x
    match readExponent afterFraction with
    | some (e, rest) =>
      some (.float (signed (Decimal.toFloat (Text.digitsValue (whole ++ fraction))
        (e - Int.ofNat fraction.length))), rest)
    | none =>
      if fraction.isEmpty then
        let n := Int.ofNat (Text.digitsValue whole)
        some (.int (if negative then -n else n), afterWhole)
      else
        some (.float (signed (Decimal.toFloat (Text.digitsValue (whole ++ fraction))
          (-(Int.ofNat fraction.length)))), afterFraction)

/-- The words with a value of their own. -/
def words : List (List Char × Data) :=
  [("null".toList, .null), ("true".toList, .bool true), ("false".toList, .bool false),
   ("NaN".toList, .float (0.0 / 0.0)), ("Infinity".toList, .float (1.0 / 0.0)),
   ("-Infinity".toList, .float (-1.0 / 0.0))]

/-- A word at the head of a text. -/
def readWord (cs : List Char) : Option (Data × List Char) :=
  (words.find? fun w => w.1.isPrefixOf cs).map fun w => (w.2, cs.drop w.1.length)

mutual

/-- A value at the head of a text. -/
def readValue (fuel : Nat) (cs : List Char) : Option (Data × List Char) :=
  match fuel with
  | 0 => none
  | fuel + 1 =>
    match cs with
    | '"' :: rest => (readString (rest.length + 1) [] rest).map fun r => (.text r.1, r.2)
    | '[' :: rest =>
      match skipBlanks rest with
      | ']' :: after => some (.list [], after)
      | items => (readItems fuel items).map fun r => (.list r.1, r.2)
    | '\x7b' :: rest =>
      match skipBlanks rest with
      | '\x7d' :: after => some (.map [], after)
      | entries => (readEntries fuel [] entries).map fun r => (.map r.1, r.2)
    | _ =>
      match readWord cs with
      | some r => some r
      | none => readNumber cs

/-- The items of a list up to its end. -/
def readItems (fuel : Nat) (cs : List Char) : Option (List Data × List Char) :=
  match fuel with
  | 0 => none
  | fuel + 1 =>
    match readValue fuel (skipBlanks cs) with
    | none => none
    | some (item, rest) =>
      match skipBlanks rest with
      | ']' :: after => some ([item], after)
      | ',' :: more => (readItems fuel more).map fun r => (item :: r.1, r.2)
      | _ => none

/-- The entries of a mapping up to its end, added to those already read. -/
def readEntries (fuel : Nat) (done : List (Data × Data)) (cs : List Char) :
    Option (List (Data × Data) × List Char) :=
  match fuel with
  | 0 => none
  | fuel + 1 =>
    match skipBlanks cs with
    | '"' :: rest =>
      match readString (rest.length + 1) [] rest with
      | none => none
      | some (key, afterKey) =>
        match skipBlanks afterKey with
        | ':' :: value =>
          match readValue fuel (skipBlanks value) with
          | none => none
          | some (v, afterValue) =>
            let entries := Data.insert (.text key) v done
            match skipBlanks afterValue with
            | '\x7d' :: after => some (entries, after)
            | ',' :: more => readEntries fuel entries more
            | _ => none
        | _ => none
    | _ => none

end

/-- The data of a JSON text, if it is one. Every step of the reader consumes a character, so the
length of the text bounds their number. -/
def parse? (text : String) : Option Data :=
  let cs := text.toList
  match readValue (cs.length + 1) (skipBlanks cs) with
  | some (d, rest) => if (skipBlanks rest).isEmpty then some d else none
  | none => none

end Downlevel.Json
