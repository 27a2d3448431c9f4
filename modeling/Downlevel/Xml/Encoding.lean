import Downlevel.Fault
import Downlevel.Text.Utf8
/-!
# Encodings of XML documents

How the bytes of a document are read as characters. A few encodings are built in; the others are asked
of the codecs of the system, which tell the character of each byte. An encoding of more than one byte
each is refused.
-/
namespace Downlevel.Xml

/-- An encoding. -/
inductive Encoding where
  | utf8
  | utf16 (bigEndian : Bool)
  /-- One byte each: the characters of the bytes in order. The replacement character stands for a byte
  without one. -/
  | table (chars : List Char)
  deriving DecidableEq, Repr

namespace Encoding

/-- Stands for a byte without a character. -/
def replacement : Char := Char.ofNat 0xfffd

/-- Two bytes each as code units. -/
def units (bigEndian : Bool) : List UInt8 → Option (List Nat)
  | [] => some []
  | [_] => none
  | a :: b :: rest =>
    let n := if bigEndian then a.toNat * 256 + b.toNat else b.toNat * 256 + a.toNat
    (units bigEndian rest).map (n :: ·)

/-- The characters of code units. -/
def ofUnits : List Nat → Option (List Char)
  | [] => some []
  | a :: rest =>
    if 0xd800 ≤ a && a < 0xdc00 then
      match rest with
      | b :: rest' =>
        if 0xdc00 ≤ b && b < 0xe000 then
          (ofUnits rest').map (Char.ofNat (0x10000 + (a - 0xd800) * 0x400 + (b - 0xdc00)) :: ·)
        else none
      | [] => none
    else if 0xdc00 ≤ a && a < 0xe000 then none
    else (ofUnits rest).map (Char.ofNat a :: ·)

/-- The text of bytes. -/
def decode? (e : Encoding) (bytes : List UInt8) : Option (List Char) :=
  match e with
  | utf8 => (Text.decodeUtf8 bytes).toOption
  | utf16 bigEndian => (units bigEndian bytes).bind ofUnits
  | table chars => bytes.mapM fun b => chars[b.toNat]?.filter (· ≠ replacement)

/-- All bytes by a list of those that differ from their code point, and those without a character. -/
def narrow (differing : List (Nat × Option Nat)) : List Char :=
  (List.range 256).map fun n =>
    match differing.lookup n with
    | none => Char.ofNat n
    | some (some m) => Char.ofNat m
    | some none => replacement

/-- Latin-1, in which every byte is its code point. -/
def latin1 : List Char :=
  narrow []

/-- The lower half, which most encodings share. -/
def ascii : List Char :=
  (List.range 256).map fun n => if n < 0x80 then Char.ofNat n else replacement

/-- Latin-9, which has the euro sign. -/
def latin9 : List Char :=
  narrow [(0xa4, some 0x20ac), (0xa6, some 0x160), (0xa8, some 0x161), (0xb4, some 0x17d),
    (0xb8, some 0x17e), (0xbc, some 0x152), (0xbd, some 0x153), (0xbe, some 0x178)]

/-- The Western code page 1252. -/
def western : List Char :=
  narrow [(0x80, some 0x20ac), (0x81, none), (0x82, some 0x201a), (0x83, some 0x192),
    (0x84, some 0x201e), (0x85, some 0x2026), (0x86, some 0x2020), (0x87, some 0x2021),
    (0x88, some 0x2c6), (0x89, some 0x2030), (0x8a, some 0x160), (0x8b, some 0x2039),
    (0x8c, some 0x152), (0x8d, none), (0x8e, some 0x17d), (0x8f, none), (0x90, none),
    (0x91, some 0x2018), (0x92, some 0x2019), (0x93, some 0x201c), (0x94, some 0x201d),
    (0x95, some 0x2022), (0x96, some 0x2013), (0x97, some 0x2014), (0x98, some 0x2dc),
    (0x99, some 0x2122), (0x9a, some 0x161), (0x9b, some 0x203a), (0x9c, some 0x153),
    (0x9d, none), (0x9e, some 0x17e), (0x9f, some 0x178)]

/-- The bytes that a document may hold in any meaning: control characters, and some signs. -/
def freeBytes : List Nat :=
  [0x0b, 0x0c, 0x24, 0x40, 0x5c, 0x5e, 0x60, 0x7b, 0x7d, 0x7e, 0x7f] ++ List.range 9
    ++ (List.range 18).map (0x0e + ·)

/-- Whether a table can be read by: the other bytes of the lower half mean themselves, no byte above means
one of them, and no character is beyond the first plane. -/
def isReadable (chars : List Char) : Bool :=
  chars.zipIdx.all fun p =>
    let c := p.1.toNat
    if c = p.2 then true
    else c ≤ 0xffff && (0x80 ≤ c || freeBytes.contains c)
      && (0x80 ≤ p.2 || freeBytes.contains p.2)

end Encoding

/-- What the name of an encoding in the header of a document stands for. -/
inductive EncodingName where
  | builtIn (e : Encoding)
  /-- Two bytes each, in whichever order the document has. -/
  | anyUtf16
  /-- A name to ask the codecs of the system about. -/
  | foreign (name : String)
  deriving DecidableEq, Repr

/-- What a name stands for. -/
def EncodingName.ofText (name : String) : EncodingName :=
  match String.ofList (name.toList.map Char.toUpper) with
  | "UTF-8" => builtIn .utf8
  | "ISO-8859-1" => builtIn (.table Encoding.latin1)
  | "US-ASCII" => builtIn (.table Encoding.ascii)
  | "UTF-16" => anyUtf16
  | "UTF-16BE" => builtIn (.utf16 true)
  | "UTF-16LE" => builtIn (.utf16 false)
  | _ => foreign name

/-- What the codecs of a system make of all bytes in order under a name, with the replacement character
for those without a character; or their failure. -/
abbrev Codecs : Type :=
  String → Except Failure (List Char)

/-- The failure that an encoding has more than one byte each. -/
def wideEncoding : Failure :=
  ⟨.foreign "ValueError" "multi-byte encodings are not supported", []⟩

/-- The encoding of a name that is asked of the codecs, if a document can be read in it. -/
def Codecs.encoding (codecs : Codecs) (name : String) : Except Failure (Option Encoding) :=
  match codecs name with
  | .error e => .error e
  | .ok chars =>
    if chars.length ≠ 256 then .error wideEncoding
    else .ok (if Encoding.isReadable chars then some (.table chars) else none)

namespace Codecs

/-- A name in small letters with an underscore for each run of signs inside it. -/
def simplified (cs : List Char) : List Char :=
  go false (cs.map Char.toLower)
where
  /-- The rest of the name; the flag tells that a run of signs comes before it. -/
  go (pending : Bool) : List Char → List Char
    | [] => []
    | c :: rest =>
      if c.isAlphanum || c = '.' then
        if pending then '_' :: c :: go false rest else c :: go false rest
      else go true rest

/-- The simplified names of encodings that hold ASCII and no other character of one byte. -/
def asciiNames : List String :=
  ["ascii", "646", "ansi_x3_4_1968", "ansi_x3.4_1968", "ansi_x3.4_1986", "cp367", "csascii",
   "ibm367", "iso646_us", "iso_646.irv_1991", "iso_ir_6", "us", "us_ascii", "utf_8", "u8", "utf",
   "utf8", "utf8_ucs2", "utf8_ucs4", "cp65001", "utf_8_sig", "iso2022_jp", "iso2022jp",
   "iso_2022_jp", "csiso2022jp"]

/-- The simplified names of Latin-1. -/
def latin1Names : List String :=
  ["latin_1", "8859", "cp819", "csisolatin1", "ibm819", "iso8859", "iso8859_1", "iso_8859_1",
   "iso_8859_1_1987", "iso_ir_100", "l1", "latin", "latin1"]

/-- The simplified names of Latin-9. -/
def latin9Names : List String :=
  ["iso8859_15", "iso_8859_15", "l9", "latin9"]

/-- The simplified names of code page 1252. -/
def westernNames : List String :=
  ["cp1252", "1252", "windows_1252"]

/-- The simplified names of other encodings of one byte each. -/
def lowerHalfNames : List String :=
  ["iso8859_2", "iso_8859_2", "latin2", "l2", "iso8859_3", "iso_8859_3", "iso8859_4", "iso_8859_4",
   "iso8859_5", "iso_8859_5", "cyrillic", "iso8859_6", "iso_8859_6", "arabic", "iso8859_7",
   "iso_8859_7", "greek", "iso8859_8", "iso_8859_8", "hebrew", "iso8859_9", "iso_8859_9", "latin5",
   "iso8859_10", "iso_8859_10", "iso8859_13", "iso_8859_13", "iso8859_14", "iso_8859_14",
   "iso8859_16", "iso_8859_16", "cp1250", "windows_1250", "cp1251", "windows_1251", "cp1253",
   "windows_1253", "cp1254", "windows_1254", "cp1255", "windows_1255", "cp1256", "windows_1256",
   "cp1257", "windows_1257", "cp1258", "windows_1258", "cp437", "ibm437", "cp850", "ibm850",
   "cp852", "ibm852", "cp866", "ibm866", "koi8_r", "cskoi8r", "koi8_u", "mac_roman", "macroman",
   "macintosh", "mac_cyrillic", "tis_620", "tis620"]

/-- The simplified names of encodings of more than one byte each. -/
def wideNames : List String :=
  ["utf_7", "u7", "utf7", "utf_16", "u16", "utf16", "utf_16_be", "utf_16be", "utf_16_le",
   "utf_16le", "utf_32", "u32", "utf32", "utf_32_be", "utf_32be", "utf_32_le", "utf_32le",
   "shift_jis", "csshiftjis", "shiftjis", "sjis", "s_jis", "cp932", "932", "ms932", "mskanji",
   "euc_jp", "eucjp", "ujis", "u_jis", "big5", "big5_tw", "csbig5", "big5hkscs", "big5_hkscs",
   "gb2312", "chinese", "euc_cn", "euccn", "gbk", "936", "cp936", "ms936", "gb18030",
   "gb18030_2000", "euc_kr", "euckr", "korean", "ksc5601", "cp949", "ms949", "cp950", "ms950",
   "johab", "iso2022_kr", "iso2022kr", "iso_2022_kr"]

/-- The codecs by their names. Of most encodings of one byte each only the lower half is known here. -/
def standard : Codecs := fun name =>
  let simple := String.ofList (simplified name.toList)
  if asciiNames.contains simple || lowerHalfNames.contains simple then .ok Encoding.ascii
  else if latin1Names.contains simple then .ok Encoding.latin1
  else if latin9Names.contains simple then .ok Encoding.latin9
  else if westernNames.contains simple then .ok Encoding.western
  else if wideNames.contains simple then .ok []
  else .error ⟨.foreign "LookupError" ("unknown encoding: " ++ name), []⟩

end Codecs

end Downlevel.Xml
