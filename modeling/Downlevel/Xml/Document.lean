import Downlevel.Xml.Declaration
import Downlevel.Xml.Encoding
/-!
# The frame of an XML document

A document may open with a header that names its encoding and with a document type that defines
entities and default attributes. The bytes are read in the encoding, the prologue is taken off, and
the content remains.
-/
namespace Downlevel.Xml

/-- Whether a character may stand in a setting of a document. -/
def isSettingChar (c : Char) : Bool :=
  c.isAlphanum || c = '.' || c = '-' || c = '_'

/-- A setting at the head of the first line of a document, after the blanks in front of it. -/
def readSetting (cs : List Char) : Option ((List Char × List Char) × List Char) :=
  let trimmed := skipSpaces cs
  if trimmed.length = cs.length then none
  else match readName trimmed with
    | none => none
    | some (name, afterName) =>
      match skipSpaces afterName with
      | '=' :: afterEquals =>
        match skipSpaces afterEquals with
        | q :: body =>
          let value := body.takeWhile isSettingChar
          if (q = '"' || q = '\'') && (body.drop value.length).head? = some q then
            some ((name, value), body.drop (value.length + 1))
          else none
        | [] => none
      | _ => none

/-- The settings of a document; at most three can stand there. -/
def readSettings : Nat → List Char → List (List Char × List Char)
  | 0, _ => []
  | n + 1, cs =>
    match readSetting cs with
    | some (s, rest) => s :: readSettings n rest
    | none => []

/-- The text after a number of settings. -/
def skipSettings : Nat → List Char → List Char
  | 0, cs => cs
  | n + 1, cs =>
    match readSetting cs with
    | some (_, rest) => skipSettings n rest
    | none => cs

/-- Whether settings are a version, then perhaps an encoding, then perhaps whether the document
stands alone. -/
def settingsFit (settings : List (List Char × List Char)) : Bool :=
  match settings with
  | (name, _) :: rest =>
    name = "version".toList && (
      let afterEncoding := match rest with
        | (n, v) :: more =>
          if n = "encoding".toList && (v.head?.map Char.isAlpha).getD false then more else rest
        | [] => []
      match afterEncoding with
      | [] => true
      | [(n, v)] => n = "standalone".toList && (v = "yes".toList || v = "no".toList)
      | _ => false)
  | [] => false

/-- What a document says of itself: the name of its encoding, and whether it stands alone. -/
structure Header where
  encoding : Option String := none
  isAlone : Bool := false
  deriving DecidableEq, Repr

/-- Takes the header off the head of a text. -/
def readHeader (cs : List Char) : Option (Header × List Char) :=
  if "<?xml".toList.isPrefixOf cs && ((cs.drop 5).head?.map isSpace).getD false then
    let body := cs.drop 5
    let settings := readSettings 3 body
    match skipSpaces (skipSettings 3 body) with
    | '?' :: '>' :: rest =>
      if settingsFit settings then
        some (⟨(settings.lookup "encoding".toList).map String.ofList,
          settings.lookup "standalone".toList = some "yes".toList⟩, rest)
      else none
    | _ => none
  else some ({}, cs)

/-- The value of an entity with numeric references replaced; others stay for later. -/
def entityValue? (fuel : Nat) (cs : List Char) : Option (List Char) :=
  match fuel, cs with
  | _, [] => some []
  | 0, _ => none
  | fuel + 1, '&' :: '#' :: rest =>
    match readReference ('#' :: rest) with
    | some (.char c, more) => (entityValue? fuel more).map (c :: ·)
    | _ => none
  | fuel + 1, '&' :: rest =>
    match readReference rest with
    | some (_, more) =>
      (entityValue? fuel more).map ('&' :: rest.take (rest.length - more.length) ++ ·)
    | none => none
  | fuel + 1, c :: rest => if c = '%' then none else (entityValue? fuel rest).map (c :: ·)

/-- An attribute that an element has by default. Without a value it is only known. -/
structure Default where
  element : List Char
  key : List Char
  value : Option (List Char)
  deriving DecidableEq, Repr

/-- What a document type defines. After a reference to declarations that are kept elsewhere,
definitions count no more unless the document stands alone. -/
structure DocumentType where
  entities : Entities := {}
  defaults : List Default := []
  counts : Bool := true
  deriving DecidableEq, Repr

namespace DocumentType

/-- The document type when declarations may be missed from here on. -/
def missing (t : DocumentType) (isAlone : Bool) : DocumentType :=
  { t with entities := { t.entities with isComplete := isAlone } }

/-- Adds attributes that an element has by default; the first definition of each counts. -/
def addDefaults (element : List Char) :
    List (List Char × Option (List Char)) → DocumentType → Option DocumentType
  | [], t => some t
  | (key, raw) :: rest, t =>
    let value? : Option (Option (List Char)) := match raw with
      | none => some none
      | some v => (attributeValue? t.entities.size (v.length + 1) t.entities v).map some
    match value? with
    | none => none
    | some value =>
      let isKnown := t.defaults.any fun d => d.element = element && d.key = key
      addDefaults element rest
        (if isKnown then t
        else { t with defaults := t.defaults ++ [⟨element, key, value⟩] })

/-- Adds what a declaration says, if it counts. -/
def add (t : DocumentType) (d : Declaration) : Option DocumentType :=
  if !t.counts then some t
  else
    let value? (raw : Option (List Char)) : Option (Option (List Char)) := match raw with
      | none => some none
      | some v => (entityValue? (v.length + 1) v).map some
    match d with
    | .entity name raw =>
      (value? raw).map fun v => { t with entities := t.entities.define name v }
    | .inner raw => (value? raw).map fun _ => t
    | .attributes element definitions => addDefaults element definitions t
    | .idle => some t

/-- The attributes of an element with its defaults after those that are written. -/
def complete (t : DocumentType) (element : List Char) (written : List (List Char × List Char)) :
    List (List Char × List Char) :=
  written ++ t.defaults.filterMap fun d =>
    if d.element = element && !(written.any fun a => a.1 = d.key) then
      d.value.map (d.key, ·)
    else none

end DocumentType

/-- The internal part of a document type after its bracket, and the rest. -/
def readSubset (fuel : Nat) (isAlone : Bool) (t : DocumentType) (cs : List Char) :
    Option (DocumentType × List Char) :=
  match fuel with
  | 0 => none
  | fuel + 1 =>
    match skipSpaces cs with
    | ']' :: rest => some (t, rest)
    | '<' :: '!' :: '-' :: '-' :: body =>
      match skipComment body with
      | some after => readSubset fuel isAlone t after
      | none => none
    | '<' :: '?' :: body =>
      match skipInstruction body with
      | some after => readSubset fuel isAlone t after
      | none => none
    | '<' :: '!' :: body =>
      match Declaration.read body with
      | some (d, after) =>
        match t.add d with
        | some t' => readSubset fuel isAlone t' after
        | none => none
      | none => none
    | '%' :: body =>
      let name := body.takeWhile isNamePartChar
      match body.drop name.length with
      | ';' :: after =>
        if (name.head?.map isNameStart).getD false then
          readSubset fuel isAlone { t.missing isAlone with counts := isAlone } after
        else none
      | _ => none
    | _ => none

/-- A document type after its keyword. -/
def readDocumentType (isAlone : Bool) (cs : List Char) : Option (DocumentType × List Char) :=
  if !goesOnWith "" cs then none
  else match readMarks (cs.length + 1) cs with
    | some (.name _ :: place, after) =>
      let start : Option DocumentType :=
        if place.isEmpty then some {}
        else if dropExternal? place = some [] then some (DocumentType.missing {} isAlone)
        else none
      match start, after with
      | some t, '>' :: rest => some (t, rest)
      | some t, '[' :: subset =>
        match readSubset (subset.length + 1) isAlone t subset with
        | some (t', rest) =>
          match skipSpaces rest with
          | '>' :: after => some (t', after)
          | _ => none
        | none => none
      | _, _ => none
    | _ => none

/-- Takes comments, instructions, blanks and one document type off the head of a text. -/
def readPrologue (fuel : Nat) (isAlone : Bool) (found : Option DocumentType) (cs : List Char) :
    Option (DocumentType × List Char) :=
  match fuel with
  | 0 => none
  | fuel + 1 =>
    match skipSpaces cs with
    | '<' :: '!' :: '-' :: '-' :: body =>
      match skipComment body with
      | some after => readPrologue fuel isAlone found after
      | none => none
    | '<' :: '?' :: body =>
      match skipInstruction body with
      | some after => readPrologue fuel isAlone found after
      | none => none
    | '<' :: '!' :: 'D' :: 'O' :: 'C' :: 'T' :: 'Y' :: 'P' :: 'E' :: body =>
      match found, readDocumentType isAlone body with
      | none, some (t, after) => readPrologue fuel isAlone (some t) after
      | _, _ => none
    | rest => some (found.getD {}, rest)

/-- The outcome of taking a document apart. -/
inductive Frame where
  | content (type : DocumentType) (tokens : List Token)
  | malformed
  /-- The codecs failed on the encoding of the document. -/
  | refused (failure : Failure)

/-- The tokens of the content of a text after its header. -/
def frameOfText (isAlone : Bool) (cs : List Char) : Frame :=
  match readPrologue (cs.length + 1) isAlone none (Text.unifyNewlines cs) with
  | none => .malformed
  | some (t, content) =>
    match tokens? t.entities.size (content.length + 1) t.entities true content with
    | some ts => .content t ts
    | none => .malformed

variable (codecs : Codecs)

/-- Takes a document of two bytes each apart. Its header may not name another encoding. -/
def frameOfUnits (bigEndian : Bool) (bytes : List UInt8) : Frame :=
  match (Encoding.utf16 bigEndian).decode? bytes with
  | none => .malformed
  | some cs =>
    match readHeader cs with
    | none => .malformed
    | some (h, rest) =>
      match (h.encoding.map EncodingName.ofText).getD .anyUtf16 with
      | .anyUtf16 => frameOfText h.isAlone rest
      | .builtIn e => if e = .utf16 bigEndian then frameOfText h.isAlone rest else .malformed
      | .foreign name =>
        match codecs.encoding name with
        | .error e => .refused e
        | .ok _ => .malformed

/-- Takes a document in bytes with an encoding apart. -/
def frameOfEncoded (isAlone : Bool) (e : Encoding) (bytes : List UInt8) : Frame :=
  match (e.decode? bytes).bind readHeader with
  | some (_, rest) => frameOfText isAlone rest
  | none => .malformed

/-- Takes a document in bytes apart. Its header may name the encoding. -/
def frameOfBytes (bytes : List UInt8) : Frame :=
  match readHeader (bytes.map fun b => Char.ofNat b.toNat) with
  | none => .malformed
  | some (h, _) =>
    match (h.encoding.map EncodingName.ofText).getD (.builtIn .utf8) with
    | .anyUtf16 => .malformed
    | .builtIn (.utf16 _) => .malformed
    | .builtIn e => frameOfEncoded h.isAlone e bytes
    | .foreign name =>
      match codecs.encoding name with
      | .error e => .refused e
      | .ok none => .malformed
      | .ok (some e) => frameOfEncoded h.isAlone e bytes

/-- Takes a document apart. A byte order mark, or else the place of the null in the first character,
tells whether it has two bytes each. -/
def frame (bytes : List UInt8) : Frame :=
  match bytes with
  | 0xfe :: 0xff :: rest => frameOfUnits codecs true rest
  | 0xff :: 0xfe :: rest => frameOfUnits codecs false rest
  | 0xef :: 0xbb :: 0xbf :: rest => frameOfBytes codecs rest
  | 0x00 :: _ => frameOfUnits codecs true bytes
  | 0x3c :: 0x00 :: _ => frameOfUnits codecs false bytes
  | _ => frameOfBytes codecs bytes

end Downlevel.Xml
