import Downlevel.Yaml.Scalar
/-!
# Tokens of YAML

A text is cut into indicators and scalars. Indentation opens and closes blocks. Whether a scalar is a
key is known only at the colon after it, on the same line; the key token is then put in front of it.
-/
namespace Downlevel.Yaml

/-- A token. -/
inductive Token where
  | documentStart
  | documentEnd
  | directive (name : String) (arguments : List String)
  | blockSequenceStart
  | blockMappingStart
  | blockEnd
  | flowSequenceStart
  | flowSequenceEnd
  | flowMappingStart
  | flowMappingEnd
  | blockEntry
  | flowEntry
  | key
  | value
  | anchor (name : String)
  | alias (name : String)
  | tag (handle : Option String) (suffix : String)
  | scalar (text : String) (plain : Bool)
  deriving DecidableEq, Repr

/-- A place where a key may have started. -/
structure KeyPlace where
  token : Nat
  required : Bool
  index : Nat
  line : Nat
  column : Nat
  deriving DecidableEq, Repr

/-- The state of the scanner. -/
structure Scanner where
  cursor : Cursor
  tokens : List Token := []
  count : Nat := 0
  flowLevel : Nat := 0
  indent : Int := -1
  indents : List Int := []
  keyAllowed : Bool := true
  /-- The possible keys by flow level. -/
  keys : List (Nat × KeyPlace) := []
  deriving Repr

namespace Scanner

/-- Adds a token; tokens are held in reverse. -/
def emit (s : Scanner) (t : Token) : Scanner :=
  { s with tokens := t :: s.tokens, count := s.count + 1 }

/-- Puts tokens in front of the token with a number. -/
def insertAt (s : Scanner) (n : Nat) (ts : List Token) : Scanner :=
  let later := s.count - n
  { s with
    tokens := s.tokens.take later ++ ts.reverse ++ s.tokens.drop later
    count := s.count + ts.length }

/-- Forgets the possible key of the flow level; a key that must be there may not be forgotten. -/
def dropKey (s : Scanner) : Option Scanner :=
  match s.keys.lookup s.flowLevel with
  | some k =>
    if k.required then none
    else some { s with keys := s.keys.filter fun e => e.1 ≠ s.flowLevel }
  | none => some s

/-- Forgets the possible keys that are on an earlier line or too far back. -/
def dropStale (s : Scanner) : Option Scanner :=
  let isStale (k : KeyPlace) : Bool :=
    k.line ≠ s.cursor.line || 1024 < s.cursor.index - k.index
  if s.keys.any fun e => isStale e.2 && e.2.required then none
  else some { s with keys := s.keys.filter fun e => !isStale e.2 }

/-- Notes that a key may start here. -/
def noteKey (s : Scanner) : Option Scanner :=
  if s.keyAllowed then
    match s.dropKey with
    | none => none
    | some s' =>
      let required := s.flowLevel = 0 && s.indent = Int.ofNat s.cursor.column
      some { s' with keys := (s.flowLevel, ⟨s.count, required, s.cursor.index, s.cursor.line,
        s.cursor.column⟩) :: s'.keys }
  else some s

/-- Closes the blocks that are indented more than a column. -/
def unwind (s : Scanner) (column : Int) : Scanner :=
  if s.flowLevel ≠ 0 then s else go s.indents s
where
  /-- Closes blocks, given the outer indentations. -/
  go : List Int → Scanner → Scanner
    | [], s => if column < s.indent then { s.emit .blockEnd with indent := -1, indents := [] } else s
    | outer :: rest, s =>
      if column < s.indent then go rest { s.emit .blockEnd with indent := outer, indents := rest }
      else s

/-- Opens a block at a column if it is indented more than the current one. -/
def openBlock (s : Scanner) (column : Nat) : Option Scanner :=
  if s.indent < Int.ofNat column then
    some { s with indents := s.indent :: s.indents, indent := Int.ofNat column }
  else none

/-- Skips spaces, comments and line breaks. -/
def skip (fuel : Nat) (s : Scanner) : Scanner :=
  match fuel with
  | 0 => s
  | fuel + 1 =>
    let c := (s.cursor.span (· = ' ')).2
    let c' := if c.peek = '#' then (c.span fun ch => !isBreakOrEnd ch).2 else c
    if isBreak c'.peek then
      skip fuel { s with
        cursor := c'.takeBreak.2
        keyAllowed := if s.flowLevel = 0 then true else s.keyAllowed }
    else { s with cursor := c' }

/-- Emits a token of a number of characters. -/
def take (s : Scanner) (t : Token) (n : Nat) : Scanner :=
  { s.emit t with cursor := s.cursor.advance n }

/-- The start of a collection in brackets or braces. -/
def openFlow (s : Scanner) (t : Token) : Option Scanner :=
  s.noteKey.map fun s' => { s'.take t 1 with flowLevel := s.flowLevel + 1, keyAllowed := true }

/-- The end of a collection in brackets or braces. -/
def closeFlow (s : Scanner) (t : Token) : Option Scanner :=
  match s.flowLevel with
  | 0 => none
  | n + 1 => s.dropKey.map fun s' => { s'.take t 1 with flowLevel := n, keyAllowed := false }

/-- A comma. -/
def comma (s : Scanner) : Option Scanner :=
  s.dropKey.map fun s' => { s'.take .flowEntry 1 with keyAllowed := true }

/-- A hyphen that starts an entry. -/
def entry (s : Scanner) : Option Scanner :=
  let opened : Option Scanner :=
    if s.flowLevel ≠ 0 then some s
    else if s.keyAllowed then
      some (match s.openBlock s.cursor.column with
        | some s' => s'.emit .blockSequenceStart
        | none => s)
    else none
  (opened.bind dropKey).map fun s' => { s'.take .blockEntry 1 with keyAllowed := true }

/-- A question mark that starts a key. -/
def explicitKey (s : Scanner) : Option Scanner :=
  let opened : Option Scanner :=
    if s.flowLevel ≠ 0 then some s
    else if s.keyAllowed then
      some (match s.openBlock s.cursor.column with
        | some s' => s'.emit .blockMappingStart
        | none => s)
    else none
  (opened.bind dropKey).map fun s' => { s'.take .key 1 with keyAllowed := s.flowLevel = 0 }

/-- A colon before a value. If a key may have started on the line, it did. -/
def colon (s : Scanner) : Option Scanner :=
  match s.keys.lookup s.flowLevel with
  | some k =>
    let s' := { s with keys := s.keys.filter fun e => e.1 ≠ s.flowLevel }
    let s'' :=
      if s.flowLevel ≠ 0 then s'.insertAt k.token [.key]
      else match s'.openBlock k.column with
        | some opened => opened.insertAt k.token [.blockMappingStart, .key]
        | none => s'.insertAt k.token [.key]
    some { s''.take .value 1 with keyAllowed := false }
  | none =>
    if s.flowLevel ≠ 0 then
      s.dropKey.map fun s' => { s'.take .value 1 with keyAllowed := false }
    else if s.keyAllowed then
      let s' := match s.openBlock s.cursor.column with
        | some opened => opened.emit .blockMappingStart
        | none => s
      s'.dropKey.map fun s'' => { s''.take .value 1 with keyAllowed := true }
    else none

/-- Whether a character may stand in the name of an anchor. -/
def isAnchorChar (c : Char) : Bool :=
  c.isAlphanum || c = '-' || c = '_'

/-- An anchor or alias. -/
def reference (s : Scanner) (make : String → Token) : Option Scanner :=
  s.noteKey.bind fun s' =>
    let (name, c) := s'.cursor.step.span isAnchorChar
    if name.isEmpty || !(isBlankOrEnd c.peek || "?:,]\x7d%@`".toList.contains c.peek) then none
    else some { s'.emit (make (String.ofList name)) with cursor := c, keyAllowed := false }

/-- Whether a character may stand in a tag. -/
def isTagChar (c : Char) : Bool :=
  c.isAlphanum || "-;/?:@&=+$,_.!~*'()[]%".toList.contains c

/-- A tag. -/
def tagged (s : Scanner) : Option Scanner :=
  s.noteKey.bind fun s' =>
    let c := s'.cursor
    let found : Option (Option String × String × Cursor) :=
      if c.peek 1 = '<' then
        let (uri, after) := (c.advance 2).span isTagChar
        if uri.isEmpty || after.peek ≠ '>' then none
        else some (none, String.ofList uri, after.step)
      else if isBlankOrEnd (c.peek 1) then some (none, "!", c.step)
      else
        let word := c.step.rest.takeWhile fun ch => !isSpaceOrEnd ch
        let handle := word.takeWhile isAnchorChar
        let (h, after) : String × Cursor :=
          if word.contains '!' then
            if (word.drop handle.length).head? = some '!' then
              (String.ofList ('!' :: handle ++ ['!']), c.advance (handle.length + 2))
            else ("", c)
          else ("!", c.step)
        let (suffix, after') := after.span isTagChar
        if h = "" || suffix.isEmpty then none else some (some h, String.ofList suffix, after')
    match found with
    | none => none
    | some (h, suffix, c') =>
      if isSpaceOrEnd c'.peek then
        some { s'.emit (.tag h suffix) with cursor := c', keyAllowed := false }
      else none

/-- A scalar in quotes. -/
def quotedScalar (s : Scanner) (double : Bool) : Option Scanner :=
  s.noteKey.bind fun s' =>
    (readQuoted double s'.cursor).map fun r =>
      { s'.emit (.scalar (String.ofList r.1) false) with cursor := r.2, keyAllowed := false }

/-- A plain scalar. -/
def plainScalar (s : Scanner) : Option Scanner :=
  s.noteKey.map fun s' =>
    let (text, broken, c) := readPlain (s'.cursor.rest.length + 1) (s.flowLevel ≠ 0) (s.indent + 1)
      [] [] false s'.cursor
    { s'.emit (.scalar (String.ofList text) true) with cursor := c, keyAllowed := broken }

/-- A block scalar. -/
def blockScalar (s : Scanner) (folded : Bool) : Option Scanner :=
  s.dropKey.bind fun s' =>
    (readBlock folded s.indent s'.cursor).map fun r =>
      { s'.emit (.scalar (String.ofList r.1) false) with cursor := r.2, keyAllowed := true }

/-- A mark that starts or ends a document. -/
def documentMark (s : Scanner) (t : Token) : Option Scanner :=
  (s.unwind (-1)).dropKey.map fun s' => { s'.take t 3 with keyAllowed := false }

/-- The words of a directive line. -/
def directiveLine (s : Scanner) : Option Scanner :=
  (s.unwind (-1)).dropKey.bind fun s' =>
    let (name, c) := s'.cursor.step.span isAnchorChar
    let (line, c') := c.span fun ch => !isBreakOrEnd ch
    let body := line.takeWhile (· ≠ '#')
    let words := ((Text.splitOn ' ' body).filter fun w => !w.isEmpty).map String.ofList
    if name.isEmpty || !isSpaceOrEnd c.peek then none
    else
      let valid : Bool :=
        if name = "YAML".toList then
          match words with
          | [v] => match Text.parts '.' v with
            | [a, b] => a ≠ "" && b ≠ "" && a.all Char.isDigit && b.all Char.isDigit
            | _ => false
          | _ => false
        else if name = "TAG".toList then words.length = 2
        else true
      if valid then
        some { s'.emit (.directive (String.ofList name) words) with
          cursor := c'.takeBreak.2, keyAllowed := false }
      else none

/-- Whether a plain scalar may start here. -/
def startsPlain (s : Scanner) : Bool :=
  let ch := s.cursor.peek
  let special := isBlankOrEnd ch || "-?:,[]\x7b\x7d#&*!|>'\"%@`".toList.contains ch
  !special || (!isBlankOrEnd (s.cursor.peek 1) &&
    (ch = '-' || (s.flowLevel = 0 && (ch = '?' || ch = ':'))))

/-- The token at the cursor. -/
def next (s : Scanner) : Option Scanner :=
  let c := s.cursor
  let ch := c.peek
  let inFlow : Bool := s.flowLevel ≠ 0
  let spaced := isBlankOrEnd (c.peek 1)
  if ch = '%' && c.column = 0 then s.directiveLine
  else if c.column = 0 && c.atDocumentMark then
    s.documentMark (if ch = '-' then .documentStart else .documentEnd)
  else if ch = '[' then s.openFlow .flowSequenceStart
  else if ch = '\x7b' then s.openFlow .flowMappingStart
  else if ch = ']' then s.closeFlow .flowSequenceEnd
  else if ch = '\x7d' then s.closeFlow .flowMappingEnd
  else if ch = ',' then s.comma
  else if ch = '-' && spaced then s.entry
  else if ch = '?' && (inFlow || spaced) then s.explicitKey
  else if ch = ':' && (inFlow || spaced) then s.colon
  else if ch = '*' then s.reference .alias
  else if ch = '&' then s.reference .anchor
  else if ch = '!' then s.tagged
  else if ch = '|' && !inFlow then s.blockScalar false
  else if ch = '>' && !inFlow then s.blockScalar true
  else if ch = '\'' then s.quotedScalar false
  else if ch = '"' then s.quotedScalar true
  else if s.startsPlain then s.plainScalar
  else none

/-- Scans to the end of the text. -/
def run (fuel : Nat) (s : Scanner) : Option Scanner :=
  match fuel with
  | 0 => none
  | fuel + 1 =>
    match (s.skip (s.cursor.rest.length + 1)).dropStale with
    | none => none
    | some s' =>
      let s'' := s'.unwind (Int.ofNat s'.cursor.column)
      if s''.cursor.rest.isEmpty then (s''.unwind (-1)).dropKey
      else match s''.next with
        | none => none
        | some more => run fuel more

end Scanner

/-- Whether a character may occur in a YAML text. -/
def isAllowed (c : Char) : Bool :=
  let n := c.toNat
  n = 0x9 || n = 0xa || n = 0xd || (0x20 ≤ n && n ≤ 0x7e) || n = 0x85 || (0xa0 ≤ n && n ≤ 0xd7ff)
    || (0xe000 ≤ n && n ≤ 0xfffd) || 0x10000 ≤ n

/-- The tokens of a text, if it has any reading as tokens. A byte order mark in front is dropped. -/
def tokens? (cs : List Char) : Option (List Token) :=
  if cs.all isAllowed then
    let c : Cursor := ⟨cs, 0, 0, 0⟩
    let start : Cursor := if c.peek.toNat = 0xfeff then c.step else c
    (Scanner.run (2 * cs.length + 2) { cursor := start }).map fun s => s.tokens.reverse
  else none

end Downlevel.Yaml
