import Downlevel.Yaml.Cursor
/-!
# Scalars of YAML

The four written forms of a scalar: plain, in single quotes, in double quotes, and as a block. Line
breaks inside the first three are folded.
-/
namespace Downlevel.Yaml

/-- The spaces and breaks inside a plain scalar, folded. Nothing before a document mark; the flag
tells whether a line was broken. -/
def plainSpaces (c : Cursor) : Option (List Char) × Bool × Cursor :=
  let (spaces, afterSpaces) := c.span (· = ' ')
  if isBreak afterSpaces.peek then
    let (first, afterFirst) := afterSpaces.takeBreak
    if afterFirst.atDocumentMark then (none, true, afterFirst)
    else
      match breaks (afterFirst.rest.length + 1) [] afterFirst with
      | (none, c') => (none, true, c')
      | (some more, c') =>
        let front := if first ≠ ['\n'] then first else if more.isEmpty then [' '] else []
        (some (front ++ more), true, c')
  else (some spaces, false, afterSpaces)
where
  /-- The further breaks, with the spaces between them dropped. -/
  breaks (fuel : Nat) (acc : List Char) (c : Cursor) : Option (List Char) × Cursor :=
    match fuel with
    | 0 => (some acc, c)
    | fuel + 1 =>
      if c.peek = ' ' then breaks fuel acc c.step
      else if isBreak c.peek then
        let (b, c') := c.takeBreak
        if c'.atDocumentMark then (none, c') else breaks fuel (acc ++ b) c'
      else (some acc, c)

/-- Whether a plain scalar ends at a cursor. -/
def endsPlain (inFlow : Bool) (ch next : Char) : Bool :=
  isBlankOrEnd ch
    || (ch = ':' && (isBlankOrEnd next || (inFlow && ",[]\x7b\x7d".toList.contains next)))
    || (inFlow && ",?[]\x7b\x7d".toList.contains ch)

/-- The characters of a plain scalar up to a blank or an indicator. -/
def plainRun (inFlow : Bool) : List Char → List Char
  | [] => []
  | ch :: rest =>
    if endsPlain inFlow ch (rest.headD nul) then [] else ch :: plainRun inFlow rest

/-- A plain scalar: its text, whether a line was broken last, and the cursor after it. -/
def readPlain (fuel : Nat) (inFlow : Bool) (indent : Int) (text pending : List Char)
    (broken : Bool) (c : Cursor) : List Char × Bool × Cursor :=
  match fuel with
  | 0 => (text, broken, c)
  | fuel + 1 =>
    let run := if c.peek = '#' then [] else plainRun inFlow c.rest
    if run.isEmpty then (text, broken, c)
    else
      let text' := text ++ pending ++ run
      match plainSpaces (c.advance run.length) with
      | (none, broke, c') => (text', broke, c')
      | (some spaces, broke, c') =>
        if spaces.isEmpty || c'.peek = '#' || (!inFlow && Int.ofNat c'.column < indent) then
          (text', broke, c')
        else readPlain fuel inFlow indent text' spaces broke c'

/-- The folded breaks inside quotes; a document mark may not stand there. -/
def quotedBreaks (fuel : Nat) (acc : List Char) (c : Cursor) : Option (List Char × Cursor) :=
  match fuel with
  | 0 => none
  | fuel + 1 =>
    if c.atDocumentMark then none
    else
      let c' := (c.span fun ch => ch = ' ' || ch = '\t').2
      if isBreak c'.peek then
        let (b, c'') := c'.takeBreak
        quotedBreaks fuel (acc ++ b) c''
      else some (acc, c')

/-- The blanks and breaks inside quotes, folded. -/
def quotedSpaces (c : Cursor) : Option (List Char × Cursor) :=
  let (spaces, c') := c.span fun ch => ch = ' ' || ch = '\t'
  if c'.peek = nul then none
  else if isBreak c'.peek then
    let (first, c'') := c'.takeBreak
    match quotedBreaks (c''.rest.length + 1) [] c'' with
    | none => none
    | some (more, c3) =>
      let front := if first ≠ ['\n'] then first else if more.isEmpty then [' '] else []
      some (front ++ more, c3)
  else some (spaces, c')

/-- The characters that a backslash and one character stand for. -/
def escapes : List (Char × Nat) :=
  [('0', 0), ('a', 7), ('b', 8), ('t', 9), ('\t', 9), ('n', 10), ('v', 11), ('f', 12), ('r', 13),
   ('e', 27), (' ', 32), ('"', 34), ('\\', 92), ('/', 47), ('N', 0x85), ('_', 0xa0), ('L', 0x2028),
   ('P', 0x2029)]

/-- The number of hexadecimal digits that an escape asks for. -/
def escapeWidths : List (Char × Nat) :=
  [('x', 2), ('u', 4), ('U', 8)]

/-- The characters inside quotes up to a blank or the closing quote. -/
def quotedRun (fuel : Nat) (double : Bool) (acc : List Char) (c : Cursor) :
    Option (List Char × Cursor) :=
  match fuel with
  | 0 => none
  | fuel + 1 =>
    let (run, c') := c.span fun ch =>
      !(ch = '\'' || ch = '"' || ch = '\\' || isBlankOrEnd ch)
    let acc' := acc ++ run
    let ch := c'.peek
    if !double && ch = '\'' && c'.peek 1 = '\'' then
      quotedRun fuel double (acc' ++ ['\'']) (c'.advance 2)
    else if (double && ch = '\'') || (!double && (ch = '"' || ch = '\\')) then
      quotedRun fuel double (acc' ++ [ch]) c'.step
    else if double && ch = '\\' then
      let e := c'.peek 1
      match escapes.lookup e, escapeWidths.lookup e with
      | some n, _ => quotedRun fuel double (acc' ++ [Char.ofNat n]) (c'.advance 2)
      | none, some width =>
        let digits := (c'.rest.drop 2).take width
        match Json.hexNumber? digits with
        | some n =>
          if digits.length = width && n < 0x110000 then
            let ch := if 0xd800 ≤ n && n < 0xe000 then Char.ofNat 0xfffd else Char.ofNat n
            quotedRun fuel double (acc' ++ [ch]) (c'.advance (2 + width))
          else none
        | none => none
      | none, none =>
        if isBreak e then
          let c'' := (c'.step.takeBreak).2
          match quotedBreaks (c''.rest.length + 1) [] c'' with
          | some (more, c3) => quotedRun fuel double (acc' ++ more) c3
          | none => none
        else none
    else some (acc', c')

/-- A scalar in quotes, from its opening quote on. -/
def readQuoted (double : Bool) (c : Cursor) : Option (List Char × Cursor) :=
  go (c.rest.length + 1) [] c.step
where
  /-- The rest of the scalar after a part of it. -/
  go (fuel : Nat) (acc : List Char) (c : Cursor) : Option (List Char × Cursor) :=
    match fuel with
    | 0 => none
    | fuel + 1 =>
      match quotedRun (c.rest.length + 1) double acc c with
      | none => none
      | some (acc', c') =>
        if c'.peek = (if double then '"' else '\'') then some (acc', c'.step)
        else match quotedSpaces c' with
          | none => none
          | some (spaces, c'') => go fuel (acc' ++ spaces) c''

/-- What becomes of the line breaks at the end of a block. -/
inductive Chomping where
  | clip
  | strip
  | keep
  deriving DecidableEq, Repr

/-- The header of a block: its chomping and its indentation, each at most once. -/
def blockHeader (c : Cursor) : Option (Chomping × Option Nat × Cursor) :=
  let chomp? (c : Cursor) : Option Chomping :=
    if c.peek = '+' then some .keep else if c.peek = '-' then some .strip else none
  let digit? (c : Cursor) : Option Nat :=
    if c.peek.isDigit then some (c.peek.toNat - '0'.toNat) else none
  let read : Chomping × Option Nat × Cursor :=
    match chomp? c with
    | some ch =>
      match digit? c.step with
      | some n => (ch, some n, c.advance 2)
      | none => (ch, none, c.step)
    | none =>
      match digit? c with
      | some n =>
        match chomp? c.step with
        | some ch => (ch, some n, c.advance 2)
        | none => (.clip, some n, c.step)
      | none => (.clip, none, c)
  match read with
  | (ch, n, c') => if n = some 0 || !isSpaceOrEnd c'.peek then none else some (ch, n, c')

/-- Skips the rest of the header line: spaces and a comment. -/
def blockHeaderEnd (c : Cursor) : Option Cursor :=
  let c' := (c.span (· = ' ')).2
  let c'' := if c'.peek = '#' then (c'.span fun ch => !isBreakOrEnd ch).2 else c'
  if isBreakOrEnd c''.peek then some c''.takeBreak.2 else none

/-- Moves over spaces up to a column. -/
def spacesTo (fuel indent : Nat) (c : Cursor) : Cursor :=
  match fuel with
  | 0 => c
  | fuel + 1 => if c.column < indent && c.peek = ' ' then spacesTo fuel indent c.step else c

/-- The empty lines before a line of a block with known indentation. -/
def blockBreaks (fuel indent : Nat) (acc : List Char) (c : Cursor) : List Char × Cursor :=
  match fuel with
  | 0 => (acc, c)
  | fuel + 1 =>
    let c' := spacesTo (indent + 1) indent c
    if isBreak c'.peek then
      let (b, c'') := c'.takeBreak
      blockBreaks fuel indent (acc ++ b) c''
    else (acc, c')

/-- The empty lines before the first line of a block, and the greatest column seen. -/
def blockIndentation (fuel : Nat) (acc : List Char) (deepest : Nat) (c : Cursor) :
    List Char × Nat × Cursor :=
  match fuel with
  | 0 => (acc, deepest, c)
  | fuel + 1 =>
    if c.peek = ' ' then blockIndentation fuel acc (max deepest c.step.column) c.step
    else if isBreak c.peek then
      let (b, c') := c.takeBreak
      blockIndentation fuel (acc ++ b) deepest c'
    else (acc, deepest, c)

/-- The lines of a block: its text, the last line break and the empty lines after it. -/
def blockLines (fuel : Nat) (folded : Bool) (indent : Nat) (text breaks : List Char)
    (c : Cursor) : List Char × List Char × List Char × Cursor :=
  match fuel with
  | 0 => (text, [], breaks, c)
  | fuel + 1 =>
    let solid := !(c.peek = ' ' || c.peek = '\t')
    let (run, c') := c.span fun ch => !isBreakOrEnd ch
    let text' := text ++ breaks ++ run
    let (lineBreak, c'') := c'.takeBreak
    let (more, c3) := blockBreaks (c''.rest.length + 1) indent [] c''
    if c3.column = indent && c3.peek ≠ nul then
      let joint :=
        if folded && lineBreak = ['\n'] && solid && !(c3.peek = ' ' || c3.peek = '\t') then
          if more.isEmpty then [' '] else []
        else lineBreak
      blockLines fuel folded indent (text' ++ joint) more c3
    else (text', lineBreak, more, c3)

/-- A block scalar, from its indicator on. -/
def readBlock (folded : Bool) (parent : Int) (c : Cursor) : Option (List Char × Cursor) :=
  match blockHeader c.step with
  | none => none
  | some (chomping, increment, afterHeader) =>
    match blockHeaderEnd afterHeader with
    | none => none
    | some c' =>
      let least : Nat := max 1 (parent + 1).toNat
      let (breaks, indent, c'') : List Char × Nat × Cursor := match increment with
        | some n =>
          let indent := least + n - 1
          let (b, d) := blockBreaks (c'.rest.length + 1) indent [] c'
          (b, indent, d)
        | none =>
          let (b, deepest, d) := blockIndentation (c'.rest.length + 1) [] 0 c'
          (b, max least deepest, d)
      let (text, lineBreak, rest, c3) :=
        if c''.column = indent && c''.peek ≠ nul then
          blockLines (c''.rest.length + 1) folded indent [] breaks c''
        else ([], [], breaks, c'')
      let tail := match chomping with
        | .strip => []
        | .clip => lineBreak
        | .keep => lineBreak ++ rest
      some (text ++ tail, c3)

end Downlevel.Yaml
