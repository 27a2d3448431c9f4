import Downlevel.Text.Blank
/-!
# Files of variables

A file of variables binds names to values, one binding a line. A value may stand in quotes, in which
some escapes are read, and may name earlier variables as `$` with a name in braces. A line that is no
binding is passed over. A name without an equals sign is bound to nothing.
-/
namespace Downlevel.EnvFile

/-- A binding of a name, and the place where a line could not be read. -/
inductive Line where
  | binding (name : String) (value : Option String)
  | comment
  | unreadable (number : Nat)
  deriving DecidableEq, Repr

/-- Whether a character is a blank inside a line. -/
def isInnerBlank (c : Char) : Bool :=
  Text.isBlank c && c ≠ '\r' && c ≠ '\n'

/-- Whether a character ends a line. -/
def isEnd (c : Char) : Bool :=
  c = '\r' || c = '\n'

/-- Drops the word that marks a variable for other programs. -/
def dropExport (cs : List Char) : List Char :=
  let word := "export".toList
  if word.isPrefixOf cs && ((cs.drop word.length).head?.map isInnerBlank).getD false then
    (cs.drop word.length).dropWhile isInnerBlank
  else cs

/-- A name in front of a text: nothing before a comment, no result if there is no name. -/
def readName (cs : List Char) : Option (Option String × List Char) :=
  match cs with
  | '#' :: _ => some (none, cs)
  | '\'' :: rest =>
    let name := rest.takeWhile (· ≠ '\'')
    match rest.drop name.length with
    | '\'' :: more => if name.isEmpty then none else some (some (String.ofList name), more)
    | _ => none
  | _ =>
    let name := cs.takeWhile fun c => !(c = '=' || c = '#' || Text.isBlank c)
    if name.isEmpty then none else some (some (String.ofList name), cs.drop name.length)

/-- The text up to the closing quote and the rest. A quote after a backslash does not close, unless
no later quote does. -/
def readQuoted (quote : Char) : List Char → Option (List Char × List Char)
  | [] => none
  | [c] => if c = quote then some ([], []) else none
  | c :: d :: rest =>
    if c = quote then some ([], d :: rest)
    else if c = '\\' && d = quote then
      match readQuoted quote rest with
      | some (text, after) => some (c :: d :: text, after)
      | none => some ([c], rest)
    else (readQuoted quote (d :: rest)).map fun r => (c :: r.1, r.2)

/-- The escapes inside single quotes. -/
def singleEscapes : List (Char × Char) :=
  [('\\', '\\'), ('\'', '\'')]

/-- The escapes inside double quotes. -/
def doubleEscapes : List (Char × Char) :=
  singleEscapes ++ [('"', '"'), ('a', Char.ofNat 7), ('b', Char.ofNat 8), ('f', Char.ofNat 12),
    ('n', '\n'), ('r', '\r'), ('t', '\t'), ('v', Char.ofNat 11)]

/-- A text with its escapes read; a backslash before any other character stays. -/
def unescaped (escapes : List (Char × Char)) : List Char → List Char
  | [] => []
  | '\\' :: c :: rest =>
    match escapes.lookup c with
    | some d => d :: unescaped escapes rest
    | none => '\\' :: unescaped escapes (c :: rest)
  | c :: rest => c :: unescaped escapes rest

/-- A value without quotes up to a comment, which follows a blank. The blanks not yet known to be
part of the value are held apart. -/
def untilComment (blanks : List Char) : List Char → List Char
  | [] => blanks
  | c :: rest =>
    if Text.isBlank c then untilComment (blanks ++ [c]) rest
    else if c = '#' && !blanks.isEmpty then []
    else blanks ++ c :: untilComment [] rest

/-- A value after an equals sign and the rest of the text. -/
def readValue (cs : List Char) : Option (String × List Char) :=
  match cs with
  | '\'' :: rest => (readQuoted '\'' rest).map fun r =>
      (String.ofList (unescaped singleEscapes r.1), r.2)
  | '"' :: rest => (readQuoted '"' rest).map fun r =>
      (String.ofList (unescaped doubleEscapes r.1), r.2)
  | _ =>
    let line := cs.takeWhile fun c => !isEnd c
    some (String.ofList (Text.stripRight (untilComment [] line)), cs.drop line.length)

/-- The text after a line that ends here, perhaps after a comment. -/
def endLine? (cs : List Char) : Option (List Char) :=
  let c1 := cs.dropWhile isInnerBlank
  let c2 := match c1 with
    | '#' :: _ => c1.dropWhile fun c => !isEnd c
    | _ => c1
  match c2 with
  | [] => some []
  | '\r' :: '\n' :: rest => some rest
  | c :: rest => if isEnd c then some rest else none

/-- The text after the line. -/
def skipLine (cs : List Char) : List Char :=
  (cs.dropWhile fun c => !isEnd c).drop 1

/-- The number of line ends in the part of a text before a rest of it. -/
def linesBefore (cs rest : List Char) : Nat :=
  ((Text.unifyNewlines (cs.take (cs.length - rest.length))).filter (· = '\n')).length

/-- A line in front of a text that starts with no blank, and the text after it. -/
def readLine (number : Nat) (cs : List Char) : Line × List Char :=
  let body := dropExport cs
  match readName body with
  | none => (.unreadable number, skipLine body)
  | some (name, afterName) =>
    let afterBlanks := afterName.dropWhile isInnerBlank
    let value : Option (Option String × List Char) := match afterBlanks with
      | '=' :: more =>
        let start := more.dropWhile isInnerBlank
        match readValue start with
        | some (v, rest) => some (some v, rest)
        | none => none
      | _ => some (none, afterBlanks)
    match value with
    | none => (.unreadable number, skipLine (afterBlanks.drop 1 |>.dropWhile isInnerBlank))
    | some (v, rest) =>
      match endLine? rest with
      | none => (.unreadable number, skipLine rest)
      | some after =>
        match name with
        | some n => (.binding n v, after)
        | none => (.comment, after)

/-- The lines of a text; a line takes at least one character. -/
def readLines (fuel number : Nat) (cs : List Char) : List Line :=
  match fuel with
  | 0 => []
  | fuel + 1 =>
    let body := cs.dropWhile Text.isBlank
    if body.isEmpty then []
    else
      let (line, rest) := readLine number body
      line :: readLines fuel (number + linesBefore cs rest) rest

/-- The lines of a file of variables. -/
def parse (cs : List Char) : List Line :=
  readLines (cs.length + 1) 1 cs

/-- Sets a variable: an old one is replaced in its place, a new one goes to the end. -/
def bind (name : String) (value : α) : List (String × α) → List (String × α)
  | [] => [(name, value)]
  | (n, v) :: rest => if n = name then (n, value) :: rest else (n, v) :: bind name value rest

/-- The variable in braces in front of a text, with what stands for it if it is not set. -/
def readVariable (cs : List Char) : Option (String × String × List Char) :=
  let name := cs.takeWhile fun c => !(c = '\x7d' || c = ':')
  match cs.drop name.length with
  | '\x7d' :: rest => some (String.ofList name, "", rest)
  | ':' :: '-' :: more =>
    let fallback := more.takeWhile (· ≠ '\x7d')
    match more.drop fallback.length with
    | '\x7d' :: rest => some (String.ofList name, String.ofList fallback, rest)
    | _ => none
  | _ => none

/-- A text with its variables replaced; a variable takes at least one character. -/
def expanded (value? : String → Option String) (fuel : Nat) (cs : List Char) : String :=
  match fuel, cs with
  | _, [] => ""
  | 0, _ => String.ofList cs
  | fuel + 1, '$' :: '\x7b' :: rest =>
    match readVariable rest with
    | some (name, fallback, after) =>
      (value? name).getD fallback ++ expanded value? fuel after
    | none => "$" ++ expanded value? fuel ('\x7b' :: rest)
  | fuel + 1, c :: rest => String.singleton c ++ expanded value? fuel rest

/-- The variables of lines, with the values of earlier lines and then of an environment in place of
their names. A name bound to nothing stands for the empty text. -/
def resolve (environment : List (String × String)) (done : List (String × Option String)) :
    List Line → List (String × Option String)
  | [] => done
  | .binding name value :: rest =>
    let known (n : String) : Option String := match done.lookup n with
      | some v => some (v.getD "")
      | none => environment.lookup n
    resolve environment
      (bind name (value.map fun v => expanded known (v.length + 1) v.toList) done) rest
  | _ :: rest => resolve environment done rest

/-- The numbers of the lines that could not be read. -/
def faults (ls : List Line) : List Nat :=
  ls.filterMap fun l => match l with
    | .unreadable n => some n
    | _ => none

end Downlevel.EnvFile
