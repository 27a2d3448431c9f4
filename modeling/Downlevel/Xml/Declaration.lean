import Downlevel.Xml.Token
/-!
# Declarations of XML

The declarations of a document type are cut into marks, and each kind of declaration is a certain
sequence of marks. Entities and the attributes that elements have by default are kept, all else is
only checked.
-/
namespace Downlevel.Xml

/-- A mark in a declaration. -/
inductive Mark where
  /-- A name with at most one colon in it. -/
  | name (chars : List Char)
  /-- Characters of names that are no name. -/
  | word (chars : List Char)
  /-- A name and the sign of how often it may occur. -/
  | counted (chars : List Char)
  /-- A name after a hash sign. -/
  | keyword (chars : List Char)
  | literal (chars : List Char)
  | opening
  /-- A closing parenthesis, perhaps with a sign of how often the group may occur. -/
  | closing (count : Option Char)
  | bar
  | comma
  | percent
  deriving DecidableEq, Repr

/-- Whether a text goes on with a blank or one of some characters. -/
def goesOnWith (others : String) : List Char → Bool
  | [] => false
  | c :: _ => isSpace c || others.toList.contains c

/-- Whether a character tells how often something may occur. -/
def isCount (c : Char) : Bool :=
  c = '?' || c = '*' || c = '+'

/-- Whether characters of names are a name: they start as one, and a colon stands at most once and
not at the end. -/
def isDeclaredName (cs : List Char) : Bool :=
  (cs.head?.map isNameStart).getD false
    && (cs.count ':' = 0 || (cs.count ':' = 1 && cs.getLast? ≠ some ':'))

/-- A name or word at the head of a text. -/
def readWord (cs : List Char) : Option (Mark × List Char) :=
  let run := cs.takeWhile fun c => isNamePartChar c || c = ':'
  let after := cs.drop run.length
  if run.isEmpty then none
  else if goesOnWith ">),|[%" after then
    some (if isDeclaredName run then .name run else .word run, after)
  else match after with
    | c :: rest => if isCount c && isDeclaredName run then some (.counted run, rest) else none
    | [] => none

/-- The mark at the head of a text. -/
def readMark (cs : List Char) : Option (Mark × List Char) :=
  match cs with
  | '(' :: rest => some (.opening, rest)
  | '|' :: rest => some (.bar, rest)
  | ',' :: rest => some (.comma, rest)
  | '%' :: rest => if goesOnWith "%" rest then some (.percent, rest) else none
  | ')' :: c :: rest =>
    if isCount c then some (.closing (some c), rest)
    else if goesOnWith ">,|)" (c :: rest) then some (.closing none, c :: rest)
    else none
  | '#' :: rest =>
    let name := rest.takeWhile isNamePartChar
    let after := rest.drop name.length
    if (name.head?.map isNameStart).getD false && goesOnWith ")>%|" after then
      some (.keyword name, after)
    else none
  | '"' :: rest => literal '"' rest
  | '\'' :: rest => literal '\'' rest
  | _ => readWord cs
where
  /-- A literal after its opening quote. -/
  literal (quote : Char) (cs : List Char) : Option (Mark × List Char) :=
    match cutAt [quote] cs with
    | some (body, after) =>
      if (body.all fun c => isCharPoint c.toNat) && goesOnWith ">%[" after then
        some (.literal body, after)
      else none
    | none => none

/-- The marks up to the end of a declaration or to a bracket, which stays at the head of the rest. -/
def readMarks (fuel : Nat) (cs : List Char) : Option (List Mark × List Char) :=
  match fuel with
  | 0 => none
  | fuel + 1 =>
    match skipSpaces cs with
    | [] => none
    | c :: rest =>
      if c = '>' || c = '[' then some ([], c :: rest)
      else match readMark (c :: rest) with
        | some (m, more) => (readMarks fuel more).map fun r => (m :: r.1, r.2)
        | none => none

/-- A mark that is a certain word. -/
def Mark.ofWord (s : String) : Mark :=
  .name s.toList

/-- Whether a character may stand in a public identifier. -/
def isPublicChar (c : Char) : Bool :=
  c.isAlphanum || c = '\n' || " -'()+,./:=?;!*#@$_%".toList.contains c

/-- Drops the place at which something outside the document is found. -/
def dropExternal? : List Mark → Option (List Mark)
  | m :: .literal a :: rest =>
    if m = .ofWord "SYSTEM" then some rest
    else if m = .ofWord "PUBLIC" && a.all isPublicChar then
      match rest with
      | .literal _ :: rest' => some rest'
      | _ => none
    else none
  | _ => none

/-- Names or words with bars between them up to the closing parenthesis. -/
def dropChoices? (plainNames : Bool) : List Mark → Option (List Mark)
  | m :: next :: rest =>
    let fits : Bool := match m with
      | .name n => !plainNames || !n.contains ':'
      | .word _ => !plainNames
      | _ => false
    if fits then
      match next with
      | .bar => dropChoices? plainNames rest
      | .closing none => some rest
      | _ => none
    else none
  | _ => none

/-- The types of attributes that are a single word. -/
def attributeTypes : List String :=
  ["CDATA", "ID", "IDREF", "IDREFS", "ENTITY", "ENTITIES", "NMTOKEN", "NMTOKENS"]

/-- Drops the type of an attribute. -/
def dropType? : List Mark → Option (List Mark)
  | .opening :: rest => dropChoices? false rest
  | .name n :: rest =>
    if attributeTypes.contains (String.ofList n) then some rest
    else if n = "NOTATION".toList then
      match rest with
      | .opening :: rest' => dropChoices? true rest'
      | _ => none
    else none
  | _ => none

/-- The default of an attribute, if it has one. -/
def readDefault : List Mark → Option (Option (List Char) × List Mark)
  | .literal v :: rest => some (some v, rest)
  | .keyword k :: rest =>
    if k = "IMPLIED".toList || k = "REQUIRED".toList then some (none, rest)
    else if k = "FIXED".toList then
      match rest with
      | .literal v :: rest' => some (some v, rest')
      | _ => none
    else none
  | _ => none

/-- The attributes of a declaration with their defaults. -/
def readDefinitions (fuel : Nat) (ms : List Mark) : Option (List (List Char × Option (List Char))) :=
  match fuel, ms with
  | _, [] => some []
  | fuel + 1, .name key :: rest =>
    match (dropType? rest).bind readDefault with
    | some (value, more) => (readDefinitions fuel more).map ((key, value) :: ·)
    | none => none
  | _, _ => none

/-- Whether marks are the rest of a content model in which groups are open. Each open group has the
sign between its items, once there is one. `item` tells that an item comes next. -/
def isModel (item : Bool) : List (Option Mark) → List Mark → Bool
  | [], ms => ms.isEmpty
  | _, [] => false
  | sign :: outer, m :: rest =>
    if item then
      match m with
      | .opening => isModel true (none :: sign :: outer) rest
      | .name _ => isModel false (sign :: outer) rest
      | .counted _ => isModel false (sign :: outer) rest
      | _ => false
    else match m with
      | .closing _ => isModel false outer rest
      | .bar => sign ≠ some .comma && isModel true (some .bar :: outer) rest
      | .comma => sign ≠ some .bar && isModel true (some .comma :: outer) rest
      | _ => false

/-- Whether marks are names with a bar before each and the closing parenthesis of a mixed model. -/
def isMixed : List Mark → Bool
  | [.closing count] => count = some '*'
  | .bar :: .name _ :: rest => isMixed rest
  | _ => false

/-- Whether marks say what an element may contain. -/
def isContent : List Mark → Bool
  | [.name n] => n = "EMPTY".toList || n = "ANY".toList
  | .opening :: .keyword k :: rest =>
    k = "PCDATA".toList && (rest = [.closing none] || isMixed rest)
  | .opening :: rest => isModel true [none] rest
  | _ => false

/-- What a declaration says. -/
inductive Declaration where
  /-- An entity for content, with its value as it is written. -/
  | entity (name : List Char) (value : Option (List Char))
  /-- An entity for declarations. -/
  | inner (value : Option (List Char))
  | attributes (element : List Char) (definitions : List (List Char × Option (List Char)))
  /-- A declaration without a meaning here. -/
  | idle
  deriving DecidableEq, Repr

namespace Declaration

/-- Whether a name has no colon. -/
def isPlain (name : List Char) : Bool :=
  !name.contains ':'

/-- The declaration of an entity. -/
def entityOfMarks? : List Mark → Option Declaration
  | [.percent, .name n, .literal v] => if isPlain n then some (.inner (some v)) else none
  | .percent :: .name n :: rest =>
    if isPlain n && dropExternal? rest = some [] then some (.inner none) else none
  | [.name n, .literal v] => if isPlain n then some (.entity n (some v)) else none
  | .name n :: rest =>
    if isPlain n then
      match dropExternal? rest with
      | some [] => some (.entity n none)
      | some [m, .name notation_] =>
        if m = .ofWord "NDATA" && isPlain notation_ then some (.entity n none) else none
      | _ => none
    else none
  | _ => none

/-- The declaration of a keyword and marks. -/
def ofMarks? (keyword : String) (ms : List Mark) : Option Declaration :=
  match keyword, ms with
  | "ENTITY", _ => entityOfMarks? ms
  | "ATTLIST", .name element :: rest =>
    (readDefinitions rest.length rest).map (.attributes element)
  | "ELEMENT", .name _ :: rest => if isContent rest then some .idle else none
  | "NOTATION", .name n :: rest =>
    let isPublic : Bool := match rest with
      | [m, .literal a] => m = .ofWord "PUBLIC" && a.all isPublicChar
      | _ => false
    if isPlain n && (isPublic || dropExternal? rest = some []) then some .idle else none
  | _, _ => none

/-- The declaration after its opening, and the text after it. -/
def read (cs : List Char) : Option (Declaration × List Char) :=
  let keyword := cs.takeWhile fun c => c.isAlpha || c = '_'
  let body := cs.drop keyword.length
  if goesOnWith "" body then
    match readMarks (body.length + 1) body with
    | some (ms, '>' :: after) => (ofMarks? (String.ofList keyword) ms).map (·, after)
    | _ => none
  else none

end Declaration

end Downlevel.Xml
