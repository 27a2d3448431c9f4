import Downlevel.Data.Json
import Downlevel.Xml.Name
/-!
# Tokens of XML content

Content is cut into tags and text. Comments and processing instructions are checked and dropped,
references are replaced. The replacement of an entity is content of its own in which the tags nest,
and an entity may not occur in itself. In the value of an attribute, an entity that nothing defines
counts as empty if its definition may have been missed.
-/
namespace Downlevel.Xml

/-- A piece of content. -/
inductive Token where
  | start (name : List Char) (attributes : List (List Char × List Char)) (isEmpty : Bool)
  | stop (name : List Char)
  /-- Text; `literal` tells that it stands in the document itself. -/
  | text (chars : List Char) (literal : Bool)
  deriving DecidableEq, Repr

/-- The entities of a document with their replacement texts; those kept elsewhere have none. The
table is complete if no definition can have been missed. -/
structure Entities where
  table : List (List Char × Option (List Char)) := []
  isComplete : Bool := true
  deriving DecidableEq, Repr

namespace Entities

/-- The number of entities. -/
def size (es : Entities) : Nat :=
  es.table.length

/-- The replacement text of an entity, if it has one. -/
def replacement? (es : Entities) (name : List Char) : Option (List Char) :=
  (es.table.lookup name).join

/-- Whether an entity may stand in the value of an attribute although nothing defines it. -/
def mayMiss (es : Entities) (name : List Char) : Bool :=
  !es.isComplete && (es.table.lookup name).isNone

/-- Defines an entity, unless it is defined already. -/
def define (es : Entities) (name : List Char) (value : Option (List Char)) : Entities :=
  if (es.table.lookup name).isSome then es else { es with table := es.table ++ [(name, value)] }

end Entities

/-- The entities that every document has. -/
def predefined : List (List Char × Char) :=
  [("lt".toList, '<'), ("gt".toList, '>'), ("amp".toList, '&'), ("quot".toList, '"'),
   ("apos".toList, '\'')]

/-- The character of a numeric reference, without its ampersand and hash. -/
def numericReference? (cs : List Char) : Option Char :=
  let n? := match cs with
    | 'x' :: hex => Json.hexNumber? hex
    | _ => if cs.isEmpty || !cs.all Char.isDigit then none else some (Text.digitsValue cs)
  n?.bind fun n => if isCharPoint n then some (Char.ofNat n) else none

/-- A reference after its ampersand. -/
inductive Reference where
  | char (c : Char)
  | entity (name : List Char)
  deriving DecidableEq, Repr

/-- Reads a reference after its ampersand. -/
def readReference (cs : List Char) : Option (Reference × List Char) :=
  match cutAt [';'] cs with
  | none => none
  | some (body, rest) =>
    match body with
    | '#' :: digits => (numericReference? digits).map fun c => (.char c, rest)
    | _ =>
      match predefined.lookup body with
      | some c => some (.char c, rest)
      | none =>
        match readName body with
        | some (name, []) => if name.contains ':' then none else some (.entity name, rest)
        | _ => none

/-- The value of an attribute with its references replaced. An entity in a value may not hold a
less-than sign. -/
def attributeValue? (depth fuel : Nat) (entities : Entities) (cs : List Char) :
    Option (List Char) :=
  match fuel, cs with
  | _, [] => some []
  | 0, _ => none
  | fuel + 1, '&' :: rest =>
    match readReference rest with
    | none => none
    | some (.char c, more) => (attributeValue? depth fuel entities more).map (c :: ·)
    | some (.entity name, more) =>
      if entities.mayMiss name then attributeValue? depth fuel entities more
      else match depth, entities.replacement? name with
        | depth' + 1, some replacement =>
          match attributeValue? depth' (replacement.length + 1) entities replacement with
          | none => none
          | some value => (attributeValue? (depth' + 1) fuel entities more).map (value ++ ·)
        | _, _ => none
  | fuel + 1, c :: rest =>
    if c = '<' || !isCharPoint c.toNat then none
    else (attributeValue? depth fuel entities rest).map (c :: ·)
  termination_by (depth, fuel)

/-- The attributes of a tag up to its end, and whether the tag is an empty element. -/
def readAttributes (fuel : Nat) (entities : Entities) (cs : List Char) :
    Option (List (List Char × List Char) × Bool × List Char) :=
  match fuel with
  | 0 => none
  | fuel + 1 =>
    match skipSpaces cs with
    | '>' :: rest => some ([], false, rest)
    | '/' :: '>' :: rest => some ([], true, rest)
    | trimmed =>
      if trimmed.length = cs.length then none
      else match readName trimmed with
        | none => none
        | some (name, afterName) =>
          match skipSpaces afterName with
          | '=' :: afterEquals =>
            match skipSpaces afterEquals with
            | q :: body =>
              if q = '"' || q = '\'' then
                match cutAt [q] body with
                | none => none
                | some (raw, rest) =>
                  match attributeValue? entities.size (raw.length + 1) entities raw,
                      readAttributes fuel entities rest with
                  | some value, some (more, isEmpty, after) =>
                    some ((name, value) :: more, isEmpty, after)
                  | _, _ => none
              else none
            | [] => none
          | _ => none

/-- Whether the tags in a list of tokens nest, given the open ones. -/
def nests (depth : Nat) : List Token → Bool
  | [] => depth = 0
  | .start _ _ true :: rest => nests depth rest
  | .start _ _ false :: rest => nests (depth + 1) rest
  | .stop _ :: rest => match depth with
    | 0 => false
    | depth + 1 => nests depth rest
  | .text _ _ :: rest => nests depth rest

/-- Skips a comment after its opening; two hyphens may stand only at its end. -/
def skipComment (cs : List Char) : Option (List Char) :=
  match cutAt ['-', '-'] cs with
  | some (body, '>' :: rest) => if body.all fun c => isCharPoint c.toNat then some rest else none
  | _ => none

/-- Skips a processing instruction after its opening. Its target may not be the word xml. -/
def skipInstruction (cs : List Char) : Option (List Char) :=
  match readName cs with
  | none => none
  | some (target, rest) =>
    if (target.map Char.toLower) = "xml".toList || target.contains ':' then none
    else match rest with
      | '?' :: '>' :: after => some after
      | c :: _ =>
        if isSpace c then
          match cutAt ['?', '>'] rest with
          | some (body, after) =>
            if body.all fun c => isCharPoint c.toNat then some after else none
          | none => none
        else none
      | [] => none

/-- The tokens of content. `depth` bounds how far entities stand in one another. -/
def tokens? (depth fuel : Nat) (entities : Entities) (literal : Bool) (cs : List Char) :
    Option (List Token) :=
  match fuel, cs with
  | _, [] => some []
  | 0, _ => none
  | fuel + 1, '<' :: rest =>
    match rest with
    | '!' :: '-' :: '-' :: body =>
      match skipComment body with
      | some after => tokens? depth fuel entities literal after
      | none => none
    | '!' :: '[' :: 'C' :: 'D' :: 'A' :: 'T' :: 'A' :: '[' :: body =>
      match cutAt [']', ']', '>'] body with
      | some (data, after) =>
        if data.all fun c => isCharPoint c.toNat then
          (tokens? depth fuel entities literal after).map (.text data false :: ·)
        else none
      | none => none
    | '?' :: body =>
      match skipInstruction body with
      | some after => tokens? depth fuel entities literal after
      | none => none
    | '/' :: body =>
      match readName body with
      | none => none
      | some (name, afterName) =>
        match skipSpaces afterName with
        | '>' :: after => (tokens? depth fuel entities literal after).map (.stop name :: ·)
        | _ => none
    | body =>
      match readName body with
      | none => none
      | some (name, afterName) =>
        match readAttributes (afterName.length + 1) entities afterName with
        | none => none
        | some (attributes, isEmpty, after) =>
          (tokens? depth fuel entities literal after).map (.start name attributes isEmpty :: ·)
  | fuel + 1, '&' :: rest =>
    match readReference rest with
    | none => none
    | some (.char c, after) =>
      (tokens? depth fuel entities literal after).map (.text [c] false :: ·)
    | some (.entity name, after) =>
      match depth, entities.replacement? name with
      | depth' + 1, some replacement =>
        match tokens? depth' (replacement.length + 1) entities false replacement with
        | none => none
        | some inner =>
          if nests 0 inner then
            (tokens? (depth' + 1) fuel entities literal after).map (inner ++ ·)
          else none
      | _, _ => none
  | fuel + 1, c :: rest =>
    if !isCharPoint c.toNat || [']', ']', '>'].isPrefixOf (c :: rest) then none
    else (tokens? depth fuel entities literal rest).map (.text [c] literal :: ·)
  termination_by (depth, fuel)

end Downlevel.Xml
