import Downlevel.CommandLine.Misuse
/-!
# Reading a command line

Options are read from left to right. A long spelling may hold its value after an equals sign; short
ones may be written together, the value of the last one with them. Two dashes end the options.
-/
namespace Downlevel.CommandLine

/-- An option that was given, with its value if it has one. -/
abbrev Given : Type :=
  Switch × Option String

/-- The options and the arguments of a command line. -/
structure Line where
  given : List Given
  arguments : List String
  deriving DecidableEq, Repr

namespace Line

/-- The option of a spelling. -/
def switch? (switches : List Switch) (spelling : String) : Option Switch :=
  switches.find? fun s => s.spellings.contains spelling

/-- Options written together after a dash. The value of one that wants a value is the rest, or else
the next word; whether that was used is told. -/
def together (switches : List Switch) (next : Option String) :
    List Char → Except Misuse (List Given × Bool)
  | [] => .ok ([], false)
  | c :: rest =>
    let spelling := String.ofList ['-', c]
    match switch? switches spelling with
    | none => .error (.unknownOption spelling [])
    | some s =>
      if s.operand?.isNone then
        match together switches next rest with
        | .ok (more, used) => .ok ((s, none) :: more, used)
        | .error e => .error e
      else if !rest.isEmpty then .ok ([(s, some (String.ofList rest))], false)
      else match next with
        | some v => .ok ([(s, some v)], true)
        | none => .error (.missingValue spelling)

/-- An option in its long spelling, with the text after an equals sign. -/
def alone (s : Switch) (spelling : String) (attached next : Option String) :
    Except Misuse (List Given × Bool) :=
  match s.operand?, attached, next with
  | none, none, _ => .ok ([(s, none)], false)
  | none, some _, _ => .error (.unwantedValue spelling)
  | some _, some v, _ => .ok ([(s, some v)], false)
  | some _, none, some v => .ok ([(s, some v)], true)
  | some _, none, none => .error (.missingValue spelling)

/-- The options in a word that starts with a dash. A long spelling is looked for first. -/
def optionsIn (switches : List Switch) (word : String) (next : Option String) :
    Except Misuse (List Given × Bool) :=
  let front := word.toList.takeWhile (· ≠ '=')
  let spelling := String.ofList front
  let attached := match word.toList.drop front.length with
    | _ :: value => some (String.ofList value)
    | [] => none
  match switches.find? fun s => s.longSpellings.contains spelling with
  | some s => alone s spelling attached next
  | none =>
    if word.startsWith "--" then
      .error (.unknownOption spelling
        (Text.similarTo spelling (switches.flatMap Switch.longSpellings)))
    else together switches next (word.toList.drop 1)

/-- Whether a word is read as an option. -/
def isOption (word : String) : Bool :=
  word.startsWith "-" && 1 < word.length

/-- Reads the words of a command line. With `open_` the arguments may stand between the options; else
the first argument ends them. -/
def readFrom (switches : List Switch) (open_ : Bool) (line : Line) :
    List String → Except Misuse Line
  | [] => .ok line
  | word :: rest =>
    if word = "--" then .ok { line with arguments := line.arguments ++ rest }
    else if isOption word then
      match optionsIn switches word rest.head? with
      | .error e => .error e
      | .ok (found, used) =>
        readFrom switches open_ { line with given := line.given ++ found }
          (rest.drop (if used then 1 else 0))
    else if open_ then
      readFrom switches open_ { line with arguments := line.arguments ++ [word] } rest
    else .ok { line with arguments := line.arguments ++ word :: rest }
  termination_by words => words.length
  decreasing_by
    all_goals simp only [List.length_drop, List.length_cons]
    all_goals omega

/-- Reads the command line of a scope. -/
def parse (scope : Scope) (words : List String) : Except Misuse Line :=
  readFrom scope.switches (scope ≠ .program) ⟨[], []⟩ words

/-- Whether an option was given. -/
def has (l : Line) (s : Switch) : Bool :=
  l.given.any fun g => g.1 = s

/-- The values that were given for an option. -/
def values (l : Line) (s : Switch) : List String :=
  l.given.filterMap fun g => if g.1 = s then g.2 else none

/-- The value of an option: the last one given, or else its default. -/
def value? (l : Line) (s : Switch) : Option String :=
  (l.values s).getLast?.or s.default?

/-- The given options, each once, in the order of their first appearance. -/
def options (l : Line) : List Switch :=
  (l.given.map Prod.fst).eraseDups

end Line

end Downlevel.CommandLine
