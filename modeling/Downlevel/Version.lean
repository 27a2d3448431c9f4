import Downlevel.Numeral
/-!
# Versions

The major version of a Java version is its first number, or the second one after a leading `1`.
Versions are compared by their numbers without the zeros at the end, so `1.8` and `1.8.0` are equal.
A requirement is an exact version or a range in brackets; a round bracket leaves its end out, and an
empty end is open. Digits of every script count.
-/
namespace Downlevel.Version

/-- The major version in a version text, if the text starts with a number. -/
def major? (version : String) : Except Failure (Option Nat) :=
  let cs := Text.strip version.toList
  let first := cs.takeWhile Text.isDigit
  if first.isEmpty then .ok none
  else
    match Numeral.ofDigits first with
    | .error e => .error e
    | .ok n =>
      let second := match cs.drop first.length with
        | '.' :: rest => rest.takeWhile Text.isDigit
        | _ => []
      if n = 1 ∧ second ≠ [] then
        match Numeral.ofDigits second with
        | .error e => .error e
        | .ok m => .ok (some m)
      else .ok (some n)

/-- The runs of digits in a text; the current one is held in reverse. -/
def digitRunsFrom (current : List Char) : List Char → List (List Char)
  | [] => if current.isEmpty then [] else [current.reverse]
  | c :: rest =>
    if Text.isDigit c then digitRunsFrom (c :: current) rest
    else if current.isEmpty then digitRunsFrom [] rest
    else current.reverse :: digitRunsFrom [] rest

/-- The runs of digits in a text. -/
def digitRuns (cs : List Char) : List (List Char) :=
  digitRunsFrom [] cs

/-- Drops the zeros at the end. -/
def trimZeros (ns : List Nat) : List Nat :=
  (ns.reverse.dropWhile (· = 0)).reverse

/-- What a version is compared by: its numbers without the zeros at the end. -/
def key (cs : List Char) : Except Failure (List Nat) :=
  match (digitRuns cs).mapM Numeral.ofDigits with
  | .error e => .error e
  | .ok ns => .ok (trimZeros ns)

/-- Whether a key comes before another: at the first difference, or as its beginning. -/
def keyLt : List Nat → List Nat → Bool
  | [], [] => false
  | [], _ :: _ => true
  | _ :: _, [] => false
  | a :: as, b :: bs => a < b || (a == b && keyLt as bs)

/-- Whether a character may stand between the numbers of a version. -/
def isSeparator (c : Char) : Bool :=
  c = '.' || c = '_' || c = '-'

/-- Whether a text is numbers with single separators between them. -/
def isNumeric (cs : List Char) : Bool :=
  go false cs
where
  /-- The rest of a version; `inside` tells whether the last character was a digit. -/
  go (inside : Bool) : List Char → Bool
    | [] => inside
    | c :: rest => if Text.isDigit c then go true rest else inside && isSeparator c && go false rest

/-- A range of versions: its ends without blanks, and whether each end is left out. -/
structure Range where
  low : List Char
  lowOpen : Bool
  high : List Char
  highOpen : Bool
  deriving DecidableEq, Repr

/-- Reads a range: brackets around two ends with the only comma between them. -/
def range? (cs : List Char) : Option Range :=
  match cs with
  | [] => none
  | first :: rest =>
    match rest.getLast? with
    | none => none
    | some last =>
      if (first = '[' || first = '(') && (last = ']' || last = ')') then
        match Text.splitOn ',' rest.dropLast with
        | [low, high] => some ⟨Text.strip low, first = '(', Text.strip high, last = ')'⟩
        | _ => none
      else none

/-- Whether a key is not below the lower end. -/
def Range.aboveLow (r : Range) (k : List Nat) : Except Failure Bool :=
  if r.low = [] then .ok true
  else match key r.low with
    | .error e => .error e
    | .ok l => .ok (!(keyLt k l || (k == l && r.lowOpen)))

/-- Whether a key is not above the upper end. -/
def Range.belowHigh (r : Range) (k : List Nat) : Except Failure Bool :=
  if r.high = [] then .ok true
  else match key r.high with
    | .error e => .error e
    | .ok h => .ok (!(keyLt h k || (k == h && r.highOpen)))

/-- Whether a version lies in a range. -/
def Range.contains (r : Range) (version : List Char) : Except Failure Bool :=
  match key version with
  | .error e => .error e
  | .ok k =>
    match r.aboveLow k with
    | .error e => .error e
    | .ok false => .ok false
    | .ok true => r.belowHigh k

/-- Whether a provided version meets a requirement. -/
def meets (requirement provided : String) : Except Failure Bool :=
  let required := Text.strip requirement.toList
  match range? required with
  | some r => r.contains provided.toList
  | none =>
    let actual := Text.strip provided.toList
    if isNumeric required && isNumeric actual then
      match key required with
      | .error e => .error e
      | .ok a =>
        match key actual with
        | .error e => .error e
        | .ok b => .ok (a == b)
    else .ok (required == actual)

end Downlevel.Version
