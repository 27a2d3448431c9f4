import Downlevel.Text.Range
import Downlevel.Text.UpperTable
import Downlevel.Text.LowerTable
/-!
# Letter case

Full case mapping: a letter may become several characters, and a capital sigma becomes the final
small sigma at the end of a word.
-/
namespace Downlevel.Text

/-- Moves a code point by the distance of the run that holds it. -/
def shiftByRuns (runs : List (Nat × Nat × Nat × Int)) (n : Nat) : Nat :=
  match runs.find? fun r => r.1 ≤ n && n ≤ r.2.1 && (n - r.1) % r.2.2.1 == 0 with
  | some r => (n + r.2.2.2).toNat
  | none => n

/-- The capital form of a character. -/
def upperChar (c : Char) : List Char :=
  if c.val < 0x80 then [c.toUpper]
  else match upperExpansions.lookup c.toNat with
    | some ns => ns.map Char.ofNat
    | none => [Char.ofNat (shiftByRuns upperRuns c.toNat)]

/-- A text in capitals. -/
def upper (cs : List Char) : List Char :=
  cs.flatMap upperChar

/-- Whether the nearest character that is not passed over is a letter with case. -/
def nextIsCased (cs : List Char) : Bool :=
  match cs.find? fun c => !inRanges caseIgnorableRanges c.toNat with
  | some c => inRanges casedRanges c.toNat
  | none => false

/-- The small form of a character that is no capital sigma. The dotted capital I keeps its dot. -/
def lowerChar (c : Char) : List Char :=
  if c.val < 0x80 then [c.toLower]
  else if c.toNat = 0x130 then ['i', Char.ofNat 0x307]
  else [Char.ofNat (shiftByRuns lowerRuns c.toNat)]

/-- Small letters, given the characters already passed in reverse. -/
def lowerFrom (before : List Char) : List Char → List Char
  | [] => []
  | c :: rest =>
    (if c.toNat = 0x3a3 then
      if nextIsCased before && !nextIsCased rest then [Char.ofNat 0x3c2] else [Char.ofNat 0x3c3]
    else lowerChar c) ++ lowerFrom (c :: before) rest

/-- A text in small letters. -/
def lower (cs : List Char) : List Char :=
  lowerFrom [] cs

/-- A string in capitals. -/
def uppercase (s : String) : String :=
  String.ofList (upper s.toList)

/-- A string in small letters. -/
def lowercase (s : String) : String :=
  String.ofList (lower s.toList)

end Downlevel.Text
