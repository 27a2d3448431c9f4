import Downlevel.Decimal.Shortest
import Downlevel.Text.Quoted
/-!
# Loosely typed data

What configuration files hold and what error details carry: nothing, truth values, numbers, texts,
lists and mappings in the order of insertion. A key of a mapping is data too; whole numbers, truth
values and floats that are numerically equal are one key, and the first spelling of a key stays. A
calendar date is kept as its text.
-/
namespace Downlevel

/-- A value without a fixed shape. -/
inductive Data where
  | null
  | bool (value : Bool)
  | int (value : Int)
  | float (value : Float)
  | text (value : String)
  | date (timed : Bool) (value : String)
  | list (items : List Data)
  | map (entries : List (Data × Data))
  deriving Inhabited

namespace Data

/-- The layout of floats in printed data: positional below `10 ^ 16` and from `10 ^ -4` on. -/
def floatLayout : Decimal.Layout :=
  ⟨-4, 15, 2⟩

mutual

/-- The printed form of a value: texts are quoted, lists stand in brackets, mappings in braces. -/
def print : Data → String
  | null => "None"
  | bool value => if value then "True" else "False"
  | int value => toString value
  | float value => floatLayout.float value
  | text value => Text.quoted value
  | date _ value => value
  | list items => "[" ++ ", ".intercalate (printItems items) ++ "]"
  | map entries => "\x7b" ++ ", ".intercalate (printEntries entries) ++ "\x7d"

/-- The printed forms of the items of a list. -/
def printItems : List Data → List String
  | [] => []
  | item :: rest => print item :: printItems rest

/-- The printed forms of the entries of a mapping. -/
def printEntries : List (Data × Data) → List String
  | [] => []
  | (key, value) :: rest => (print key ++ ": " ++ print value) :: printEntries rest

end

/-- A value as plain text: a text stands for itself. -/
def plain : Data → String
  | text value => value
  | d => print d

/-- Whether a value counts as present: not nothing, not false, not zero and not empty. -/
def isTruthy : Data → Bool
  | null => false
  | bool value => value
  | int value => value != 0
  | float value => value != 0.0
  | text value => !value.isEmpty
  | date _ _ => true
  | list items => !items.isEmpty
  | map entries => !entries.isEmpty

/-- The name of the kind of a value. -/
def kindName : Data → String
  | null => "NoneType"
  | bool _ => "bool"
  | int _ => "int"
  | float _ => "float"
  | text _ => "str"
  | date timed _ => if timed then "datetime.datetime" else "datetime.date"
  | list _ => "list"
  | map _ => "dict"

/-- The whole number that a key equals, if there is one. -/
def whole? : Data → Option Int
  | bool value => some (if value then 1 else 0)
  | int value => some value
  | float value =>
    match Decimal.Binary.ofFloat value with
    | .finite negative m q =>
      let v := Decimal.Quotient.ofBinary m q
      if v.num % v.den = 0 then
        let n := Int.ofNat (v.num / v.den)
        some (if negative then -n else n)
      else none
    | _ => none
  | _ => none

/-- Whether two values are the same key. Lists and mappings are no keys. -/
def sameKey (a b : Data) : Bool :=
  match a, b with
  | null, null => true
  | text x, text y => x == y
  | date _ x, date _ y => x == y
  | _, _ =>
    match a.whole?, b.whole? with
    | some x, some y => x == y
    | none, none =>
      match a, b with
      | float x, float y => x == y
      | _, _ => false
    | _, _ => false

/-- The value of a key. -/
def lookup? (key : Data) : List (Data × Data) → Option Data
  | [] => none
  | (k, v) :: rest => if sameKey k key then some v else lookup? key rest

/-- Sets a key: an old value is replaced in its place, a new key goes to the end. -/
def insert (key value : Data) : List (Data × Data) → List (Data × Data)
  | [] => [(key, value)]
  | (k, v) :: rest => if sameKey k key then (k, value) :: rest else (k, v) :: insert key value rest

/-- The value of a text key. -/
def field? (name : String) (entries : List (Data × Data)) : Option Data :=
  lookup? (text name) entries

/-- The value of a text key of a mapping. -/
def get? (d : Data) (name : String) : Option Data :=
  match d with
  | map entries => field? name entries
  | _ => none

/-- A mapping from texts to texts. -/
def ofPairs (pairs : List (String × String)) : Data :=
  map (pairs.map fun p => (text p.1, text p.2))

/-- Nothing, or a text. -/
def ofText? : Option String → Data
  | none => null
  | some s => text s

end Data

end Downlevel
