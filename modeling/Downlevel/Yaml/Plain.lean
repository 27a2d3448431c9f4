import Downlevel.Data.Field
import Downlevel.Yaml.Moment
/-!
# The meaning of plain scalars

A plain scalar means what it looks like: nothing, a truth value, a number, a date, a mark of the
format, or else a text. The look is decided without reading the value; a value that its look promises
may still be refused when it is read.
-/
namespace Downlevel.Yaml

/-- What a plain scalar looks like. -/
inductive Look where
  | null
  | bool
  | int
  | float
  | merge
  | value
  | date
  | text
  deriving DecidableEq, Repr

/-- The words for nothing. -/
def nullWords : List String :=
  ["", "~", "null", "Null", "NULL"]

/-- The words for true in small letters. -/
def trueWords : List String :=
  ["yes", "true", "on"]

/-- The words for false in small letters. -/
def falseWords : List String :=
  ["no", "false", "off"]

/-- A word with a capital in front. -/
def capitalized (s : String) : String :=
  match s.toList with
  | [] => ""
  | c :: rest => String.ofList (c.toUpper :: rest)

/-- Whether a text is one of some words in small letters, with a capital, or in capitals. -/
def isCasedWord (words : List String) (s : String) : Bool :=
  words.any fun w => s = w || s = capitalized w || s = String.ofList (w.toList.map Char.toUpper)

/-- A text without the sign in front. -/
def unsigned : List Char → List Char
  | '-' :: rest => rest
  | '+' :: rest => rest
  | cs => cs

/-- Whether a text is not empty and every character passes a test or is an underscore. -/
def isRunOf (test : Char → Bool) (cs : List Char) : Bool :=
  !cs.isEmpty && cs.all fun c => c = '_' || test c

/-- Whether a text starts with a digit and goes on with digits and underscores. -/
def isDigitRun : List Char → Bool
  | [] => false
  | c :: rest => c.isDigit && rest.all fun c => c = '_' || c.isDigit

/-- Whether a text is a number below sixty of one or two digits. -/
def isSixtieth : List Char → Bool
  | [a] => a.isDigit
  | [a, b] => '0' ≤ a && a ≤ '5' && b.isDigit
  | _ => false

/-- Whether a text is numbers with colons between them, the later ones below sixty. -/
def isSexagesimal (first : List Char → Bool) (cs : List Char) : Bool :=
  match Text.splitOn ':' cs with
  | front :: next :: more => first front && (next :: more).all isSixtieth
  | _ => false

/-- Whether a text looks like a whole number. -/
def looksInt (cs : List Char) : Bool :=
  let body := unsigned cs
  let decimal (ds : List Char) : Bool := isDigitRun ds && ds.head? ≠ some '0'
  decimal body || isSexagesimal decimal body || match body with
    | ['0'] => true
    | '0' :: 'b' :: rest => isRunOf (fun c => c = '0' || c = '1') rest
    | '0' :: 'x' :: rest => isRunOf (fun c => (Json.hexValue? c).isSome) rest
    | '0' :: rest => isRunOf (fun c => '0' ≤ c && c ≤ '7') rest
    | _ => false

/-- Whether a text is empty or an exponent with a sign. -/
def isExponent : List Char → Bool
  | [] => true
  | e :: sign :: ds =>
    (e = 'e' || e = 'E') && (sign = '-' || sign = '+') && !ds.isEmpty && ds.all Char.isDigit
  | _ => false

/-- Whether a text is digits with underscores, then perhaps an exponent. -/
def isFraction (cs : List Char) : Bool :=
  isExponent (cs.dropWhile fun c => c = '_' || c.isDigit)

/-- Whether a text looks like a number with a point. -/
def looksFloat (cs : List Char) : Bool :=
  let body := unsigned cs
  let front := body.takeWhile (· ≠ '.')
  match body.drop front.length with
  | '.' :: rest =>
    (isDigitRun front && isFraction rest)
      || (isSexagesimal isDigitRun front && rest.all fun c => c = '_' || c.isDigit)
      || (front.isEmpty && isCasedWord ["inf"] (String.ofList rest))
      || (cs.length = body.length && front.isEmpty
        && (["nan", "NaN", "NAN"].contains (String.ofList rest)
          || (isDigitRun (rest.take 1) && isFraction rest)))
  | _ => false

/-- What a plain scalar looks like. -/
def lookOf (s : String) : Look :=
  let cs := s.toList
  if isCasedWord (trueWords ++ falseWords) s then .bool
  else if looksFloat cs then .float
  else if looksInt cs then .int
  else if s = "<<" then .merge
  else if nullWords.contains s then .null
  else if Moment.looks cs then .date
  else if s = "=" then .value
  else .text

/-- A number in writing without its underscores, its sign apart. -/
def signAndBody (s : String) : Bool × List Char :=
  let cs := s.toList.filter (· ≠ '_')
  (cs.head? = some '-', unsigned cs)

/-- The value of numbers with colons between them, the first part being the greatest. -/
def sixtyfold (ns : List Int) : Int :=
  ns.foldl (fun acc n => 60 * acc + n) 0

/-- The whole number that a text writes. -/
def readInt (s : String) : Except Failure Int :=
  let (negative, body) := signAndBody s
  let signed (r : Except Failure Int) : Except Failure Int :=
    r.map fun n => if negative then -n else n
  match body with
  | [] => .error ⟨.foreign "IndexError" "string index out of range", []⟩
  | ['0'] => .ok 0
  | '0' :: 'b' :: rest => signed (Numeral.parse 2 rest)
  | '0' :: 'x' :: rest => signed (Numeral.parse 16 rest)
  | '0' :: _ => signed (Numeral.parse 8 body)
  | _ =>
    if body.contains ':' then
      signed (((Text.splitOn ':' body).mapM (Numeral.parse 10)).map sixtyfold)
    else signed (Numeral.parse 10 body)

/-- A number in writing, whole or with a point. -/
def readReal (cs : List Char) : Except Failure Float :=
  match Field.floatOfText? (String.ofList cs) with
  | some x => .ok x
  | none => .error (Numeral.valueFault
      ("could not convert string to float: " ++ Text.quoted (String.ofList cs)))

/-- The number with a point that a text writes. -/
def readFloat (s : String) : Except Failure Float :=
  let (negative, raw) := signAndBody s
  let body := raw.map Char.toLower
  let signed (x : Float) : Float := if negative then -x else x
  if body.isEmpty then .error ⟨.foreign "IndexError" "string index out of range", []⟩
  else if body = ".inf".toList then .ok (signed (1.0 / 0.0))
  else if body = ".nan".toList then .ok (0.0 / 0.0)
  else if body.contains ':' then
    ((Text.splitOn ':' body).mapM readReal).map fun xs =>
      signed ((xs.reverse.foldl (fun (acc : Float × Float) x =>
        (acc.1 + x * acc.2, acc.2 * 60.0)) (0.0, 1.0)).1)
  else (readReal body).map signed

/-- The truth value of a word in any case. -/
def readBool (s : String) : Except Failure Bool :=
  let word := String.ofList (s.toList.map Char.toLower)
  if trueWords.contains word then .ok true
  else if falseWords.contains word then .ok false
  else .error ⟨.foreign "KeyError" (Text.quoted word), []⟩

/-- The date that a text writes, with or without a time. -/
def readDate (s : String) : Except Failure Data :=
  match Moment.read? s.toList with
  | none => .error ⟨.foreign "AttributeError" "'NoneType' object has no attribute 'groupdict'", []⟩
  | some m => m.checked.map fun m => .date m.clock.isSome m.print

end Downlevel.Yaml
