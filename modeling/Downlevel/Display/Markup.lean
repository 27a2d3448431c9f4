import Downlevel.Text.Wrap
/-!
# Marked up text

Text to display may hold tags in brackets, which set its style and are not shown. A backslash before
a tag takes its effect away, and of two backslashes there one is shown. Other brackets are text.
-/
namespace Downlevel.Markup

/-- A piece of marked up text: plain text, or a tag with the number of backslashes before it. -/
inductive Piece where
  | text (cs : List Char)
  | tag (backslashes : Nat) (cs : List Char)
  deriving DecidableEq, Repr

/-- Whether a character may stand first in a tag. -/
def opensTag (c : Char) : Bool :=
  ('a' ≤ c && c ≤ 'z') || c = '#' || c = '/' || c = '@'

/-- The tag at the start of a text, with its brackets. -/
def tag? : List Char → Option (List Char)
  | '[' :: c :: rest =>
    let inside := rest.takeWhile fun d => d ≠ '[' && d ≠ ']'
    if opensTag c && (rest.drop inside.length).head? = some ']' then
      some ('[' :: c :: inside ++ [']'])
    else none
  | _ => none

/-- The pieces of a text. `plain` is the plain text that was read before it. -/
def piecesFrom (plain : List Char) (cs : List Char) : List Piece :=
  match cs with
  | [] => [.text plain]
  | c :: rest =>
    let n := (cs.takeWhile (· = '\\')).length
    match tag? (cs.drop n) with
    | some t => .text plain :: .tag n t :: piecesFrom [] (rest.drop (n + t.length - 1))
    | none => piecesFrom (plain ++ [c]) rest
  termination_by cs.length
  decreasing_by
    all_goals simp only [List.length_drop, List.length_cons]
    all_goals omega

/-- The pieces of a text. -/
def pieces (cs : List Char) : List Piece :=
  piecesFrom [] cs

/-- A piece in front of whose tag a backslash was put, and those there were doubled. -/
def Piece.escaped : Piece → List Char
  | .text cs => cs
  | .tag n t => List.replicate (2 * n + 1) '\\' ++ t

/-- Marked up text that shows a given text. A single backslash at the end is doubled, so that it does
not take the effect from a tag that follows. -/
def escape (cs : List Char) : List Char :=
  let out := (pieces cs).flatMap Piece.escaped
  match out.reverse with
  | '\\' :: '\\' :: _ => out
  | '\\' :: _ => out ++ ['\\']
  | _ => out

/-- Plain text without the backslashes before its brackets. -/
def unescaped : List Char → List Char
  | '\\' :: '[' :: rest => '[' :: unescaped rest
  | c :: rest => c :: unescaped rest
  | [] => []

/-- What is shown of a piece. -/
def Piece.shown : Piece → List Char
  | .text cs => unescaped cs
  | .tag n t => List.replicate (n / 2) '\\' ++ if n % 2 = 1 then t else []

/-- What is shown of marked up text. Text without brackets is shown as it is. -/
def shown (cs : List Char) : List Char :=
  Text.withoutMotion (if cs.contains '[' then (pieces cs).flatMap Piece.shown else cs)

end Downlevel.Markup
