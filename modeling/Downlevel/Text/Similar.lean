/-!
# Similar texts

The longest block that two texts have in common is matched first, then what stands before it in both
and what stands after it in both. Two texts are similar when the matched characters make up three
fifths of all their characters.
-/
namespace Downlevel.Text

/-- The length of the longest common beginning of two texts. -/
def commonStart : List Char → List Char → Nat
  | a :: as, b :: bs => if a = b then commonStart as bs + 1 else 0
  | _, _ => 0

/-- A block that two texts have in common: where it starts in each of them, and its length. -/
structure Block where
  left : Nat
  right : Nat
  length : Nat
  deriving DecidableEq, Repr

/-- The longest common block of two texts; of several the one that starts first in the left text,
then in the right one. -/
def longestBlock (a b : List Char) : Block :=
  (List.range a.length).foldl (fun best i =>
    (List.range b.length).foldl (fun best j =>
      let n := commonStart (a.drop i) (b.drop j)
      if best.length < n then ⟨i, j, n⟩ else best) best) ⟨0, 0, 0⟩

/-- The number of characters of two texts that are matched block by block. -/
def matched (a b : List Char) : Nat :=
  match longestBlock a b with
  | ⟨i, j, n⟩ =>
    if _h : 0 < n ∧ i + n ≤ a.length then
      matched (a.take i) (b.take j) + n + matched (a.drop (i + n)) (b.drop (j + n))
    else 0
  termination_by a.length
  decreasing_by
    · simp only [List.length_take]
      omega
    · simp only [List.length_drop]
      omega

/-- Whether a text is similar to a word. -/
def isSimilar (word text : List Char) : Bool :=
  3 * (text.length + word.length) ≤ 10 * matched text word

/-- Whether the first of two texts is at least as close to a word as the second; of equally close
texts the greater one counts as closer. -/
def isCloser (word a b : List Char) : Bool :=
  let x := matched a word * (b.length + word.length)
  let y := matched b word * (a.length + word.length)
  y < x || (x = y && String.ofList b ≤ String.ofList a)

/-- The candidates that are similar to a word, at most three, the closest first. -/
def similarTo (word : String) (candidates : List String) : List String :=
  let found := (candidates.filter fun c => isSimilar word.toList c.toList).mergeSort
    fun a b => isCloser word.toList a.toList b.toList
  found.take 3

end Downlevel.Text
