import Downlevel.CommandLine.Line
import Downlevel.Proofs.Text.Joining
/-!
# Options read back

A command line may spell each option out, with its value as a word of its own. Such a command line
is read back as the options in their order, whatever the values are: a value may start with a dash
or be empty.
-/
namespace Downlevel.CommandLine

/-- An option as it is written on a command line. -/
structure Written where
  spelling : String
  option : Switch
  value : Option String

namespace Written

/-- An option is written in one of its long spellings, and with a value if it takes one. -/
structure Fits (x : Written) (switches : List Switch) : Prop where
  known : x.option ∈ switches
  spelled : x.spelling ∈ x.option.longSpellings
  valued : x.value.isSome = x.option.operand?.isSome

/-- The words of an option. -/
def words (x : Written) : List String :=
  x.spelling :: x.value.toList

/-- The option that was given, with its value. -/
def given (x : Written) : Given :=
  (x.option, x.value)

end Written

namespace Line

/-- A long spelling belongs to one option of a scope, and is read as an option. -/
theorem find?_of_spelling (scope : Scope) :
    ∀ s ∈ scope.switches, ∀ spelling ∈ s.longSpellings,
      (scope.switches.find? fun s => s.longSpellings.contains spelling) = some s ∧
        isOption spelling = true ∧ spelling ≠ "--" ∧ '=' ∉ spelling.toList := by
  rcases scope with _ | (⟨_ | _⟩ | _) <;> decide +kernel

/-- An option that was written is read back, with its value. -/
theorem optionsIn_written {scope : Scope} {x : Written} (h : x.Fits scope.switches)
    (rest : List String) :
    optionsIn scope.switches x.spelling (x.value.toList ++ rest).head?
      = .ok ([x.given], x.value.isSome) := by
  obtain ⟨spelling, option, value⟩ := x
  obtain ⟨hfind, -, -, hequals⟩ := find?_of_spelling scope option h.known spelling h.spelled
  have hfront : spelling.toList.takeWhile (· ≠ '=') = spelling.toList :=
    Text.takeWhile_of_not_mem hequals
  have hvalued := h.valued
  unfold optionsIn
  simp only [hfront, String.ofList_toList, List.drop_length, hfind]
  unfold alone
  -- An option with an operand has a value, and one without has none.
  revert hvalued
  cases value with
  | none =>
    cases option.operand? with
    | none => exact fun _ => rfl
    | some operand => exact fun hnone => nomatch hnone
  | some value =>
    cases option.operand? with
    | none => exact fun hnone => nomatch hnone
    | some operand => exact fun _ => rfl

/-- Options that are written out are read back in their order, before what follows them. -/
theorem readFrom_written {scope : Scope} {xs : List Written}
    (h : ∀ x ∈ xs, x.Fits scope.switches) (open_ : Bool) (line : Line) (rest : List String) :
    readFrom scope.switches open_ line (xs.flatMap Written.words ++ rest)
      = readFrom scope.switches open_
          { line with given := line.given ++ xs.map Written.given } rest := by
  induction xs generalizing line with
  | nil =>
    rw [List.map_nil, List.append_nil]
    rfl
  | cons x xs ih =>
    have hx := h x List.mem_cons_self
    obtain ⟨-, hoption, hend, -⟩ := find?_of_spelling scope x.option hx.known x.spelling hx.spelled
    -- The value of the option is the word behind it, if it has one.
    have hrest : (x.value.toList ++ (xs.flatMap Written.words ++ rest)).drop
        (if x.value.isSome then 1 else 0) = xs.flatMap Written.words ++ rest := by
      cases x.value <;> rfl
    rw [List.flatMap_cons, List.append_assoc, Written.words, List.cons_append, readFrom,
      if_neg hend, if_pos hoption, optionsIn_written hx]
    dsimp only
    rw [hrest, ih fun y hy => h y (List.mem_cons_of_mem x hy), List.map_cons, List.append_assoc]
    rfl

/-- The options of a command are read back as they were written. -/
theorem parse_written {c : Command} {xs : List Written}
    (h : ∀ x ∈ xs, x.Fits (Scope.command c).switches) :
    parse (.command c) (xs.flatMap Written.words) = .ok ⟨xs.map Written.given, []⟩ := by
  have hread := readFrom_written h true ⟨[], []⟩ []
  rw [List.append_nil, readFrom] at hread
  exact hread

/-- The options of the program are read back up to the name of a command. -/
theorem parse_program_written {xs : List Written} (h : ∀ x ∈ xs, x.Fits Scope.program.switches)
    {name : String} (hname : isOption name = false) (rest : List String) :
    parse .program (xs.flatMap Written.words ++ name :: rest)
      = .ok ⟨xs.map Written.given, name :: rest⟩ := by
  have hend : name ≠ "--" := by
    rintro rfl
    exact absurd hname (by decide +kernel)
  rw [parse, readFrom_written h, readFrom, if_neg hend, if_neg (by rw [hname]; exact Bool.false_ne_true)]
  rfl

end Line

end Downlevel.CommandLine
