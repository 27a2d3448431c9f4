import Downlevel.Decimal.Fixed
import Downlevel.Display.Panel
import Downlevel.Resolution
import Downlevel.Result
/-!
# What is shown

Outcomes are shown to people in a panel after an empty line. A renderer prints them; it is handed marked
up text, in which the texts of the program are escaped.
-/
namespace Downlevel.Display

/-- What stands in a panel: marked up text, or a table with a title and a field and a value a row. -/
inductive Body where
  | text (markup : String)
  | table (title : String) (rows : List (String × String))
  deriving DecidableEq, Repr

/-- What a renderer is told to print. -/
inductive Printable where
  | emptyLine
  | panel (title : Option String) (body : Body) (border : String)
  deriving DecidableEq, Repr

/-- A renderer. -/
structure Renderer where
  /-- Marked up text that stands for a text. -/
  escape : String → String
  /-- What is written where a thing is printed. The printing may fail. -/
  print : Printable → Except Failure String

/-- The tone of a message. -/
inductive Tone where
  | success
  | failure
  | note
  deriving DecidableEq, Repr

/-- The colour of the frame in a tone. -/
def Tone.border : Tone → String
  | success => "green"
  | failure => "red"
  | note => "blue"

/-- Marked up text in a tone. -/
def Tone.styled (tone : Tone) (markup : String) : String :=
  match tone with
  | success => "[bold green]" ++ markup ++ "[/]"
  | failure => "[bold red]" ++ markup ++ "[/]"
  | note => markup

namespace Renderer

/-- A message with a title. -/
def message (r : Renderer) (tone : Tone) (title text : String) : Printable :=
  .panel (some ("[bold]" ++ r.escape title ++ "[/]")) (.text (tone.styled (r.escape text)))
    tone.border

/-- The Java runtime for forked runs. -/
def runtime (r : Renderer) (c : Candidate) : Printable :=
  .panel none (.table "[bold]Java Runtime[/]"
    ([("Executable", r.escape c.executable), ("Source", c.source.name)]
      ++ ((c.toolchain.filter (· ≠ "")).map fun t => ("Toolchain", r.escape t)).toList)) "blue"

/-- The outcome of a run. -/
def result (r : Renderer) (x : Result) : Printable :=
  if x.skipped then
    r.message .note "Skipped" ((x.skipReason.filter (· ≠ "")).getD "Nothing to do")
  else
    r.message .success "Success" ("Classes processed with the " ++ (Data.ofText? x.backend).plain
      ++ " backend in " ++ Decimal.fixed 1 x.duration ++ "s")

/-- Prints something after an empty line: what is written, and the failure that ended it, if one did. -/
def afterLine (r : Renderer) (p : Printable) : String × Option Failure :=
  match r.print .emptyLine with
  | .error e => ("", some e)
  | .ok line =>
    match r.print p with
    | .error e => (line, some e)
    | .ok text => (line ++ text, none)

/-- The lines of what stands in a panel. -/
def linesOf : Body → List (List Char)
  | .text markup => Text.wrapped .fold Panel.innerWidth (Markup.shown markup.toList)
  | .table title rows =>
    Table.lines ⟨title.toList, rows.map fun r => (r.1.toList, r.2.toList)⟩

/-- What is written for a thing on a screen without colours. -/
def drawn : Printable → String
  | .emptyLine => "\n"
  | .panel title body _ =>
    String.join ((Panel.around (title.map fun t => Markup.shown t.toList) (linesOf body)).map
      fun l => String.ofList l ++ "\n")

/-- The renderer that the program runs with here. -/
def standard : Renderer where
  escape s := String.ofList (Markup.escape s.toList)
  print p := .ok (drawn p)

end Renderer

/-- A message with a title, as it is written here. -/
def message (tone : Tone) (title text : String) : String :=
  (Renderer.standard.afterLine (Renderer.standard.message tone title text)).1

/-- The Java runtime for forked runs, as it is written here. -/
def runtime (c : Candidate) : String :=
  (Renderer.standard.afterLine (Renderer.standard.runtime c)).1

/-- The outcome of a run, as it is written here. -/
def result (x : Result) : String :=
  (Renderer.standard.afterLine (Renderer.standard.result x)).1

end Downlevel.Display
