import Downlevel.CommandLine.Line
import Downlevel.Display
/-!
# The toolkit of a command line

How the words of a command line are read, how a failure that no step handles ends the program, and how
things are shown is left to a toolkit. A toolkit may end a call at any point of the reading: with the
help, with a complaint, or with whatever it fails of.
-/
namespace Downlevel.CommandLine

/-- How a call ended: its exit code, what it printed on the two streams, and the failure that nothing
handled. -/
structure Outcome where
  exitCode : Int
  output : String := ""
  errors : String := ""
  failure : Option Failure := none

/-- What a command line is read with, and what outcomes are shown with. -/
structure Toolkit where
  /-- Reads the words of a call: the options of the program, the command, and the words after it. -/
  program : World → List String → Except Outcome (Line × Command × List String)
  /-- Reads the options of a command. -/
  command : World → Command → List String → Except Outcome Line
  /-- How a failure that no step handles ends the program. -/
  failed : Failure → Outcome
  renderer : Display.Renderer

namespace Toolkit

/-- Shows something and ends with a code, unless the showing fails. -/
def closing (t : Toolkit) (code : Int) (p : Display.Printable) : Outcome :=
  match t.renderer.afterLine p with
  | (output, none) => { exitCode := code, output }
  | (output, some e) =>
    let outcome := t.failed e
    { outcome with output := output ++ outcome.output }

end Toolkit

end Downlevel.CommandLine
