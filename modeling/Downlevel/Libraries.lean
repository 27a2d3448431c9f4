import Downlevel.Decoding
import Downlevel.Settings.EnvFile
import Downlevel.Settings.Whole
import Downlevel.Xml.Encoding
import Downlevel.Yaml.Document
/-!
# Libraries

What the program leaves to others: the reading of YAML and of files of variables, the finding and the
checking of the values of settings, and the codecs. A program runs with whatever libraries it finds; the
standard ones are those that it runs with here.
-/
namespace Downlevel

/-- The library that makes settings. -/
structure SettingsLibrary where
  /-- The bindings in the bytes of a file of variables, in an environment, and the numbers of the lines that
  are none. -/
  parseFile : List (String × String) → List UInt8 →
    Except Failure (List (String × Option String) × List Nat)
  /-- The value of a field before it is checked, if anything sets it. -/
  value? : SettingsSource → String → Option Data
  /-- The data that variables hold for whole sections. -/
  wholeSections : Variables → Except Failure (List (Option Data))
  /-- A value as a text. -/
  text : Data → Reading String
  /-- A value as a truth value. -/
  bool : Data → Reading Bool
  /-- A value as one of a list of words. -/
  literal : List String → Data → Reading String

namespace SettingsLibrary

/-- The library that the program runs with here. -/
def standard : SettingsLibrary where
  parseFile environment bytes :=
    (Decoding.ofBytes bytes).map fun cs =>
      let ls := EnvFile.parse cs
      (EnvFile.resolve environment [] ls, EnvFile.faults ls)
  value? := SettingsSource.value?
  wholeSections := SectionVariables.ofVariables
  text := Field.text
  bool := Field.bool
  literal words := Field.word "literal_error" (words.map fun s => (s, s))

end SettingsLibrary

/-- The libraries of a program. -/
structure Libraries where
  /-- The data of a YAML document. Bytes that are none are a malformed text, and any other failure stands
  for itself. -/
  yaml : List UInt8 → Except Failure Data
  settings : SettingsLibrary
  codecs : Xml.Codecs

namespace Libraries

/-- The libraries that the program runs with here. -/
def standard : Libraries where
  yaml bytes :=
    match Decoding.ofBlocks bytes with
    | .error e => .error e
    | .ok cs => Yaml.parse cs
  settings := .standard
  codecs := .standard

end Libraries

end Downlevel
