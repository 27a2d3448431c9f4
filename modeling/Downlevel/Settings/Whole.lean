import Downlevel.Settings.Source
/-!
# Variables of whole sections

A variable named for a whole section holds its fields as a JSON object. Of the environment and the file
of variables the environment is the stronger, field by field.
-/
namespace Downlevel

mutual

/-- Data laid over other data: mappings are joined, all else is replaced. -/
def Data.over (weak : Data) : Data → Data
  | .map strong =>
    match weak with
    | .map entries => .map (Data.entriesOver entries strong)
    | _ => .map strong
  | d => d

/-- Entries laid over other entries. -/
def Data.entriesOver (entries : List (Data × Data)) : List (Data × Data) → List (Data × Data)
  | [] => entries
  | (k, v) :: rest =>
    let value := match Data.lookup? k entries with
      | some w => Data.over w v
      | none => v
    Data.entriesOver (Data.insert k value entries) rest

end

namespace SectionVariables

/-- What the names of the variables of all settings start with. -/
def familyName : String := "retrolambda_"

/-- The names of the sections. -/
def sectionNames : List String :=
  ["runner", "toolchain", "logging"]

/-- A mapping with its names in small letters; of several spellings the last one counts. -/
def smallLetters : Data → Data
  | .map entries => .map (entries.foldl (fun done e => match e.1 with
      | .text key => Data.insert (.text (Text.lowercase key)) e.2 done
      | key => Data.insert key e.2 done) [])
  | d => d

/-- The data in the variable of a section, if it is set to something. -/
def parse (source section_ : String) : Option String → Except Failure (Option Data)
  | none => .ok none
  | some text =>
    match Json.parse? text with
    | none => .error ⟨.foreign "SettingsError" ("error parsing value for field \"" ++ section_
        ++ "\" from source \"" ++ source ++ "\""), []⟩
    | some .null => .ok none
    | some d => .ok (some (smallLetters d))

/-- The data of all sections in one place of variables. -/
def ofPlace (source : String) (value? : String → Option String) :
    Except Failure (List (Option Data)) :=
  sectionNames.mapM fun name => parse source name (value? (familyName ++ name))

/-- The data of one section from both places. -/
def joined : Option Data × Option Data → Option Data
  | (some strong, some weak) => some (Data.over weak strong)
  | (some d, none) => some d
  | (none, weak) => weak

/-- The data in the variables of all sections. -/
def ofVariables (vs : Variables) : Except Failure (List (Option Data)) :=
  match ofPlace "EnvSettingsSource" vs.inEnvironment?,
      ofPlace "DotEnvSettingsSource" vs.inFile? with
  | .error e, _ => .error e
  | _, .error e => .error e
  | .ok inEnvironment, .ok inFile => .ok ((inEnvironment.zip inFile).map joined)

end SectionVariables

end Downlevel
