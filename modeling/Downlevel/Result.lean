import Downlevel.Data.Field
/-!
# Results of runs
-/
namespace Downlevel

/-- The outcome of a run that did not fail: it processed classes or was skipped. -/
structure Result where
  success : Bool := true
  skipped : Bool := false
  skipReason : Option String := none
  backend : Option String := none
  command : Option (List String) := none
  returnCode : Option Int := none
  stdout : String := ""
  stderr : String := ""
  duration : Float := 0.0

namespace Result

/-- Reads a result. -/
def read (fs : Fields) : Reading Result :=
  (((((((((Reading.value mk).seq (fs.optional "success" true Field.bool)).seq
    (fs.optional "skipped" false Field.bool)).seq
    (fs.optional "skip_reason" none (Field.optional Field.text))).seq
    (fs.optional "backend" none (Field.optional Field.text))).seq
    (fs.optional "command" none (Field.optional (Field.list Field.text)))).seq
    (fs.optional "return_code" none (Field.optional Field.int))).seq
    (fs.optional "stdout" "" Field.text)).seq
    (fs.optional "stderr" "" Field.text)).seq
    (fs.optional "duration_seconds" 0.0 Field.float)

/-- The result of a run that did nothing. -/
def skip (reason : String) (backend : Option String := none) : Result :=
  { skipped := true, skipReason := some reason, backend }

/-- A result as it is recorded in the log. -/
def summary (r : Result) : Data :=
  .map [(.text "success", .bool r.success), (.text "skipped", .bool r.skipped),
    (.text "skip_reason", .ofText? r.skipReason), (.text "backend", .ofText? r.backend),
    (.text "command", match r.command with
      | none => .null
      | some c => .list (c.map .text)),
    (.text "return_code", match r.returnCode with
      | none => .null
      | some n => .int n),
    (.text "duration_seconds", .float r.duration)]

end Result

end Downlevel
