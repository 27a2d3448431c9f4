import Downlevel.Proofs.Log.Filling
import Downlevel.Proofs.Logging.Handlers
import Downlevel.Proofs.World.LogFiles
/-!
# Messages after a set-up

After the log was set up for plain lines, a message from the level on becomes one line on the error
stream and one at the end of the log file, unless the file cannot take it, which is reported on the error
stream. A message below the level becomes nothing, and no message reaches another file, whatever was set
up before. This is shown for one message, and then for all messages that follow, with whatever happens
between them.
-/
namespace Downlevel

namespace Logging

variable {s : LoggingSettings} {id? : Option Nat} {w v v' : World} {level : Level}

/-! ## Lines -/

/-- What a log file gets of a record: its line, if no surrogate stands in its message. -/
def filed (r : Log.Record) : List UInt8 :=
  r.fileLine?.getD []

/-- What the error stream of a machine gets of a record: its line, and the report of a log file that
cannot take it. -/
def streamed? (s : LoggingSettings) (m : Machine) (r : Log.Record) : Option String :=
  (Log.line? (patternOf s) r).map fun line =>
    Text.printed line ++ "\n" ++ if s.file.isSome ∧ r.fileLine? = none then m.logFault r else ""

/-- What the error stream gets of records, in their order. -/
def text? (s : LoggingSettings) (m : Machine) (rs : List Log.Record) : Option String :=
  (rs.mapM (streamed? s m)).map String.join

/-- One record more makes one piece more, at the end. -/
theorem text?_concat {m : Machine} {text piece : String} {rs : List Log.Record} {r : Log.Record}
    (h : text? s m rs = some text) (hpiece : streamed? s m r = some piece) :
    text? s m (rs ++ [r]) = some (text ++ piece) := by
  obtain ⟨pieces, hpieces, rfl⟩ := Option.map_eq_some_iff.mp h
  have hmore : (rs ++ [r]).mapM (streamed? s m) = some (pieces ++ [piece]) := by
    rw [List.mapM_append, hpieces, List.mapM_cons, hpiece]
    rfl
  rw [text?, hmore, Option.map_some, String.join_append]
  simp

/-! ## One message -/

/-- A message below the level goes nowhere. -/
theorem recorded_of_lt (h : v.log.level = s.level) (hlevel : level.number < s.level.number)
    (logger : String) (message : Text.CodePoints) : v.recordedPoints logger level message = v := by
  have hrecords : v.log.records level = false := by
    rw [Log.Setup.records, h]
    exact decide_eq_false (by omega)
  rw [World.recordedPoints, hrecords, if_neg Bool.false_ne_true]

/-- The handlers write a record to the error stream, and to the log file if there is one. -/
theorem foldl_deliver_handlersOf (hrich : s.rich = false) {r : Log.Record} {line : Text.CodePoints}
    (hlevel : s.level.number ≤ r.level.number) (hline : Log.line? (patternOf s) r = some line)
    (v : World) :
    (handlersOf s id?).foldl (World.deliver r) v = { v with
      errorStream := v.errorStream ++ (Text.printed line ++ "\n"
        ++ if id?.isSome ∧ r.fileLine? = none then v.machine.logFault r else "")
      tree := id?.elim v.tree fun id => v.tree.append id (filed r) } := by
  have hstream : v.deliver r (.stream (patternOf s))
      = { v with errorStream := v.errorStream ++ (Text.printed line ++ "\n") } := by
    simp only [World.deliver, hline, String.append_assoc]
  rw [handlersOf, watching, hrich, if_neg Bool.false_ne_true, List.foldl_cons, hstream]
  -- A line that the file cannot take is told on the stream instead.
  cases id? with
  | none =>
    rw [if_neg fun h => Bool.false_ne_true h.1, String.append_empty]
    rfl
  | some id =>
    rw [Option.toList_some, List.map_singleton, List.foldl_cons, List.foldl_nil,
      World.deliver_file hlevel, filed, Option.elim_some]
    cases r.fileLine? with
    | none =>
      rw [if_pos ⟨rfl, rfl⟩, Option.getD_none, FileTree.append_nil, World.lost]
      simp only [String.append_assoc]
    | some bytes =>
      simp only [reduceCtorEq, and_false, if_false, String.append_empty, Option.getD_some]

/-- A message from the level on is a line more for the error stream, and for the log file. -/
theorem recorded_of_le (h : v.log = ⟨s.level, handlersOf s id?⟩) (hrich : s.rich = false)
    (hlevel : s.level.number ≤ level.number) {logger : String} {message line : Text.CodePoints}
    (hline : Log.line? (patternOf s) (v.record logger level message) = some line) :
    v.recordedPoints logger level message = { v with
      journal := v.journal
        ++ (if Log.inFamily logger then [(level.name, Text.printed message)] else [])
      errorStream := v.errorStream ++ (Text.printed line ++ "\n"
        ++ if id?.isSome ∧ (v.record logger level message).fileLine? = none then
          v.machine.logFault (v.record logger level message) else "")
      tree := id?.elim v.tree fun id => v.tree.append id (filed (v.record logger level message)) } := by
  have hrecords : v.log.records level = true := by
    rw [Log.Setup.records, h]
    exact decide_eq_true hlevel
  have hhandlers : v.log.handlers = handlersOf s id? := by rw [h]
  -- The message is kept in the journal, or it is not; the log stays as it is.
  have hjournal : (if Log.inFamily logger then
      { v with journal := v.journal ++ [(level.name, Text.printed message)] } else v)
      = { v with journal := v.journal
          ++ (if Log.inFamily logger then [(level.name, Text.printed message)] else []) } := by
    split
    · rfl
    · rw [List.append_nil]
  rw [World.recordedPoints, if_pos hrecords, hjournal]
  dsimp only
  rw [hhandlers, foldl_deliver_handlersOf hrich hlevel hline]
  rfl

/-- A message reaches no other file than the log file. -/
theorem read_recorded (h : v.log = ⟨s.level, handlersOf s id?⟩) {p : Path}
    (hp : ∀ id ∈ id?, ¬ v.LeadsTo p id) (logger : String) (level : Level)
    (message : Text.CodePoints) :
    (v.recordedPoints logger level message).tree.read v.cwd p = v.tree.read v.cwd p := by
  have hgrown := (World.onlyRecorded_recordedPoints v logger level message).grown
  apply hgrown.read
  intro id x bytes hstatus hmem
  -- The only file handler is the one that was set up.
  have hid : id ∈ id? := by
    rw [h] at hmem
    obtain ⟨handler, hhandler, hfile⟩ := List.mem_filterMap.mp hmem
    rcases List.mem_cons.mp hhandler with rfl | hhandler
    · unfold watching at hfile
      by_cases hrich : s.rich = true
      · rw [if_pos hrich] at hfile
        cases hfile
      · rw [if_neg hrich] at hfile
        cases hfile
    · obtain ⟨i, hi, rfl⟩ := List.mem_map.mp hhandler
      cases hfile
      exact Option.mem_toList.mp hi
  exact hp id hid ⟨x, bytes, hstatus⟩

/-! ## All messages that follow -/

/-- Two paths lead to the same file. -/
def SameFile (w : World) (p q : Path) : Prop :=
  ∃ id, w.LeadsTo p id ∧ w.LeadsTo q id

/-- The records that are not below the level of settings. -/
def emitted (s : LoggingSettings) (rs : List Log.Record) : List Log.Record :=
  rs.filter fun r => s.level.number ≤ r.level.number

/-- What may come after a set-up, with the records of the messages: messages of any loggers, and
anything else that leaves the machine, the log, the error stream and the log file alone. -/
inductive Later (s : LoggingSettings) (w : World) : List Log.Record → World → Prop
  | start : Later s w [] w
  | message {rs : List Log.Record} {v : World} (h : Later s w rs v) (logger : String) (level : Level)
      (message : Text.CodePoints) : Later s w (rs ++ [v.record logger level message])
        (v.recordedPoints logger level message)
  | change {rs : List Log.Record} {v v' : World} (h : Later s w rs v)
      (hmachine : v'.machine = v.machine) (hlog : v'.log = v.log)
      (herror : v'.errorStream = v.errorStream)
      (hfile : ∀ p ∈ s.file, v'.tree.status v'.cwd (fullPath w.cwd p)
        = v.tree.status v.cwd (fullPath w.cwd p)) : Later s w rs v'

/-- What has become of records since a set-up. -/
structure Received (s : LoggingSettings) (id? : Option Nat) (w : World) (rs : List Log.Record)
    (v : World) : Prop where
  machine : v.machine = w.machine
  log : v.log = ⟨s.level, handlersOf s id?⟩
  errorStream : ∃ text, text? s w.machine (emitted s rs) = some text ∧
    v.errorStream = w.errorStream ++ text
  file : Option.Rel (fun p id => ∃ x before,
    w.tree.status w.cwd (fullPath w.cwd p) = .ok (.file id x before) ∧
    v.tree.status v.cwd (fullPath w.cwd p)
      = .ok (.file id x (before ++ (emitted s rs).flatMap filed))) s.file id?

/-- After the setup no record has been received. -/
theorem received_start (h : IsSetUp s id? w) : Received s id? w [] w where
  machine := rfl
  log := h.log
  errorStream := ⟨"", rfl, String.append_empty.symm⟩
  file := by
    apply rel_imp h.file
    rintro p - id - ⟨x, bytes, hstatus⟩
    refine ⟨x, bytes, hstatus, ?_⟩
    show _ = Except.ok (Node.file id x (bytes ++ []))
    rw [List.append_nil, hstatus]

/-- What leaves the logging and its file alone is no record. -/
theorem Received.change {rs : List Log.Record} (h : Received s id? w rs v)
    (hmachine : v'.machine = v.machine) (hlog : v'.log = v.log)
    (herror : v'.errorStream = v.errorStream)
    (hfile : ∀ p ∈ s.file, v'.tree.status v'.cwd (fullPath w.cwd p)
      = v.tree.status v.cwd (fullPath w.cwd p)) : Received s id? w rs v' where
  machine := hmachine.trans h.machine
  log := hlog.trans h.log
  errorStream := by
    rw [herror]
    exact h.errorStream
  file := by
    apply rel_imp h.file
    rintro p hp id - ⟨x, before, hbefore, hstatus⟩
    exact ⟨x, before, hbefore, (hfile p hp).trans hstatus⟩

/-- There is a log file exactly if the settings name one. -/
theorem Received.isSome_eq {rs : List Log.Record} (h : Received s id? w rs v) :
    s.file.isSome = id?.isSome := by
  have hfile := h.file
  revert hfile
  generalize s.file = file?
  rintro (- | -) <;> rfl

/-- A message is one record more. -/
theorem Received.message {rs : List Log.Record} (h : Received s id? w rs v) (hrich : s.rich = false)
    (hfits : Log.Fits (patternOf s)) (logger : String) (level : Level) (message : Text.CodePoints) :
    Received s id? w (rs ++ [v.record logger level message])
      (v.recordedPoints logger level message) := by
  -- A message below the level is not received, and nothing changes.
  by_cases hlevel : s.level.number ≤ level.number
  · obtain ⟨line, hline⟩ := hfits.exists_line (v.record logger level message)
    have hemitted : emitted s (rs ++ [v.record logger level message])
        = emitted s rs ++ [v.record logger level message] := by
      simp [emitted, World.record, hlevel]
    rw [recorded_of_le h.log hrich hlevel hline]
    refine ⟨h.machine, h.log, ?_, ?_⟩
    · obtain ⟨text, htext, herror⟩ := h.errorStream
      refine ⟨_, hemitted ▸ text?_concat htext (by rw [streamed?, hline]; rfl), ?_⟩
      dsimp only
      rw [herror, String.append_assoc, h.isSome_eq, h.machine]
    · apply rel_imp h.file
      rintro p - id hid ⟨x, before, hbefore, hstatus⟩
      refine ⟨x, before, hbefore, ?_⟩
      rw [hid, Option.elim_some]
      dsimp only
      rw [FileTree.status_append, hstatus, hemitted, List.flatMap_append, List.flatMap_singleton,
        ← List.append_assoc]
      exact congrArg Except.ok (if_pos rfl)
  · have hemitted : emitted s (rs ++ [v.record logger level message]) = emitted s rs := by
      simp [emitted, World.record, hlevel]
    have hloglevel : v.log.level = s.level := by rw [h.log]
    rw [recorded_of_lt hloglevel (by omega)]
    exact ⟨h.machine, h.log, hemitted ▸ h.errorStream, hemitted ▸ h.file⟩

/-- Whatever comes after a set-up, each record has become its lines and nothing else. -/
theorem Later.received {rs : List Log.Record} (h : Later s w rs v) (hsetup : IsSetUp s id? w)
    (hrich : s.rich = false) (hfits : Log.Fits (patternOf s)) : Received s id? w rs v := by
  induction h with
  | start => exact received_start hsetup
  | message _ logger level message ih => exact ih.message hrich hfits logger level message
  | change _ hmachine hlog herror hfile ih => exact ih.change hmachine hlog herror hfile

/-- The log file has its old contents, and behind them the records. -/
theorem Received.read {rs : List Log.Record} (h : Received s id? w rs v) {p : Path} (hp : p ∈ s.file) :
    ∃ before, w.tree.read w.cwd (fullPath w.cwd p) = .ok before ∧
      v.tree.read v.cwd (fullPath w.cwd p) = .ok (before ++ (emitted s rs).flatMap filed) := by
  have hfile := h.file
  rw [Option.mem_def.mp hp] at hfile
  cases hfile with
  | some hid =>
    obtain ⟨x, before, hbefore, hstatus⟩ := hid
    refine ⟨before, ?_, ?_⟩
    · exact FileTree.read_eq_ok_iff_status.mpr ⟨_, x, hbefore⟩
    · exact FileTree.read_eq_ok_iff_status.mpr ⟨_, x, hstatus⟩

/-- A file that is not the log file keeps its bytes when one more message comes. -/
theorem Received.read_other {rs : List Log.Record} (h : Received s id? w rs v) {other : Path}
    (hother : ∀ p ∈ s.file, ¬ SameFile v other (fullPath w.cwd p)) (logger : String) (level : Level)
    (message : Text.CodePoints) :
    (v.recordedPoints logger level message).tree.read v.cwd other = v.tree.read v.cwd other := by
  apply read_recorded h.log
  intro id hid hleads
  have hfile := h.file
  rw [Option.mem_def.mp hid] at hfile
  revert hfile hother
  generalize s.file = file?
  rintro hother (⟨x, before, -, hstatus⟩ | _)
  exact hother _ rfl ⟨id, hleads, x, _, hstatus⟩

end Logging

end Downlevel
