import Downlevel.Proofs.Log.Filling
import Downlevel.Proofs.World.Recording
/-!
# Log files

A message that no file takes comes into the journal and the error stream alone. A file that takes it
has one line more.
-/
namespace Downlevel

/-! ## A message that no file takes -/

/-- Messages of a level are written to a file. -/
def Log.Setup.WritesFile (s : Log.Setup) (level : Level) : Prop :=
  s.records level = true ∧
    ∃ id least, .file id least ∈ s.handlers ∧ least.number ≤ level.number

/-- Messages of a level are written to the file with an identity. -/
def Log.Setup.WritesTo (s : Log.Setup) (level : Level) (id : Nat) : Prop :=
  s.records level = true ∧ ∃ least, .file id least ∈ s.handlers ∧ least.number ≤ level.number

namespace World

variable {logger message : String} {level : Level}

/-- Handlers that write a record to no file change nothing but the error stream. -/
theorem deliver_of_no_file {handlers : List Log.Handler} {r : Log.Record}
    (h : ∀ id least, .file id least ∈ handlers → ¬ least.number ≤ r.level.number) (w : World) :
    ∃ text, handlers.foldl (deliver r) w = { w with errorStream := w.errorStream ++ text } := by
  induction handlers generalizing w with
  | nil => exact ⟨"", by rw [String.append_empty]; rfl⟩
  | cons handler handlers ih =>
    have hrest : ∀ id least, .file id least ∈ handlers → ¬ least.number ≤ r.level.number :=
      fun id least hmem => h id least (List.mem_cons_of_mem _ hmem)
    -- What is told on the stream before the rest stands in front of it.
    have htold : ∀ (v : World) (more : String),
        v = { w with errorStream := w.errorStream ++ more } →
        ∃ text, handlers.foldl (deliver r) v = { w with errorStream := w.errorStream ++ text } := by
      rintro v more rfl
      obtain ⟨text, htext⟩ := ih hrest { w with errorStream := w.errorStream ++ more }
      refine ⟨more ++ text, ?_⟩
      rw [htext]
      simp only [String.append_assoc]
    rw [List.foldl_cons]
    cases handler with
    | stream pattern =>
      rw [deliver]
      cases Log.line? pattern r with
      | none => exact htold _ _ rfl
      | some line => exact htold _ (Text.printed line ++ "\n") (by dsimp only; rw [String.append_assoc])
    | display => exact ih hrest w
    | file id least =>
      rw [deliver, if_neg (h id least List.mem_cons_self)]
      exact ih hrest w

/-- A message that is written to no file comes at the end of the journal and of the error stream, and
nowhere else. -/
theorem recorded_of_no_file {w : World} (hfiles : ¬ w.log.WritesFile level)
    (hfamily : Log.inFamily logger = true) (message : String) :
    ∃ text, w.recorded logger level message = { w with
      journal := w.journal ++ (if w.log.records level then [(level.name, message)] else [])
      errorStream := w.errorStream ++ text } := by
  cases hrecords : w.log.records level with
  | false =>
    refine ⟨"", ?_⟩
    rw [recorded, recordedPoints, hrecords, if_neg Bool.false_ne_true, if_neg Bool.false_ne_true,
      List.append_nil, String.append_empty]
  | true =>
    have hnone : ∀ id least, .file id least ∈ w.log.handlers → ¬ least.number ≤ level.number :=
      fun id least hmem hleast => hfiles ⟨hrecords, id, least, hmem, hleast⟩
    obtain ⟨text, htext⟩ := deliver_of_no_file
      (r := w.record logger level (Text.codePoints message)) hnone
      { w with journal := w.journal ++ [(level.name, message)] }
    refine ⟨text, ?_⟩
    rw [recorded, recordedPoints_of_inFamily hfamily hrecords, if_pos rfl, Text.printed_codePoints]
    exact htext

/-! ## A message that other files take -/

variable {q : Place} {id : Nat} {x : Bool} {bytes : List UInt8}

/-- A file that takes no record of this level stays as it is. -/
theorem find?_deliver {r : Log.Record} {handlers : List Log.Handler}
    (h : ∀ least, .file id least ∈ handlers → ¬ least.number ≤ r.level.number) {w : World}
    (hfile : w.tree.find? q = some (.file id x bytes)) :
    (handlers.foldl (deliver r) w).tree.find? q = some (.file id x bytes) := by
  induction handlers generalizing w with
  | nil => exact hfile
  | cons handler handlers ih =>
    refine ih (fun least hmem => h least (List.mem_cons_of_mem _ hmem)) ?_
    cases handler with
    | stream pattern =>
      rw [deliver]
      split <;> exact hfile
    | display => exact hfile
    | file other least =>
      rw [deliver]
      split
      · rename_i hleast
        -- The file takes no record of this level, so this is another one.
        have hne : id ≠ other := by
          rintro rfl
          exact h least List.mem_cons_self hleast
        split
        · exact FileTree.find?_append_of_ne hne hfile _
        · exact hfile
      · exact hfile

/-- A file that takes no messages of a level keeps its bytes. -/
theorem find?_recorded {w : World} (hid : ¬ w.log.WritesTo level id)
    (hfile : w.tree.find? q = some (.file id x bytes)) (logger message : String) :
    (w.recorded logger level message).tree.find? q = some (.file id x bytes) := by
  unfold recorded recordedPoints
  split
  · rename_i hrecords
    have hnone : ∀ least, .file id least ∈ w.log.handlers → ¬ least.number ≤ level.number :=
      fun least hmem hleast => hid ⟨hrecords, least, hmem, hleast⟩
    -- The journal grows or not, which does not matter here.
    dsimp only
    generalize hv : (if Log.inFamily logger then
      { w with journal := w.journal ++ [(level.name, Text.printed (Text.codePoints message))] }
      else w) = v
    have htree : v.tree = w.tree := by
      rw [← hv]
      split <;> rfl
    have hlog : v.log = w.log := by
      rw [← hv]
      split <;> rfl
    split
    · rwa [htree]
    · refine find?_deliver ?_ (by rwa [htree])
      rwa [hlog]
  · exact hfile

end World

/-! ## A message that a file takes -/

/-- A message that is a string has a line in a log file. -/
theorem Log.Record.exists_fileLine {r : Record} {message : String}
    (h : r.message = Text.codePoints message) : ∃ bytes, r.fileLine? = some bytes ∧ bytes ≠ [] := by
  refine ⟨_, fileLine?_eq_some_iff.mpr ⟨?_, rfl⟩, List.append_ne_nil_of_right_ne_nil _ (by decide)⟩
  intro n hn
  rw [h] at hn
  obtain ⟨c, -, rfl⟩ := List.mem_map.mp hn
  exact Text.not_isSurrogate_toNat c

namespace World

variable {logger : String} {id : Nat} {w : World}

/-- A file that takes the records of a level gets their lines, and what has no line is lost. -/
theorem deliver_file {r : Log.Record} {least : Level} (h : least.number ≤ r.level.number) :
    w.deliver r (.file id least) = match r.fileLine? with
      | some bytes => { w with tree := w.tree.append id bytes }
      | none => w.lost r := by
  rw [deliver, if_pos h, Log.Record.fileLine?]
  generalize (Log.line? Log.filePattern r).map _ = line
  rcases line with _ | run | bytes <;> rfl

/-- A message for the only file of a log becomes a line of that file. -/
theorem tree_recorded_of_one_file (hlog : w.log = ⟨.info, [.file id .info]⟩)
    (hfamily : Log.inFamily logger = true) (message : String) : ∃ line, line ≠ [] ∧
      (w.recorded logger .info message).tree = w.tree.append id line := by
  obtain ⟨line, hline, hne⟩ := Log.Record.exists_fileLine
    (r := w.record logger .info (Text.codePoints message)) rfl
  have hinfo : w.log.records .info = true := by
    rw [hlog]
    rfl
  refine ⟨line, hne, ?_⟩
  have hfile (v : World) : v.deliver (w.record logger .info (Text.codePoints message))
      (.file id .info) = _ := v.deliver_file (Nat.le_refl _)
  rw [recorded, recordedPoints_of_inFamily hfamily hinfo, hlog, List.foldl_cons, hfile, hline]
  rfl

/-- So the file is not what it was. -/
theorem find?_recorded_ne (hlog : w.log = ⟨.info, [.file id .info]⟩)
    (hfamily : Log.inFamily logger = true) (message : String) {q : Place} {x : Bool}
    {bytes : List UInt8} (hfile : w.tree.find? q = some (.file id x bytes)) :
    (w.recorded logger .info message).tree.find? q ≠ w.tree.find? q := by
  obtain ⟨line, hne, htree⟩ := tree_recorded_of_one_file hlog hfamily message
  rw [htree, FileTree.find?_append_self hfile, hfile]
  intro hsame
  have hbytes := (Node.file.inj (Option.some.inj hsame)).2.2
  exact hne (List.append_right_eq_self.mp hbytes)

end World

end Downlevel
