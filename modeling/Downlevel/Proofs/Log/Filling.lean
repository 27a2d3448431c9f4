import Downlevel.Log.Handler
import Downlevel.Proofs.Text.Encoding
/-!
# Patterns that every record fills

A pattern whose fields are all fields of a record, each in a form that its value has, can be filled in
from every record: the value of a field differs from record to record, but not what sort it is of.
-/
namespace Downlevel.Log

open Text (CodePoints codePoints)

/-! ## Sorts of values -/

/-- What sort a value is of. -/
inductive ValueSort where
  | text
  | whole
  | real
  | other
  deriving DecidableEq, Repr

/-- The sort of a value. -/
def FieldValue.sort : FieldValue → ValueSort
  | text _ => .text
  | whole _ => .whole
  | real _ => .real
  | other _ => .other

/-- Whether all values of a sort have a form. -/
def ValueSort.allows (sort : ValueSort) (kind : Char) : Bool :=
  "sra".toList.contains kind || match sort with
    | whole => "diuoxXfFeEgG".toList.contains kind
    | real => "diufFeEgG".toList.contains kind
    | _ => false

/-- A record in which nothing stands. -/
def blankRecord : Record :=
  ⟨"", .debug, [], 0.0, 0, {}⟩

/-- The sort of a field of records, if they have it. -/
def fieldSort? (name : String) : Option ValueSort :=
  (blankRecord.field? name).map FieldValue.sort

/-- All records have the same fields, and each field has values of one sort. -/
theorem sort_field? (r : Record) (name : String) :
    (r.field? name).map FieldValue.sort = fieldSort? name := by
  unfold fieldSort? Record.field?
  split <;> simp only [Option.map_some, Option.map_none, FieldValue.sort]

/-- A value of the right sort can be shown. -/
theorem exists_shown {shape : Shape} {v : FieldValue} (h : v.sort.allows shape.kind = true) :
    ∃ s, shape.shown? v = some s := by
  unfold Shape.shown?
  by_cases hs : shape.kind = 's'
  · exact ⟨_, if_pos hs⟩
  by_cases hr : shape.kind = 'r'
  · exact ⟨_, by rw [if_neg hs, if_pos hr]⟩
  by_cases ha : shape.kind = 'a'
  · exact ⟨_, by rw [if_neg hs, if_neg hr, if_pos ha]⟩
  rw [if_neg hs, if_neg hr, if_neg ha]
  -- Only numbers have other forms, and those that only some numbers have are not allowed.
  simp only [ValueSort.allows, List.contains_eq_mem] at h
  cases v with
  | text s => simp_all [FieldValue.sort]
  | other s => simp_all [FieldValue.sort]
  | whole n =>
    dsimp only
    split
    · exact ⟨_, rfl⟩
    · exact ⟨_, rfl⟩
    · exact ⟨_, rfl⟩
    · exact ⟨_, rfl⟩
    · exact ⟨_, rfl⟩
    · exact ⟨_, rfl⟩
    · simp_all [FieldValue.sort]
    · exact ⟨_, rfl⟩
  | real x =>
    dsimp only
    split
    · exact ⟨_, rfl⟩
    · exact ⟨_, rfl⟩
    · exact ⟨_, rfl⟩
    · simp_all [FieldValue.sort]
    · simp_all [FieldValue.sort]
    · simp_all [FieldValue.sort]
    · simp_all [FieldValue.sort]
    · exact ⟨_, rfl⟩

/-! ## Patterns -/

/-- Every record fills a piece in. -/
def Piece.Fits (p : Piece) : Prop :=
  ∀ r, ∃ text, p.fill? r = some text

/-- Every record fills a pattern in: each of its fields is a field of records, in a form that its value
has. -/
def Fits (pattern : String) : Prop :=
  ∃ ps, pieces? (pattern.length + 1) pattern.toList = some ps ∧ ∀ p ∈ ps, p.Fits

/-- Whether a piece asks for a field of records in a form that all its values have. -/
def Piece.isKnown : Piece → Bool
  | plain _ => true
  | field name shape => (fieldSort? name).any fun sort => sort.allows shape.kind

/-- Whether all pieces of a pattern do. -/
def isKnown (pattern : String) : Bool :=
  (pieces? (pattern.length + 1) pattern.toList).any fun ps => ps.all Piece.isKnown

/-- A piece with a known field can be filled for every record. -/
theorem Piece.fits_of_isKnown {p : Piece} (h : p.isKnown = true) : p.Fits := by
  intro r
  cases p with
  | plain c => exact ⟨_, rfl⟩
  | field name shape =>
    have hsort := sort_field? r name
    rw [Piece.isKnown, Option.any_eq_true, ← hsort] at h
    obtain ⟨sort, hfield, hallows⟩ := h
    obtain ⟨v, hv, rfl⟩ := Option.map_eq_some_iff.mp hfield
    obtain ⟨s, hs⟩ := exists_shown hallows
    exact ⟨shape.laidOut s, by rw [Piece.fill?, hv]; simp only [hs, Option.map_some]⟩

/-- A pattern whose fields are known can be filled for every record. -/
theorem fits_of_isKnown {pattern : String} (h : isKnown pattern = true) : Fits pattern := by
  rw [isKnown, Option.any_eq_true] at h
  obtain ⟨ps, hps, hall⟩ := h
  exact ⟨ps, hps, fun p hp => Piece.fits_of_isKnown (List.all_eq_true.mp hall p hp)⟩

/-- Pieces that can be filled one by one can be filled together. -/
theorem exists_mapM_fill {ps : List Piece} (h : ∀ p ∈ ps, p.Fits) (r : Record) :
    ∃ texts, ps.mapM (Piece.fill? r) = some texts := by
  induction ps with
  | nil => exact ⟨[], rfl⟩
  | cons p ps ih =>
    obtain ⟨text, htext⟩ := h p List.mem_cons_self r
    obtain ⟨texts, htexts⟩ := ih fun q hq => h q (List.mem_cons_of_mem _ hq)
    exact ⟨text :: texts, by rw [List.mapM_cons, htext, htexts]; rfl⟩

/-- Every record has a line in a pattern that fits. -/
theorem Fits.exists_line {pattern : String} (h : Fits pattern) (r : Record) :
    ∃ line, line? pattern r = some line := by
  obtain ⟨ps, hps, hall⟩ := h
  obtain ⟨texts, htexts⟩ := exists_mapM_fill hall r
  exact ⟨texts.flatten, by rw [line?, hps]; simp only [htexts, Option.map_some]⟩

example : isKnown "%(filename)s:%(lineno)04d %(created)e %(levelname)-8s 100%%" = true := by
  decide +kernel

/-! ## The pattern of log files -/

/-- What stands before the message in a line of a log file. -/
def Record.head (r : Record) : String :=
  timeText r.time r.zone ++ " - " ++ r.logger ++ " - " ++ r.level.name ++ " - "

/-- A text that is laid out as it is. -/
theorem laidOut_text (text : CodePoints) : Shape.laidOut { kind := 's' } { body := text } = text := by
  simp [Shape.laidOut, codePoints]

theorem pieces?_filePattern : pieces? (filePattern.length + 1) filePattern.toList =
    some ([.field "asctime" { kind := 's' }] ++ " - ".toList.map .plain
      ++ [.field "name" { kind := 's' }] ++ " - ".toList.map .plain
      ++ [.field "levelname" { kind := 's' }] ++ " - ".toList.map .plain
      ++ [.field "message" { kind := 's' }]) := by
  decide +kernel

/-- A line of a log file ends with the message, whatever stands in it. -/
theorem line?_filePattern (r : Record) :
    line? filePattern r = some (codePoints r.head ++ r.message) := by
  rw [line?, pieces?_filePattern]
  simp [Piece.fill?, Record.field?, Shape.shown?, Shape.cut, FieldValue.plain, laidOut_text,
    Record.head, Text.codePoints_append]
  rfl

/-- The bytes that a log file gets of a record, if there are any. -/
def Record.fileLine? (r : Record) : Option (List UInt8) :=
  match (line? filePattern r).map fun line => Text.encodeUtf8 (line ++ ['\n'.toNat]) with
  | some (.ok bytes) => some bytes
  | _ => none

/-- A log file gets the line of a record exactly if no surrogate stands in its message. -/
theorem Record.fileLine?_eq_some_iff {r : Record} {bytes : List UInt8} :
    r.fileLine? = some bytes ↔ (∀ n ∈ r.message, Text.isSurrogate n = false) ∧
      bytes = Text.utf8 r.head ++ r.message.flatMap Text.encodePoint ++ [10] := by
  have hhead : ∀ n ∈ codePoints r.head, Text.isSurrogate n = false := by
    intro n hn
    obtain ⟨c, -, rfl⟩ := List.mem_map.mp hn
    exact Text.not_isSurrogate_toNat c
  have hbytes : (codePoints r.head).flatMap Text.encodePoint = Text.utf8 r.head := by
    rw [codePoints, List.flatMap_map]
    rfl
  have hend : Text.isSurrogate '\n'.toNat = false := Text.not_isSurrogate_toNat '\n'
  have hencode : r.fileLine? = some bytes ↔
      Text.encodeUtf8 (codePoints r.head ++ r.message ++ ['\n'.toNat]) = .ok bytes := by
    rw [fileLine?, line?_filePattern, Option.map_some]
    cases Text.encodeUtf8 (codePoints r.head ++ r.message ++ ['\n'.toNat]) <;> simp
  rw [hencode, Text.encodeUtf8_eq_ok_iff, List.flatMap_append, List.flatMap_append, hbytes]
  simp only [List.forall_mem_append, List.forall_mem_singleton, hend, and_true]
  rw [and_iff_right hhead]
  rfl

end Downlevel.Log
