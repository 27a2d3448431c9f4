import Downlevel.Host
import Downlevel.Proofs.FileTree.Changes
import Downlevel.Proofs.Text.Decoding
import Downlevel.Proofs.Text.Joining
import Downlevel.Proofs.Text.Lines
import Downlevel.Proofs.Text.Stripping
/-!
# The release file of an installation

A release file is read line by line, and the first line with the key gives the version. Reading the file
is the inverse of writing the line: a quoted version comes back as it is, whatever bytes stand on the
lines before it, as long as none of them has the key, and whatever stands after it.
-/
namespace Downlevel.Host

/-! ## Lines with the key -/

section Lines

variable {key value line text : List Char}

/-- A line is cut at its first equals sign. -/
theorem assignment?_append (h : '=' ∉ key) (value : List Char) :
    assignment? (key ++ '=' :: value) = some (key, value) := by
  rw [assignment?, Text.takeWhile_append_cons h, List.drop_left]
  rfl

/-- A line assigns if and only if it is a key, an equals sign and a value. -/
theorem assignment?_eq_some_iff :
    assignment? line = some (key, value) ↔ line = key ++ '=' :: value ∧ '=' ∉ key := by
  constructor
  · intro h
    have hfront : '=' ∉ line.takeWhile (· ≠ '=') := by
      intro hmem
      have hne := List.mem_takeWhile_imp hmem
      simp at hne
    have hline := List.takeWhile_append_dropWhile (p := (· ≠ '=')) (l := line)
    unfold assignment? at h
    dsimp only at h
    split at h
    · rename_i value' hvalue
      cases h
      refine ⟨?_, hfront⟩
      rw [← hvalue]
      exact (List.prefix_iff_eq_append.mp (List.takeWhile_prefix _)).symm
    · cases h
  · rintro ⟨rfl, hkey⟩
    exact assignment?_append hkey value

/-- A line has the key: it stands, blanks apart, before the first equals sign of the line. -/
def SetsVersion (line : List Char) : Prop :=
  ∃ key value, line = key ++ '=' :: value ∧ '=' ∉ key ∧ Text.strip key = "JAVA_VERSION".toList

/-- The version on a line, if the line has the key. -/
def versionOn? (line : List Char) : Option String :=
  match assignment? line with
  | some (key, value) =>
    if Text.strip key = "JAVA_VERSION".toList then
      some (String.ofList (unquoted (Text.strip value)))
    else none
  | none => none

/-- A line has no version if and only if it does not set it. -/
theorem versionOn?_eq_none_iff : versionOn? line = none ↔ ¬ SetsVersion line := by
  unfold versionOn?
  constructor
  · rintro h ⟨key, value, rfl, hkey, hname⟩
    rw [assignment?_append hkey] at h
    dsimp only at h
    rw [if_pos hname] at h
    cases h
  · intro h
    split
    · rename_i key value hassignment
      obtain ⟨hline, hkey⟩ := assignment?_eq_some_iff.mp hassignment
      rw [if_neg]
      exact fun hname => h ⟨key, value, hline, hkey, hname⟩
    · rfl

/-- The lines are looked through in their order; it does not matter how their ends are written. -/
theorem releaseVersion?_eq (text : List Char) :
    releaseVersion? text = (Text.splitLines text).findSome? versionOn? := by
  rw [← Text.splitLines_unifyNewlines]
  rfl

/-- A release file has no version if and only if none of its lines sets it. -/
theorem releaseVersion?_eq_none_iff :
    releaseVersion? text = none ↔ ∀ line ∈ Text.splitLines text, ¬ SetsVersion line := by
  rw [releaseVersion?_eq, List.findSome?_eq_none_iff]
  exact forall_congr' fun line => forall_congr' fun _ => versionOn?_eq_none_iff

end Lines

/-! ## The written line -/

/-- Spaces and tabs in the line of a version: around the key, and around the quoted value. -/
structure Spacing where
  beforeKey : List Char := []
  afterKey : List Char := []
  beforeValue : List Char := []
  afterValue : List Char := []
  gaps : ∀ c ∈ beforeKey ++ afterKey ++ beforeValue ++ afterValue, c = ' ' ∨ c = '\t' := by decide

/-- The line that gives a version. -/
def versionLine (s : Spacing) (version : String) : String :=
  String.ofList (s.beforeKey ++ "JAVA_VERSION".toList ++ s.afterKey ++ '=' ::
    (s.beforeValue ++ ('"' :: version.toList ++ ['"']) ++ s.afterValue))

variable {version : String}

/-- Quotes that are put around a version are taken off again. -/
theorem unquoted_quoted (hfirst : version.toList.head? ≠ some '"')
    (hlast : version.toList.getLast? ≠ some '"') :
    unquoted ('"' :: version.toList ++ ['"']) = version.toList := by
  generalize version.toList = cs at hfirst hlast
  have hfront : ('"' :: cs ++ ['"']).dropWhile (· = '"') = (cs ++ ['"']).dropWhile (· = '"') := by
    rw [List.cons_append, List.dropWhile_cons_of_pos rfl]
  rw [unquoted, hfront]
  cases cs with
  | nil => rfl
  | cons c cs =>
    rw [List.cons_append, List.dropWhile_cons_of_neg (by simpa using hfirst), ← List.cons_append, List.reverse_append,
      List.reverse_singleton, List.singleton_append, List.dropWhile_cons_of_pos rfl]
    rw [← List.head?_reverse] at hlast
    cases hback : (c :: cs).reverse with
    | nil => simp at hback
    | cons d ds =>
      rw [hback] at hlast
      rw [List.dropWhile_cons_of_neg (by simpa using hlast), ← hback, List.reverse_reverse]

namespace Spacing

variable (s : Spacing) {c : Char}

/-- The spaces and tabs of a line are blank, and end no line. -/
theorem all_isBlank : s.beforeKey.all Text.isBlank ∧ s.afterKey.all Text.isBlank ∧
    s.beforeValue.all Text.isBlank ∧ s.afterValue.all Text.isBlank := by
  have hblank : ∀ c ∈ s.beforeKey ++ s.afterKey ++ s.beforeValue ++ s.afterValue,
      Text.isBlank c = true := by
    intro c hc
    rcases s.gaps c hc with rfl | rfl <;> decide
  simp only [List.mem_append] at hblank
  refine ⟨?_, ?_, ?_, ?_⟩ <;> rw [List.all_eq_true] <;> intro c hc
  · exact hblank c (Or.inl (Or.inl (Or.inl hc)))
  · exact hblank c (Or.inl (Or.inl (Or.inr hc)))
  · exact hblank c (Or.inl (Or.inr hc))
  · exact hblank c (Or.inr hc)

/-- A character of the line is a space, a tab, one of the key, the equals sign, a quote, or one of the
version. -/
theorem mem_versionLine (h : c ∈ (versionLine s version).toList) :
    c = ' ' ∨ c = '\t' ∨ c ∈ "JAVA_VERSION=\"".toList ∨ c ∈ version.toList := by
  have hgap := s.gaps c
  have hkey : "JAVA_VERSION=\"".toList = "JAVA_VERSION".toList ++ ['=', '"'] := by decide
  rw [hkey]
  simp only [versionLine, String.toList_ofList, List.mem_append, List.mem_cons, List.not_mem_nil,
    or_false] at h hgap ⊢
  grind

/-- The line begins with a character that is a single byte and ends no line. -/
theorem exists_versionLine_eq (version : String) :
    ∃ c cs, (versionLine s version).toList = c :: cs ∧ c.toNat < 0x80 ∧ c ∉ Text.lineEnds := by
  have hname : "JAVA_VERSION".toList = 'J' :: "AVA_VERSION".toList := by decide
  simp only [versionLine, String.toList_ofList, hname, List.append_assoc]
  cases hgap : s.beforeKey with
  | nil => exact ⟨_, _, rfl, by decide, by decide⟩
  | cons c cs =>
    refine ⟨_, _, rfl, ?_⟩
    rcases s.gaps c (by simp [hgap]) with rfl | rfl <;> decide

end Spacing

/-- A written version without quotes at its ends is read back, whatever the blanks. -/
theorem versionOn?_versionLine (s : Spacing) (hfirst : version.toList.head? ≠ some '"')
    (hlast : version.toList.getLast? ≠ some '"') :
    versionOn? (versionLine s version).toList = some version := by
  obtain ⟨hbeforeKey, hafterKey, hbeforeValue, hafterValue⟩ := s.all_isBlank
  -- The first equals sign is the one behind the key, as no blank before it is one.
  have hequals : '=' ∉ s.beforeKey ++ "JAVA_VERSION".toList ++ s.afterKey := by
    have hgap := s.gaps '='
    have hname : '=' ∉ "JAVA_VERSION".toList := by decide
    simp only [List.mem_append] at hgap ⊢
    rintro ((hmem | hmem) | hmem)
    · exact absurd (hgap (Or.inl (Or.inl (Or.inl hmem)))) (by decide)
    · exact hname hmem
    · exact absurd (hgap (Or.inl (Or.inl (Or.inr hmem)))) (by decide)
  have hkey : Text.strip (s.beforeKey ++ "JAVA_VERSION".toList ++ s.afterKey)
      = "JAVA_VERSION".toList :=
    Text.strip_surrounded hbeforeKey hafterKey (by decide)
  have hquoted : Text.Bare ('"' :: version.toList ++ ['"']) := by
    constructor
    · intro c hc
      cases hc
      decide
    · intro c hc
      rw [List.getLast?_concat] at hc
      cases hc
      decide
  have hvalue := Text.strip_surrounded hbeforeValue hafterValue hquoted
  rw [versionOn?, versionLine, String.toList_ofList, assignment?_append hequals]
  dsimp only
  rw [if_pos hkey, hvalue, unquoted_quoted hfirst hlast, String.ofList_toList]

/-! ## The file -/

/-- The bytes that end a line, alone or one after the other. -/
def newlines : List UInt8 :=
  [0x0a, 0x0d]

theorem mem_newlines {b : UInt8} : b ∈ newlines ↔ b = 0x0a ∨ b = 0x0d := by
  simp [newlines]

/-- Bytes that end in a newline are read as a text that ends in one. -/
theorem getLast?_decodeLossy {before : List UInt8} (h : ∀ b ∈ before.getLast?, b ∈ newlines) :
    ∀ c ∈ (Text.decodeLossy before).getLast?, c ∈ Text.lineEnds := by
  rcases List.eq_nil_or_concat before with rfl | ⟨bytes, b, rfl⟩
  · intro c hc
    rw [Text.decodeLossy] at hc
    cases hc
  · rw [List.concat_eq_append] at h ⊢
    have hb : b ∈ newlines := h b List.getLast?_concat
    have hone : b.toNat < 0x80 ∧ ∃ c ∈ Text.lineEnds, Text.decodeLossy [b] = [c] := by
      rcases mem_newlines.mp hb with rfl | rfl
      · exact ⟨by decide, '\n', by decide, by decide +kernel⟩
      · exact ⟨by decide, '\r', by decide, by decide +kernel⟩
    obtain ⟨hascii, c, hc, hread⟩ := hone
    rw [Text.decodeLossy_append hascii, hread]
    intro d hd
    rw [List.getLast?_concat] at hd
    cases hd
    exact hc

/-- Bytes that begin with a newline are decoded to a text that begins with a line end. -/
theorem head?_decodeLossy {after : List UInt8} (h : ∀ b ∈ after.head?, b ∈ newlines) :
    ∀ c ∈ (Text.decodeLossy after).head?, c ∈ Text.lineEnds := by
  cases after with
  | nil =>
    intro c hc
    rw [Text.decodeLossy] at hc
    cases hc
  | cons b after =>
    have hb : b ∈ newlines := h b rfl
    intro c hc
    rw [Text.decodeLossy_cons] at hc
    cases hc
    rcases mem_newlines.mp hb with rfl | rfl
    · exact (by decide : '\n' ∈ Text.lineEnds)
    · exact (by decide : '\r' ∈ Text.lineEnds)

/-- Characters that are looked at one by one end no line. -/
theorem not_mem_lineEnds_of_all {cs : List Char}
    (h : cs.all (fun d => !Text.lineEnds.contains d) = true) : ∀ d ∈ cs, d ∉ Text.lineEnds := by
  simpa using h

/-- The lines of a file in which a version is written: those before it, its own, and others. -/
theorem exists_splitLines_written (s : Spacing) {before after : List UInt8}
    (hline : ∀ c ∈ version.toList, c ∉ Text.lineEnds)
    (hbefore : ∀ b ∈ before.getLast?, b ∈ newlines) (hafter : ∀ b ∈ after.head?, b ∈ newlines) :
    ∃ lines, Text.splitLines (Text.decodeLossy (before ++ Text.utf8 (versionLine s version) ++ after))
      = Text.splitLines (Text.decodeLossy before) ++ (versionLine s version).toList :: lines := by
  obtain ⟨c, cs, hcs, hascii, hc⟩ := s.exists_versionLine_eq version
  have hfree : ∀ d ∈ (versionLine s version).toList, d ∉ Text.lineEnds := by
    intro d hd
    rcases s.mem_versionLine hd with rfl | rfl | hkey | hversion
    · decide
    · decide
    · exact not_mem_lineEnds_of_all (by decide : "JAVA_VERSION=\"".toList.all _ = true) d hkey
    · exact hline d hversion
  -- The first character of the line is a single byte, so that what stands before is read for itself.
  have hbytes : Text.utf8 (versionLine s version)
      = c.toNat.toUInt8 :: cs.flatMap (fun d => Text.encodePoint d.toNat) := by
    rw [Text.utf8, hcs, List.flatMap_cons, Text.encodePoint_eq_one hascii
      ((Text.eq_toUInt8_iff (by omega)).mp rfl)]
    rfl
  have hone : c.toNat.toUInt8.toNat < 0x80 := by
    rw [(Text.eq_toUInt8_iff (by omega)).mp rfl]
    exact hascii
  have hread : Text.decodeLossy (before ++ Text.utf8 (versionLine s version) ++ after)
      = Text.decodeLossy before ++ ((versionLine s version).toList ++ Text.decodeLossy after) := by
    rw [List.append_assoc, hbytes, List.cons_append, Text.decodeLossy_append hone,
      ← List.cons_append, ← hbytes, Text.decodeLossy_utf8_append]
  have hmeet : ((versionLine s version).toList ++ Text.decodeLossy after).head? ≠ some '\n' := by
    rw [hcs]
    intro h
    cases h
    exact hc (by decide)
  obtain ⟨lines, hlines⟩ := Text.exists_splitLines_append (by rw [hcs]; exact List.cons_ne_nil _ _) hfree
    (head?_decodeLossy hafter)
  exact ⟨lines, by rw [hread, Text.splitLines_append (getLast?_decodeLossy hbefore) hmeet, hlines]⟩

/-- Bytes before the line of the version: some encode no text, and the key stands after an equals
sign. -/
def otherLines : List UInt8 :=
  [0xff, 0xed, 0xa0] ++ Text.utf8 "=JAVA_VERSION=9\r\nFULL_VERSION=JAVA_VERSION=\"9\"\r\n"

/-- The bytes of a release file in which other lines stand around that of the version. -/
def mixedRelease : List UInt8 :=
  otherLines ++ Text.utf8 (versionLine ⟨['\t'], [' '], [' ', '\t'], [' '], by simp⟩ " a=\"é\" 1 ")
    ++ ([0x0d, 0x0a, 0xc3] ++ Text.utf8 "\nJAVA_VERSION=\"9\"")

/-- A machine with that release file at its root. -/
def mixedMachine : World where
  tree := { nodes := [(["release"], .file 1 false mixedRelease)] }
  cwd := []
  environment := []

end Downlevel.Host
