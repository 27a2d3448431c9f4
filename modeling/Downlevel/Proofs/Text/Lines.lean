import Downlevel.Text.Blank
/-!
# The lines of a text

A text is a row of lines, each followed by its end; the last one may have none, and then it is not
empty. A carriage return before a line feed ends a line together with it. There is one way to see a
text so, and its lines are the ones that the text is cut into. Texts of complete lines can be cut apart
from what follows them, and it does not matter how the ends of lines are written.
-/
namespace Downlevel.Text

/-! ## Line ends -/

/-- The characters that end a line. -/
def lineEnds : List Char :=
  ['\n', '\x0b', '\x0c', '\r', '\x1c', '\x1d', '\x1e', '\u0085', '\u2028', '\u2029']

/-- A line end is one of the known ones. -/
theorem isLineEnd_iff {c : Char} : isLineEnd c = true ↔ c ∈ lineEnds := by
  -- A character is one of the ends exactly when its number is one of theirs.
  simp only [isLineEnd, inRanges, lineEnds, List.mem_cons, List.not_mem_nil, ← Char.toNat_inj,
    List.any_cons, List.any_nil, Bool.or_eq_true, Bool.and_eq_true, decide_eq_true_eq,
    Char.reduceToNat, Bool.false_eq_true, or_false]
  omega

theorem isLineEnd_eq_false_iff {c : Char} : isLineEnd c = false ↔ c ∉ lineEnds := by
  rw [← isLineEnd_iff, Bool.not_eq_true]

/-- What ends a line before the rest of a text. -/
def EndsLine (mark rest : List Char) : Prop :=
  mark = ['\r', '\n'] ∨ ∃ c ∈ lineEnds, mark = [c] ∧ ¬ (c = '\r' ∧ rest.head? = some '\n')

/-- A text is a row of lines with their ends. -/
inductive CutInto : List Char → List (List Char) → Prop
  | nil : CutInto [] []
  | last {line : List Char} : line ≠ [] → (∀ c ∈ line, c ∉ lineEnds) → CutInto line [line]
  | line {line mark rest : List Char} {lines : List (List Char)} : (∀ c ∈ line, c ∉ lineEnds) →
      EndsLine mark rest → CutInto rest lines → CutInto (line ++ mark ++ rest) (line :: lines)

/-! ## Cutting a text -/

/-- Characters that end no line are added to the current one. -/
theorem splitLinesFrom_append {line : List Char} (h : ∀ c ∈ line, c ∉ lineEnds)
    (current rest : List Char) :
    splitLinesFrom current (line ++ rest) = splitLinesFrom (line.reverse ++ current) rest := by
  induction line generalizing current with
  | nil => rfl
  | cons c line ih =>
    have hc := h c List.mem_cons_self
    have hcr : c ≠ '\r' := by
      rintro rfl
      exact hc (by decide)
    rw [List.cons_append, splitLinesFrom, isLineEnd_eq_false_iff.mpr hc, if_neg Bool.false_ne_true,
      ih fun d hd => h d (List.mem_cons_of_mem _ hd), List.reverse_cons, List.append_assoc]
    · rfl
    · exact fun rest' hcr' => absurd hcr' hcr

/-- At a line end the current line is complete. -/
theorem splitLinesFrom_mark {mark rest : List Char} (h : EndsLine mark rest)
    (current : List Char) :
    splitLinesFrom current (mark ++ rest) = current.reverse :: splitLines rest := by
  rcases h with rfl | ⟨c, hc, rfl, halone⟩
  · rfl
  · rw [List.singleton_append, splitLinesFrom, isLineEnd_iff.mpr hc, if_pos rfl, splitLines]
    rintro rest' rfl rfl
    exact halone ⟨rfl, rfl⟩

/-- The lines of a text are cut out of it. -/
theorem splitLines_of_cutInto {text : List Char} {lines : List (List Char)}
    (h : CutInto text lines) : splitLines text = lines := by
  induction h with
  | nil => rfl
  | @last line hne hfree =>
    rw [splitLines, ← List.append_nil line, splitLinesFrom_append hfree, splitLinesFrom,
      List.append_nil, List.append_nil, List.reverse_reverse, if_neg (by simpa using hne)]
  | @line line mark rest lines hfree hmark hrest ih =>
    rw [splitLines, List.append_assoc, splitLinesFrom_append hfree, splitLinesFrom_mark hmark, ih,
      List.append_nil, List.reverse_reverse]

/-- Whatever was read of the current line, the lines of the whole text are found. -/
theorem cutInto_splitLinesFrom (current rest : List Char) (h : ∀ c ∈ current, c ∉ lineEnds) :
    CutInto (current.reverse ++ rest) (splitLinesFrom current rest) := by
  have hreverse {current : List Char} (h : ∀ c ∈ current, c ∉ lineEnds) :
      ∀ c ∈ current.reverse, c ∉ lineEnds := fun c hc => h c (List.mem_reverse.mp hc)
  -- The induction is on the cutting itself, so that a carriage return before a line feed is one case.
  induction current, rest using splitLinesFrom.induct with
  | case1 current hempty =>
    rw [splitLinesFrom, if_pos hempty, List.isEmpty_iff.mp hempty]
    exact .nil
  | case2 current hempty =>
    rw [splitLinesFrom, if_neg hempty, List.append_nil]
    exact .last (by simpa using hempty) (hreverse h)
  | case3 current rest ih =>
    have hcut := CutInto.line (hreverse h) (Or.inl rfl) (ih nofun)
    rw [List.append_assoc] at hcut
    exact hcut
  | case4 current c rest hpair hend ih =>
    rw [splitLinesFrom, if_pos hend]
    · have halone : EndsLine [c] rest := by
        refine Or.inr ⟨c, isLineEnd_iff.mp hend, rfl, ?_⟩
        rintro ⟨rfl, hhead⟩
        obtain ⟨rest', rfl⟩ := List.head?_eq_some_iff.mp hhead
        exact hpair rest' rfl rfl
      have hcut := CutInto.line (hreverse h) halone (ih nofun)
      rw [List.append_assoc] at hcut
      exact hcut
    · exact hpair
  | case5 current c rest hpair hend ih =>
    rw [splitLinesFrom, if_neg hend]
    · have hc : c ∉ lineEnds := fun hmem => hend (isLineEnd_iff.mpr hmem)
      have hcut := ih fun d hd => (List.mem_cons.mp hd).elim (fun heq => heq ▸ hc) (h d)
      rwa [List.reverse_cons, List.append_assoc] at hcut
    · exact hpair

/-- A text is cut into lines in one way. -/
theorem cutInto_iff {text : List Char} {lines : List (List Char)} :
    CutInto text lines ↔ splitLines text = lines := by
  refine ⟨splitLines_of_cutInto, ?_⟩
  rintro rfl
  exact cutInto_splitLinesFrom [] text nofun

/-! ## Lines one after the other -/

/-- A text of complete lines and a further text have the lines of both, unless the texts meet within a
line end. -/
theorem CutInto.append {text more : List Char} {lines moreLines : List (List Char)}
    (h : CutInto text lines) (h' : CutInto more moreLines)
    (hend : ∀ c ∈ text.getLast?, c ∈ lineEnds) (hmeet : more.head? ≠ some '\n') :
    CutInto (text ++ more) (lines ++ moreLines) := by
  -- The induction is on the cutting of the first text, which ends with a line end.
  induction h with
  | nil => exact h'
  | @last line hne hfree =>
    have hlast := hend _ (List.getLast?_eq_some_getLast hne)
    exact absurd hlast (hfree _ (List.getLast_mem hne))
  | @line line mark rest lines hfree hmark hrest ih =>
    rw [List.append_assoc, List.cons_append]
    refine .line hfree ?_ (ih fun c hc => hend c ?_)
    · rcases hmark with rfl | ⟨c, hc, rfl, halone⟩
      · exact Or.inl rfl
      · refine Or.inr ⟨c, hc, rfl, ?_⟩
        rintro ⟨rfl, hhead⟩
        cases rest with
        | nil => exact hmeet hhead
        | cons d rest => exact halone ⟨rfl, hhead⟩
    · rw [List.getLast?_append, Option.mem_def.mp hc]
      rfl

/-- Lines that are complete are split off, unless a line end is cut in two. -/
theorem splitLines_append {text more : List Char} (hend : ∀ c ∈ text.getLast?, c ∈ lineEnds)
    (hmeet : more.head? ≠ some '\n') :
    splitLines (text ++ more) = splitLines text ++ splitLines more :=
  splitLines_of_cutInto ((cutInto_iff.mpr rfl).append (cutInto_iff.mpr rfl) hend hmeet)

/-- A line that is followed by a line end, or by nothing, is the first line. -/
theorem exists_splitLines_append {line rest : List Char} (hne : line ≠ [])
    (hfree : ∀ c ∈ line, c ∉ lineEnds) (hend : ∀ c ∈ rest.head?, c ∈ lineEnds) :
    ∃ lines, splitLines (line ++ rest) = line :: lines := by
  cases rest with
  | nil => exact ⟨[], by rw [List.append_nil, splitLines_of_cutInto (.last hne hfree)]⟩
  | cons c rest =>
    have hmark : ∃ mark rest', c :: rest = mark ++ rest' ∧ EndsLine mark rest' := by
      by_cases hpair : c = '\r' ∧ rest.head? = some '\n'
      · obtain ⟨rfl, hhead⟩ := hpair
        obtain ⟨rest', rfl⟩ := List.head?_eq_some_iff.mp hhead
        exact ⟨_, rest', rfl, Or.inl rfl⟩
      · exact ⟨[c], rest, rfl, Or.inr ⟨c, hend c rfl, rfl, hpair⟩⟩
    obtain ⟨mark, rest', hrest, hmark⟩ := hmark
    refine ⟨splitLines rest', ?_⟩
    rw [hrest, ← List.append_assoc]
    exact splitLines_of_cutInto (.line hfree hmark (cutInto_iff.mpr rfl))

/-- The lines are the same however their ends are written. -/
theorem splitLinesFrom_unifyNewlines (current cs : List Char) :
    splitLinesFrom current (unifyNewlines cs) = splitLinesFrom current cs := by
  induction cs using unifyNewlines.induct generalizing current with
  | case1 => rfl
  | case2 rest ih =>
    rw [unifyNewlines, splitLinesFrom, splitLinesFrom, if_pos (by decide), ih]
    exact fun rest' hcr => absurd hcr (by decide)
  | case3 c rest hpair ih =>
    rw [unifyNewlines]
    · by_cases hcr : c = '\r'
      · subst hcr
        rw [if_pos rfl, splitLinesFrom, splitLinesFrom, if_pos (by decide), if_pos (by decide), ih]
        · exact fun rest' _ hrest => hpair rest' rfl hrest
        · exact fun rest' hcr => absurd hcr (by decide)
      · rw [if_neg hcr, splitLinesFrom, splitLinesFrom]
        · simp only [ih]
        · exact fun rest' heq => absurd heq hcr
        · exact fun rest' heq => absurd heq hcr
    · exact hpair

/-- The lines are the same with all line ends made one. -/
theorem splitLines_unifyNewlines (cs : List Char) : splitLines (unifyNewlines cs) = splitLines cs :=
  splitLinesFrom_unifyNewlines [] cs

end Downlevel.Text
