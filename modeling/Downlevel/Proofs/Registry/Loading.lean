import Downlevel.Proofs.World.Frame
import Downlevel.Registry
/-!
# Loading toolchains

The toolchains of a file are read without any effect but messages. What comes of it depends on the
bytes of the file alone, so a file that the log does not write to is read alike after any messages.
-/
namespace Downlevel

namespace Registry

theorem within_readElements (source : String) (es : List Xml.Element) :
    (readElements source es).Within World.OnlyRecorded := by
  induction es with
  | nil => exact Action.within_pure _
  | cons e es ih =>
    unfold readElements
    refine Action.Within.ite ih ?_
    split
    · exact ih.bind fun _ => Action.within_pure _
    · exact (within_logAs_onlyRecorded _ _ _).bind fun _ => ih

theorem within_readRoot (source : String) (root : Xml.Element) :
    (readRoot source root).Within World.OnlyRecorded := by
  refine (within_readElements _ _).bind fun toolchains => ?_
  exact (within_logAs_onlyRecorded _ _ _).bind fun _ => Action.within_pure _

/-- The outermost element is found without any change. -/
theorem runIn_readDocument (p : Path) (w : World) :
    (readDocument p).runIn w = ((Files.refused p (w.tree.read w.cwd p)).bind
      (Xml.parse w.machine.libraries.codecs), w) := by
  unfold readDocument
  rw [Action.runIn_bind, Files.runIn_read]
  cases Files.refused p (w.tree.read w.cwd p) with
  | error e => rfl
  | ok bytes =>
    dsimp only
    rw [Action.runIn_bind_ok (Action.runIn_view _ w), Action.runIn_ofExcept]
    rfl

theorem within_readDocument (p : Path) : (readDocument p).Within World.OnlyRecorded := by
  intro w
  rw [runIn_readDocument]
  exact .refl w

theorem within_load (p : Option Path) : (load p).Within World.OnlyRecorded := by
  cases p with
  | none => exact (within_logAs_onlyRecorded _ _ _).bind fun _ => Action.within_pure _
  | some p =>
    refine (Files.within_holds p).bind fun found => Action.Within.ite ?_ ?_
    · refine ((within_readDocument p).orFail _ _).bind fun root => ?_
      exact (within_readRoot _ _).bind fun _ => Action.within_pure _
    · exact (within_logAs_onlyRecorded _ _ _).bind fun _ => Action.within_pure _

theorem within_select (r : Registry) (type : String) (requirements : List (String × String)) :
    (r.select type requirements).Within World.OnlyRecorded := by
  refine (Action.within_ofExcept _).bind fun found => ?_
  split
  · exact (within_logAs_onlyRecorded _ _ _).bind fun _ => Action.within_pure _
  · exact Action.within_pure _

/-! ## What the result depends on -/

theorem fixed_readElements (source : String) (es : List Xml.Element) :
    (readElements source es).Fixed := by
  induction es with
  | nil => exact Action.fixed_pure _
  | cons e es ih =>
    unfold readElements
    split
    · exact ih
    · split
      · exact ih.bind fun _ => Action.fixed_pure _
      · exact (Action.fixed_logAs _ _ _).bind fun _ => ih

theorem fixed_readRoot (source : String) (root : Xml.Element) : (readRoot source root).Fixed := by
  refine (fixed_readElements _ _).bind fun toolchains => ?_
  exact (Action.fixed_logAs _ _ _).bind fun _ => Action.fixed_pure _

theorem fixed_select (r : Registry) (type : String) (requirements : List (String × String)) :
    (r.select type requirements).Fixed := by
  refine (Action.fixed_ofExcept _).bind fun found => ?_
  split
  · exact (Action.fixed_logAs _ _ _).bind fun _ => Action.fixed_pure _
  · exact Action.fixed_pure _

/-- A file of toolchains that is read alike with the same libraries is loaded alike. -/
theorem load_congr {w w' : World} {p : Path} (hmachine : w'.machine = w.machine)
    (hholds : w'.tree.holds w'.cwd p = w.tree.holds w.cwd p)
    (hread : w'.tree.read w'.cwd p = w.tree.read w.cwd p) :
    ((load (some p)).runIn w').1 = ((load (some p)).runIn w).1 := by
  have hdocument : ((readDocument p).runIn w').1 = ((readDocument p).runIn w).1 := by
    rw [runIn_readDocument, runIn_readDocument, hread, hmachine]
  unfold load
  dsimp only
  rw [Action.runIn_bind, Action.runIn_bind, Files.runIn_holds, Files.runIn_holds, hholds]
  cases Files.refused p (w.tree.holds w.cwd p) with
  | error e => rfl
  | ok found =>
    dsimp only
    split
    · apply Action.fst_runIn_bind_congr (Action.fst_runIn_orFail_congr hdocument _ _)
      intro root
      exact (fixed_readRoot _ _).bind fun _ => Action.fixed_pure _
    · rfl

end Registry

end Downlevel
