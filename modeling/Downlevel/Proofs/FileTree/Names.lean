import Mathlib.Data.List.Nodup
import Downlevel.Proofs.FileTree.Changes
/-!
# Names in a directory

A path to a directory goes on to every name in it, and a path to anything else goes on to none. A tree
has finitely many nodes, so among sufficiently many names in a directory one is vacant. A file that is
put there is the one new thing in the tree, and the tree is the old one when it is taken away.
-/
namespace Downlevel.FileTree

variable {t t' : FileTree} {cwd at_ place : Place} {p : Path} {n : String}

/-! ## Going on from a directory -/

/-- All on the way from the root to a place are directories, and so is the place. -/
def Reached (t : FileTree) (place : Place) : Prop :=
  ∀ q, q <+: place → t.find? q = some .directory

theorem Reached.find? (h : t.Reached place) : t.find? place = some .directory :=
  h place List.prefix_rfl

theorem reached_root (t : FileTree) : t.Reached [] := by
  intro q hq
  rw [List.prefix_nil.mp hq, find?_root]

theorem Reached.dropLast (h : t.Reached place) : t.Reached place.dropLast :=
  fun q hq => h q (hq.trans (List.dropLast_prefix place))

theorem Reached.concat (h : t.Reached place) (hn : t.find? (place ++ [n]) = some .directory) :
    t.Reached (place ++ [n]) := by
  intro q hq
  rcases List.prefix_concat_iff.mp hq with rfl | hq
  · exact hn
  · exact h q hq

/-- A way to a directory goes on to each name in it that is not refused there. Any other way goes on to
none. -/
theorem walk_concat (hdot : n ≠ ".") (hdots : n ≠ "..") (links : Nat) (names : List String)
    (hat : t.Reached at_) :
    (∃ place, t.walk true links at_ names = .ok place ∧ t.Reached place ∧
      t.walk false links at_ (names ++ [n]) = match t.refusal? place n with
        | some e => .error e
        | none => .ok (place ++ [n])) ∨
    (∃ e, t.walk false links at_ (names ++ [n]) = .error e ∧
      ∀ place, t.walk true links at_ names = .ok place → t.find? place ≠ some .directory) := by
  -- The cases are those of the way to the directory. A way that is at its end has come through
  -- directories, so it stands in one, or it ends at the node that stops it.
  induction links, at_, names using walk.induct t true with
  | case1 links at_ =>
    refine Or.inl ⟨at_, by rw [walk], hat, ?_⟩
    cases hopen : t.refusal? at_ n with
    | none => exact walk_last hopen hdot hdots rfl Bool.noConfusion
    | some e => exact walk_refused hopen []
  | case2 links at_ m rest e hrefused =>
    refine Or.inr ⟨e, walk_refused hrefused _, fun place hw => ?_⟩
    rw [walk_refused hrefused] at hw
    cases hw
  | case3 links at_ rest hopen ih =>
    rw [List.cons_append, walk_dot hopen, walk_dot hopen]
    exact ih hat
  | case4 links at_ rest hopen hne ih =>
    rw [List.cons_append, walk_dots hopen, walk_dots hopen]
    exact ih hat.dropLast
  | case5 links at_ m rest hopen hm hms place hnode hlast
  | case6 links at_ m rest hopen hm hms place hnode hlast =>
    refine Or.inr ⟨.noEntry, ?_, ?_⟩
    · rw [List.cons_append, walk_cons hopen hm hms, hnode]
      exact if_neg (by simp)
    · intro last hw
      rw [walk_cons hopen hm hms, hnode] at hw
      cases rest with
      | nil =>
        cases hw
        intro hdirectory
        cases hnode.symm.trans hdirectory
      | cons next rest => cases hw
  | case7 links at_ m rest hopen hm hms place hnode ih =>
    rw [List.cons_append, walk_cons hopen hm hms, walk_cons hopen hm hms, hnode]
    exact ih (hat.concat hnode)
  | case8 links at_ m rest hopen hm hms place id x bytes hnode hlast
  | case9 links at_ m rest hopen hm hms place id x bytes hnode hlast =>
    refine Or.inr ⟨.notDirectory, ?_, ?_⟩
    · rw [List.cons_append, walk_cons hopen hm hms, hnode]
      exact if_neg (by simp)
    · intro last hw
      rw [walk_cons hopen hm hms, hnode] at hw
      cases rest with
      | nil =>
        cases hw
        intro hdirectory
        cases hnode.symm.trans hdirectory
      | cons next rest => cases hw
  | case10 links at_ m rest hopen hm hms place target hnode hstop => simp at hstop
  | case11 at_ m rest hopen hm hms place target hnode hstop =>
    refine Or.inr ⟨.tooManyLinks, ?_, ?_⟩
    · rw [List.cons_append, walk_cons hopen hm hms, hnode]
      exact if_neg (by simp)
    · intro last hw
      rw [walk_cons hopen hm hms, hnode] at hw
      dsimp only at hw
      rw [if_neg hstop] at hw
      cases hw
  | case12 at_ m rest hopen hm hms place target hnode hstop links ih =>
    have hon : t.walk false (links + 1) at_ (m :: rest ++ [n])
        = t.walk false links (if target.startsWith "/" then [] else at_)
          (steps target ++ rest ++ [n]) := by
      rw [List.cons_append, walk_cons hopen hm hms, hnode]
      dsimp only
      rw [if_neg (by simp), List.append_assoc]
    have hdirectory : t.walk true (links + 1) at_ (m :: rest)
        = t.walk true links (if target.startsWith "/" then [] else at_) (steps target ++ rest) := by
      rw [walk_cons hopen hm hms, hnode]
      dsimp only
      rw [if_neg hstop]
    rw [hon, hdirectory]
    apply ih
    split
    · exact reached_root t
    · exact hat

/-- A look finds a directory where one stands. -/
theorem isDirectory_iff : t.isDirectory cwd p = .ok true ↔
    ∃ place, t.locate cwd true p = .ok place ∧ t.find? place = some .directory := by
  unfold isDirectory look status
  cases hplace : t.locate cwd true p with
  | error e => cases habsent : e.isAbsence <;> simp [habsent, Except.map]
  | ok place =>
    cases hnode : t.find? place with
    | none => simp [hnode, Except.map, Errno.isAbsence, Errno.number, absenceNumbers]
    | some node => cases node <;> simp [hnode, Except.map]

/-- An absolute path goes on to a name exactly if it leads to a directory in which the name can be looked
up, and then to the name in that directory. -/
theorem locate_concat_eq_ok {q : Place} (hp : p.isAbsolute = true) (hdot : n ≠ ".") (hdots : n ≠ "..") :
    t.locate cwd false ⟨p.anchor, p.names ++ [n]⟩ = .ok q ↔
      pathRefusal? ⟨p.anchor, p.names ++ [n]⟩ = none ∧
        ∃ place, t.walk true linkLimit [] p.names = .ok place ∧
          t.find? place = some .directory ∧ t.refusal? place n = none ∧ q = place ++ [n] := by
  have hp' : (Path.mk p.anchor (p.names ++ [n])).isAbsolute = true := hp
  rw [locate_eq_ok, if_pos hp']
  refine and_congr_right fun _ => ?_
  -- The way to the directory comes to a place or fails, and the name is one step further.
  rcases walk_concat hdot hdots linkLimit p.names (reached_root t) with
    ⟨place, hplace, hreached, hon⟩ | ⟨e, hon, hnone⟩
  · rw [hon]
    constructor
    · intro hq
      cases hopen : t.refusal? place n with
      | some e =>
        rw [hopen] at hq
        cases hq
      | none =>
        rw [hopen] at hq
        cases hq
        exact ⟨place, hplace, hreached.find?, hopen, rfl⟩
    · rintro ⟨place', hplace', -, hopen, rfl⟩
      rw [hplace] at hplace'
      cases hplace'
      rw [hopen]
  · rw [hon]
    refine ⟨nofun, ?_⟩
    rintro ⟨place, hplace, hdirectory, -⟩
    exact absurd hdirectory (hnone place hplace)

/-! ## Taken places -/

/-- A name that is taken in a directory that is not closed is that of a node. -/
theorem find?_of_create_exists {id : Nat} (hp : p.isAbsolute = true) (hdot : n ≠ ".")
    (hdots : n ≠ "..") (hplace : t.walk true linkLimit [] p.names = .ok place)
    (hdirectory : t.find? place = some .directory) (hopen : t.closed.lookup place = none)
    (h : t.create cwd id ⟨p.anchor, p.names ++ [n]⟩ = .error .exists) :
    t.find? (place ++ [n]) ≠ none := by
  have hp' : (Path.mk p.anchor (p.names ++ [n])).isAbsolute = true := hp
  cases hlocate : t.locate cwd false ⟨p.anchor, p.names ++ [n]⟩ with
  | ok q =>
    obtain ⟨-, place', hplace', -, -, rfl⟩ := (locate_concat_eq_ok hp hdot hdots).mp hlocate
    rw [hplace] at hplace'
    cases hplace'
    intro hvacant
    rw [create_of_vacant hlocate hvacant] at h
    cases h
  | error e =>
    -- Neither a path nor a name is refused for being taken.
    rw [create_of_refused hlocate] at h
    cases h
    unfold locate at hlocate
    split at hlocate
    · rename_i e hrefused
      cases hlocate
      unfold pathRefusal? at hrefused
      split at hrefused
      · cases hrefused
      · split at hrefused <;> cases hrefused
    · rw [if_pos hp'] at hlocate
      rcases walk_concat hdot hdots linkLimit p.names (reached_root t) with
        ⟨place', hplace', -, hon⟩ | ⟨e, -, hnone⟩
      · rw [hplace] at hplace'
        cases hplace'
        rw [hon, refusal?, hopen, Option.none_or] at hlocate
        split at hlocate
        · rename_i e hrefused
          split at hrefused <;> cases hrefused
          cases hlocate
        · cases hlocate
      · exact absurd hdirectory (hnone place hplace)

/-- A tree takes no more places than it has nodes. -/
theorem le_length_of_taken {places : Nat → Place} (hne : ∀ k, places k ≠ [])
    (hinj : Function.Injective places) {m : Nat} (h : ∀ k < m, t.find? (places k) ≠ none) :
    m ≤ t.nodes.length := by
  have hlisted : (List.range m).map places ⊆ t.nodes.map Prod.fst := by
    intro q hq
    obtain ⟨k, hk, rfl⟩ := List.mem_map.mp hq
    obtain ⟨node, hnode⟩ := Option.ne_none_iff_exists'.mp (h k (List.mem_range.mp hk))
    exact List.mem_map_of_mem (mem_nodes_of_find? (hne k) hnode)
  have hnodup : ((List.range m).map places).Nodup := List.nodup_range.map hinj
  have hlength := hnodup.length_le_of_subset hlisted
  rwa [List.length_map, List.length_map, List.length_range] at hlength

/-! ## One more file -/

/-- A tree with one more file than another, at a place where nothing stood. -/
structure AddsFile (t t' : FileTree) (place : Place) (bytes : List UInt8) : Prop where
  vacant : t.find? place = none
  file : ∃ id x, t'.find? place = some (.file id x bytes)
  others : ∀ q, q ≠ place → t'.find? q = t.find? q

/-- A new file that is written at once is the one new thing. -/
theorem addsFile_of_create_write {id fresh : Nat} {t'' : FileTree} {bytes : List UInt8}
    (hid : ∀ q i x b, t.find? q = some (.file i x b) → i ≠ id)
    (hcreate : t.create cwd id p = .ok t') (hwrite : t'.write cwd fresh p bytes = .ok t'') :
    ∃ place, t.locate cwd false p = .ok place ∧ t.AddsFile t'' place bytes := by
  obtain ⟨place, hplace, hvacant, rfl⟩ := create_eq_ok hcreate
  have hroot : place ≠ [] := ne_root_of_find? (by rw [hvacant]; exact nofun)
  have hfile : (t.put place (.file id false [])).find? place = some (.file id false []) :=
    find?_put_self hroot
  have hplace' : (t.put place (.file id false [])).locate cwd true p = .ok place := by
    refine locate_follow (locate_of_isPartOf (isPartOf_put hvacant _) hplace) fun target hlink => ?_
    rw [hfile] at hlink
    cases hlink
  -- The path leads to the new file, so it is written there and keeps its identity.
  obtain ⟨place', id', x, hlocate, hbefore, rfl⟩ := write_eq_ok hwrite
  rw [hplace'] at hlocate
  cases hlocate
  rw [hfile] at hbefore
  obtain ⟨hnone, -⟩ | ⟨old, hold⟩ := hbefore
  · cases hnone
  cases hold
  refine ⟨place, hplace, hvacant, ⟨id, false, find?_append_self (find?_put_self hroot) bytes⟩, ?_⟩
  intro q hq
  rw [find?_append, find?_put_of_ne hq, find?_put_of_ne hq]
  cases hnode : t.find? q with
  | none => rfl
  | some node =>
    cases node with
    | file i y b => exact congrArg some (if_neg (hid q i y b hnode))
    | directory => rfl
    | link target => rfl

/-- Bytes for a file that is not in a tree leave the tree as it is. -/
theorem append_of_not_mem {id : Nat}
    (h : ∀ q i x b, (q, Node.file i x b) ∈ t.nodes → i ≠ id) (more : List UInt8) :
    t.append id more = t := by
  have hnodes : (t.append id more).nodes = t.nodes := by
    refine (List.map_congr_left ?_).trans (List.map_id _)
    rintro ⟨q, n⟩ he
    cases n with
    | file i x b => exact if_neg (h q i x b he)
    | directory => rfl
    | link target => rfl
  calc t.append id more = { t with nodes := (t.append id more).nodes } := rfl
    _ = t := by rw [hnodes]

/-- It does not matter whether a place is taken away before or after a file grows. -/
theorem take_append (t : FileTree) (id : Nat) (more : List UInt8) (place : Place) :
    (t.append id more).take place = (t.take place).append id more := by
  unfold append take
  dsimp only
  rw [List.filter_map]
  congr 2
  apply List.filter_congr
  rintro ⟨q, n⟩ -
  cases n with
  | file i x b =>
    by_cases hid : i = id
    · simp [hid]
    · simp [hid]
  | directory => rfl
  | link target => rfl

/-- Putting twice and taking away is as putting once and taking away. -/
theorem take_put_put (t : FileTree) (place : Place) (n n' : Node) :
    ((t.put place n).put place n').take place = (t.put place n).take place := by
  simp [put, take]

/-- A new file can be removed again once something was written there, and the tree is as it was. -/
theorem remove_of_create_write {id fresh : Nat} {t'' : FileTree} {bytes : List UInt8}
    (hid : ∀ q i x b, (q, Node.file i x b) ∈ t.nodes → i ≠ id)
    (hcreate : t.create cwd id p = .ok t') (hwrite : t'.write cwd fresh p bytes = .ok t'') :
    t''.remove cwd p = .ok t := by
  obtain ⟨place, hplace, hvacant, rfl⟩ := create_eq_ok hcreate
  have hroot : place ≠ [] := ne_root_of_find? (by rw [hvacant]; exact nofun)
  have hfile : (t.put place (.file id false [])).find? place = some (.file id false []) :=
    find?_put_self hroot
  have hplace' := locate_of_isPartOf (isPartOf_put hvacant (.file id false [])) hplace
  obtain ⟨written, hwrite', hpart, -, hwritten⟩ := write_of_locate hplace' hfile fresh bytes
  obtain ⟨place', id', x, hfollow, hbefore, rfl⟩ := write_eq_ok hwrite
  rw [locate_follow hplace' (by rw [hfile]; exact nofun)] at hfollow
  cases hfollow
  rw [hfile] at hbefore
  obtain ⟨hnone, -⟩ | ⟨old, hold⟩ := hbefore
  · cases hnone
  cases hold
  -- Both describe the same write, and what it wrote is taken away again.
  cases hwrite.symm.trans hwrite'
  rw [remove, locate_of_isPartOf hpart hplace']
  dsimp only
  rw [hwritten]
  dsimp only
  rw [take_append, take_put_put, take_put hvacant, append_of_not_mem hid]

end Downlevel.FileTree
