import Downlevel.Proofs.FileTree.Lookup
/-!
# Entries at paths

A path leads through directories and links to a place, and what stands there is its entry. The way
to an entry stays the way in every larger tree. So nothing that only takes nodes away, and nothing
that only changes the contents of files, brings an entry to a path that had none.
-/
namespace Downlevel.FileTree

variable {t t' : FileTree} {cwd : Place} {p : Path}

/-! ## The way to a place -/

theorem isAbsolute_pathOf (place : Place) : (pathOf place).isAbsolute = true := rfl

theorem ne_link_of_vacant {q : Place} (h : t.find? q = none) (target : String) :
    t.find? q ≠ some (.link target) := by
  simp [h]

theorem ne_link_of_directory {q : Place} (h : t.find? q = some .directory) (target : String) :
    t.find? q ≠ some (.link target) := by
  simp [h]

theorem ne_link_of_file {q : Place} {id : Nat} {x : Bool} {bytes : List UInt8}
    (h : t.find? q = some (.file id x bytes)) (target : String) :
    t.find? q ≠ some (.link target) := by
  simp [h]

/-- There is no way over a name that cannot be looked up. -/
theorem walk_refused {f : Bool} {links : Nat} {at_ : Place} {n : String} {e : Errno}
    (h : t.refusal? at_ n = some e) (rest : List String) :
    t.walk f links at_ (n :: rest) = .error e := by
  rw [walk, h]

/-- A way that starts with a name is not refused there. -/
theorem refusal?_of_walk {f : Bool} {links : Nat} {at_ b : Place} {n : String} {rest : List String}
    (h : t.walk f links at_ (n :: rest) = .ok b) : t.refusal? at_ n = none := by
  cases hrefusal : t.refusal? at_ n with
  | none => rfl
  | some e =>
    rw [walk_refused hrefusal] at h
    cases h

/-- A single dot stays where it is. -/
theorem walk_dot {f : Bool} {links : Nat} {at_ : Place} (h : t.refusal? at_ "." = none)
    (rest : List String) : t.walk f links at_ ("." :: rest) = t.walk f links at_ rest := by
  rw [walk, h]
  exact if_pos rfl

/-- Two dots go to the directory above. -/
theorem walk_dots {f : Bool} {links : Nat} {at_ : Place} (h : t.refusal? at_ ".." = none)
    (rest : List String) : t.walk f links at_ (".." :: rest) = t.walk f links at_.dropLast rest := by
  rw [walk, h]
  dsimp only
  rw [if_neg (by decide), if_pos rfl]

/-- The way over a name that is no dots goes by the node of that name. -/
theorem walk_cons {f : Bool} {links : Nat} {at_ : Place} {n : String} {rest : List String}
    (hopen : t.refusal? at_ n = none) (hdot : n ≠ ".") (hdots : n ≠ "..") :
    t.walk f links at_ (n :: rest) = match t.find? (at_ ++ [n]) with
      | none => if rest.isEmpty then .ok (at_ ++ [n]) else .error .noEntry
      | some .directory => t.walk f links (at_ ++ [n]) rest
      | some (.file _ _ _) => if rest.isEmpty then .ok (at_ ++ [n]) else .error .notDirectory
      | some (.link target) =>
        if rest.isEmpty && !f then .ok (at_ ++ [n])
        else match links with
          | 0 => .error .tooManyLinks
          | links + 1 =>
            t.walk f links (if target.startsWith "/" then [] else at_) (steps target ++ rest) := by
  rw [walk, hopen]
  dsimp only
  rw [if_neg hdot]
  exact if_neg hdots

/-- A link is followed unless it is the last on the way and links at the end are not. -/
theorem walk_link {f : Bool} {links : Nat} {at_ : Place} {n target : String} {rest : List String}
    (hopen : t.refusal? at_ n = none) (hdot : n ≠ "." ∧ n ≠ "..") (hlink : t.find? (at_ ++ [n]) = some (.link target))
    (hrest : f = true ∨ rest ≠ []) :
    t.walk f (links + 1) at_ (n :: rest)
      = t.walk f links (if target.startsWith "/" then [] else at_) (steps target ++ rest) := by
  rw [walk_cons hopen hdot.1 hdot.2, hlink]
  dsimp only
  rw [if_neg]
  rcases hrest with rfl | hrest
  · simp
  · simp [hrest]

/-- A way that ends at a place ends there in a tree with any node at that place, unless the node is
a link that is to be followed. -/
theorem walk_last {f : Bool} {links : Nat} {at_ : Place} {n : String} {rest : List String}
    (hopen : t.refusal? at_ n = none) (hdot : n ≠ ".") (hdots : n ≠ "..")
    (hlast : rest.isEmpty = true)
    (hb : f = true → ∀ target, t.find? (at_ ++ [n]) ≠ some (.link target)) :
    t.walk f links at_ (n :: rest) = .ok (at_ ++ [n]) := by
  rw [walk_cons hopen hdot hdots]
  cases hnode : t.find? (at_ ++ [n]) with
  | none => exact if_pos hlast
  | some node =>
    cases node with
    | file _ _ _ => exact if_pos hlast
    | directory =>
      rw [List.isEmpty_iff.mp hlast]
      exact walk.eq_1 t f links _
    | link target =>
      cases f with
      | false => exact if_pos (by rw [hlast]; rfl)
      | true => exact absurd hnode (hb rfl target)

/-- A way that can be gone over a name that is no link goes on from the place of that name. -/
theorem walk_of_ne_link {f : Bool} {links : Nat} {at_ b : Place} {n : String} {rest : List String}
    (hdot : n ≠ ".") (hdots : n ≠ "..") (hlink : ∀ target, t.find? (at_ ++ [n]) ≠ some (.link target))
    (h : t.walk f links at_ (n :: rest) = .ok b) : t.walk f links (at_ ++ [n]) rest = .ok b := by
  have hopen := refusal?_of_walk h
  by_cases hrest : rest.isEmpty = true
  · rw [walk_last hopen hdot hdots hrest fun _ => hlink] at h
    rwa [List.isEmpty_iff.mp hrest, walk]
  · -- Only over a directory the way can go on.
    rw [walk_cons hopen hdot hdots] at h
    cases hnode : t.find? (at_ ++ [n]) with
    | none => simp [hnode, hrest] at h
    | some node =>
      cases node with
      | directory => rwa [hnode] at h
      | file id x bytes => simp [hnode, hrest] at h
      | link target => exact absurd hnode (hlink target)

/-- Every directory and every link of a tree stands in another one too, and the same directories are
closed. -/
structure KeepsWays (t t' : FileTree) : Prop where
  closed : t'.closed = t.closed
  directory : ∀ q, t.find? q = some .directory → t'.find? q = some .directory
  link : ∀ q target, t.find? q = some (.link target) → t'.find? q = some (.link target)

theorem KeepsWays.refl (t : FileTree) : t.KeepsWays t :=
  ⟨rfl, fun _ h => h, fun _ _ h => h⟩

/-- A tree that only got more keeps its ways. -/
theorem IsPartOf.keepsWays (h : t.IsPartOf t') : t.KeepsWays t' where
  closed := h.closed
  directory := by
    intro q hq
    obtain ⟨n, hn, ho⟩ := h.node q _ hq
    rw [hn, Node.eq_directory_of_outline ho rfl]
  link := by
    intro q target hq
    obtain ⟨n, hn, ho⟩ := h.node q _ hq
    rw [hn, Node.eq_link_of_outline ho rfl]

/-- A file that is put at a vacant place brings neither a directory nor a link. -/
theorem keepsWays_of_put {q : Place} (h : t.find? q = none) (id : Nat) (x : Bool)
    (bytes : List UInt8) : (t.put q (.file id x bytes)).KeepsWays t := by
  have hroot : q ≠ [] := ne_root_of_find? (by rw [h]; exact nofun)
  have hother : ∀ place n, (t.put q (.file id x bytes)).find? place = some n →
      n ≠ .file id x bytes → t.find? place = some n := by
    intro place n hn hne
    have hplace : place ≠ q := by
      rintro rfl
      rw [find?_put_self hroot] at hn
      exact hne (Option.some.inj hn).symm
    rwa [find?_put_of_ne hplace] at hn
  exact ⟨rfl, fun place hn => hother place _ hn nofun, fun place _ hn => hother place _ hn nofun⟩

/-- A way that is found in a tree is found in every other one that keeps the ways, if it does not end
at a link that is to be followed there. -/
theorem walk_of_keepsWays (h : t.KeepsWays t') {f f' : Bool} (hf : f = true → f' = true)
    {b : Place} (hb : f' = true → ∀ target, t'.find? b ≠ some (.link target)) (links : Nat)
    (at_ : Place) (names : List String) (hw : t.walk f links at_ names = .ok b) :
    t'.walk f' links at_ names = .ok b := by
  -- The cases are those of the walk in the first tree. The nodes on the way stand in the other tree
  -- too; only at the last place another node may stand there, or none.
  have hsame := refusal?_congr h.closed
  induction links, at_, names using walk.induct t f with
  | case1 links at_ => rwa [walk] at hw ⊢
  | case2 links at_ n rest e hrefused =>
    rw [walk_refused hrefused] at hw
    cases hw
  | case3 links at_ rest hopen ih =>
    rw [walk_dot hopen] at hw
    rw [walk_dot (hsame ▸ hopen)]
    exact ih hw
  | case4 links at_ rest hopen hdot ih =>
    rw [walk_dots hopen] at hw
    rw [walk_dots (hsame ▸ hopen)]
    exact ih hw
  | case5 links at_ n rest hopen hdot hdots place hnode hlast =>
    rw [walk_cons hopen hdot hdots, hnode] at hw
    dsimp only at hw
    rw [if_pos hlast] at hw
    cases hw
    exact walk_last (hsame ▸ hopen) hdot hdots hlast hb
  | case6 links at_ n rest hopen hdot hdots place hnode hlast =>
    rw [walk_cons hopen hdot hdots, hnode] at hw
    dsimp only at hw
    rw [if_neg hlast] at hw
    cases hw
  | case7 links at_ n rest hopen hdot hdots place hnode ih =>
    rw [walk_cons hopen hdot hdots, hnode] at hw
    rw [walk_cons (hsame ▸ hopen) hdot hdots, h.directory place hnode]
    exact ih hw
  | case8 links at_ n rest hopen hdot hdots place id x bytes hnode hlast =>
    rw [walk_cons hopen hdot hdots, hnode] at hw
    dsimp only at hw
    rw [if_pos hlast] at hw
    cases hw
    exact walk_last (hsame ▸ hopen) hdot hdots hlast hb
  | case9 links at_ n rest hopen hdot hdots place id x bytes hnode hlast =>
    rw [walk_cons hopen hdot hdots, hnode] at hw
    dsimp only at hw
    rw [if_neg hlast] at hw
    cases hw
  | case10 links at_ n rest hopen hdot hdots place target hnode hstop =>
    rw [walk_cons hopen hdot hdots, hnode] at hw
    dsimp only at hw
    rw [if_pos hstop] at hw
    cases hw
    exact walk_last (hsame ▸ hopen) hdot hdots (Bool.and_eq_true_iff.mp hstop).1 hb
  | case11 at_ n rest hopen hdot hdots place target hnode hstop =>
    rw [walk_cons hopen hdot hdots, hnode] at hw
    dsimp only at hw
    rw [if_neg hstop] at hw
    cases hw
  | case12 at_ n rest hopen hdot hdots place target hnode hstop links ih =>
    have hstop' : ¬ (rest.isEmpty && !f') = true := by
      revert hstop hf
      cases f <;> cases f' <;> simp
    rw [walk_cons hopen hdot hdots, hnode] at hw
    rw [walk_cons (hsame ▸ hopen) hdot hdots, h.link place target hnode]
    dsimp only at hw ⊢
    rw [if_neg hstop] at hw
    rw [if_neg hstop']
    exact ih hw

/-- A path leads to a place if it is not refused as a whole and can be walked to there. -/
theorem locate_eq_ok {f : Bool} {place : Place} : t.locate cwd f p = .ok place ↔
    pathRefusal? p = none ∧
      t.walk f linkLimit (if p.isAbsolute then [] else cwd) p.names = .ok place := by
  unfold locate
  cases pathRefusal? p <;> simp

/-- A path that is not refused as a whole is walked along its names. -/
theorem locate_of_fits (h : pathRefusal? p = none) (f : Bool) :
    t.locate cwd f p = t.walk f linkLimit (if p.isAbsolute then [] else cwd) p.names := by
  rw [locate, h]

/-- A path with a null character leads nowhere. -/
theorem locate_of_hasNull (h : p.hasNull = true) (f : Bool) :
    t.locate cwd f p = .error .noEntry := by
  rw [locate, pathRefusal?, if_pos h]

/-- What a path leads to in a tree it leads to in every other one that keeps the ways, if that is not
a link that is to be followed there. -/
theorem locate_mono (h : t.KeepsWays t') {f f' : Bool} (hf : f = true → f' = true) {place : Place}
    (hlink : f' = true → ∀ target, t'.find? place ≠ some (.link target))
    (hp : t.locate cwd f p = .ok place) : t'.locate cwd f' p = .ok place := by
  obtain ⟨hfits, hw⟩ := locate_eq_ok.mp hp
  exact locate_eq_ok.mpr ⟨hfits, walk_of_keepsWays h hf hlink _ _ _ hw⟩

/-- The way to a node that is no link is the same whether a link at its end is followed or not. -/
theorem locate_follow {f : Bool} {place : Place} (h : t.locate cwd false p = .ok place)
    (hlink : ∀ target, t.find? place ≠ some (.link target)) : t.locate cwd f p = .ok place :=
  locate_mono (KeepsWays.refl t) (f := false) Bool.noConfusion (fun _ => hlink) h

/-- What is found without following a link at the end is found in every tree that keeps the ways. -/
theorem locate_of_keepsWays (h : t.KeepsWays t') {place : Place}
    (hp : t.locate cwd false p = .ok place) : t'.locate cwd false p = .ok place :=
  locate_mono h (f := false) id Bool.noConfusion hp

/-- A path leads to the same place in a tree that only got more. -/
theorem locate_of_isPartOf (h : t.IsPartOf t') {place : Place}
    (hp : t.locate cwd false p = .ok place) : t'.locate cwd false p = .ok place :=
  locate_of_keepsWays h.keepsWays hp

/-- No name on a way from a place is refused. -/
def Open (t : FileTree) (at_ : Place) (names : List String) : Prop :=
  ∀ k (h : k < names.length), t.refusal? (at_ ++ names.take k) names[k] = none

instance (t : FileTree) (at_ : Place) (names : List String) : Decidable (t.Open at_ names) :=
  inferInstanceAs (Decidable (∀ k (h : k < names.length),
    t.refusal? (at_ ++ names.take k) names[k] = none))

theorem open_cons_iff {at_ : Place} {n : String} {names : List String} :
    t.Open at_ (n :: names) ↔ t.refusal? at_ n = none ∧ t.Open (at_ ++ [n]) names := by
  constructor
  · intro h
    refine ⟨by simpa using h 0 (Nat.zero_lt_succ _), fun k hk => ?_⟩
    simpa using h (k + 1) (Nat.succ_lt_succ hk)
  · rintro ⟨hn, h⟩ k hk
    cases k with
    | zero => simpa using hn
    | succ k => simpa using h k (Nat.lt_of_succ_lt_succ hk)

theorem open_append_iff {at_ : Place} {names rest : List String} :
    t.Open at_ (names ++ rest) ↔ t.Open at_ names ∧ t.Open (at_ ++ names) rest := by
  induction names generalizing at_ with
  | nil => simp [Open]
  | cons n names ih =>
    rw [List.cons_append, open_cons_iff, open_cons_iff, ih, List.append_assoc, and_assoc]
    rfl

/-- A way over directories goes on from the last of them. -/
theorem walk_directories {f : Bool} {links : Nat} {at_ : Place} (names : List String)
    (hopen : t.Open at_ names) (hdots : ∀ n ∈ names, n ≠ "." ∧ n ≠ "..")
    (hdirectories : ∀ k < names.length, t.find? (at_ ++ names.take (k + 1)) = some .directory)
    (rest : List String) :
    t.walk f links at_ (names ++ rest) = t.walk f links (at_ ++ names) rest := by
  induction names generalizing at_ with
  | nil => rw [List.nil_append, List.append_nil]
  | cons n names ih =>
    obtain ⟨hdot, hdots'⟩ := hdots n List.mem_cons_self
    obtain ⟨hn, hnames⟩ := open_cons_iff.mp hopen
    have hfirst : t.find? (at_ ++ [n]) = some .directory :=
      hdirectories 0 (Nat.zero_lt_succ _)
    rw [List.cons_append, walk_cons hn hdot hdots', hfirst]
    dsimp only
    rw [ih hnames (fun m hm => hdots m (List.mem_cons_of_mem n hm)), List.append_assoc]
    · rfl
    · intro k hk
      rw [List.append_assoc]
      exact hdirectories (k + 1) (Nat.succ_lt_succ hk)

/-- A path of plain names that goes through directories leads to the place with its names, if nothing
is refused. -/
theorem locate_of_directories {f : Bool} {names : List String}
    (hfits : pathRefusal? ⟨.root, names⟩ = none) (hopen : t.Open [] names)
    (hdots : ∀ n ∈ names, n ≠ "." ∧ n ≠ "..")
    (hdirectories : ∀ k < names.length, t.find? (names.take k) = some .directory)
    (hlink : ∀ target, t.find? names ≠ some (.link target)) :
    t.locate cwd f ⟨.root, names⟩ = .ok names := by
  rw [locate_of_fits hfits]
  show t.walk f linkLimit [] names = .ok names
  -- All names but the last one lead through directories, and the last one is not followed.
  obtain rfl | ⟨before, n, hnames⟩ := List.eq_nil_or_concat names
  · rw [walk]
  · rw [List.concat_eq_append] at hnames
    subst hnames
    have hn := hdots n (List.mem_append_right before List.mem_cons_self)
    have hbefore : ∀ k < before.length, t.find? ([] ++ before.take (k + 1)) = some .directory := by
      intro k hk
      have hproper := hdirectories (k + 1) (by rw [List.length_append]; exact Nat.succ_lt_succ hk)
      rwa [List.take_append_of_le_length hk] at hproper
    obtain ⟨hopenBefore, hopenLast⟩ := open_append_iff.mp hopen
    rw [walk_directories _ hopenBefore (fun m hm => hdots m (List.mem_append_left _ hm)) hbefore]
    exact walk_last (open_cons_iff.mp hopenLast).1 hn.1 hn.2 rfl fun _ => hlink

/-- A name in the root directory leads to what stands there. -/
theorem locate_in_root {f : Bool} {n : String} (hfits : pathRefusal? ⟨.root, [n]⟩ = none)
    (hopen : t.refusal? [] n = none) (hn : n ≠ "." ∧ n ≠ "..")
    (hlink : ∀ target, t.find? [n] ≠ some (.link target)) :
    t.locate cwd f ⟨.root, [n]⟩ = .ok [n] := by
  apply locate_of_directories hfits (open_cons_iff.mpr ⟨hopen, nofun⟩)
  · simpa using hn
  · intro k hk
    rw [Nat.lt_one_iff.mp hk]
    rfl
  · exact hlink

/-- A path that goes on from a vacant name leads nowhere. -/
theorem locate_of_missing {f : Bool} (names : List String) {n : String} {rest : List String}
    (hfits : pathRefusal? ⟨.root, names ++ n :: rest⟩ = none) (hopen : t.Open [] (names ++ [n]))
    (hdots : ∀ m ∈ names ++ [n], m ≠ "." ∧ m ≠ "..")
    (hdirectories : ∀ k < names.length, t.find? (names.take (k + 1)) = some .directory)
    (hvacant : t.find? (names ++ [n]) = none) (hrest : rest ≠ []) :
    t.locate cwd f ⟨.root, names ++ n :: rest⟩ = .error .noEntry := by
  have hn := hdots n (List.mem_append_right names List.mem_cons_self)
  obtain ⟨hopenBefore, hopenLast⟩ := open_append_iff.mp hopen
  rw [locate_of_fits hfits]
  show t.walk f linkLimit [] (names ++ n :: rest) = .error .noEntry
  rw [walk_directories _ hopenBefore (fun m hm => hdots m (List.mem_append_left _ hm)) hdirectories,
    walk_cons (open_cons_iff.mp hopenLast).1 hn.1 hn.2]
  rw [List.nil_append, hvacant]
  exact if_neg (by rw [List.isEmpty_iff]; exact hrest)

/-- A path that leads nowhere has no status, for the same reason. -/
theorem status_of_locate_error {e : Errno} (h : t.locate cwd true p = .error e) :
    t.status cwd p = .error e := by
  rw [status, h]

/-- A look at a path that leads to nothing finds no file. -/
theorem isFile_of_noEntry (h : t.status cwd p = .error .noEntry) : t.isFile cwd p = .ok false := by
  rw [isFile, look, h]
  rfl

/-- A look finds files at paths without null characters alone. -/
theorem hasNull_of_isFile (h : t.isFile cwd p = .ok true) : p.hasNull = false := by
  cases hnull : p.hasNull with
  | false => rfl
  | true =>
    rw [isFile_of_noEntry (status_of_locate_error (locate_of_hasNull hnull true))] at h
    cases h

/-! ## Entries -/

/-- The node at the end of a path, which may be a link. -/
def nodeAt (t : FileTree) (cwd : Place) (p : Path) : Option Node :=
  match t.locate cwd false p with
  | .ok place => t.find? place
  | .error _ => none

theorem nodeAt_of_locate {place : Place} (h : t.locate cwd false p = .ok place) :
    t.nodeAt cwd p = t.find? place := by
  rw [nodeAt, h]

/-- What stands at a path stands at a place. -/
theorem exists_place_of_nodeAt {n : Node} (h : t.nodeAt cwd p = some n) :
    ∃ place, t.locate cwd false p = .ok place ∧ t.find? place = some n := by
  unfold nodeAt at h
  split at h
  · rename_i place hplace
    exact ⟨place, hplace, h⟩
  · cases h

/-- An entry of a tree is an entry of every larger tree, at the same place. -/
theorem exists_nodeAt_of_isPartOf (h : t.IsPartOf t') {n : Node} (hn : t.nodeAt cwd p = some n) :
    ∃ place n', t.locate cwd false p = .ok place ∧ t'.locate cwd false p = .ok place ∧
      t.find? place = some n ∧ t'.find? place = some n' ∧ n'.outline = n.outline := by
  obtain ⟨place, hplace, hnode⟩ := exists_place_of_nodeAt hn
  obtain ⟨n', hnode', ho⟩ := h.node place n hnode
  exact ⟨place, n', hplace, locate_of_isPartOf h hplace, hnode, hnode', ho⟩

/-- A smaller tree has no entry where a larger one has none. -/
theorem nodeAt_eq_none_of_isPartOf (h : t.IsPartOf t') (hn : t'.nodeAt cwd p = none) :
    t.nodeAt cwd p = none := by
  cases hentry : t.nodeAt cwd p with
  | none => rfl
  | some n =>
    obtain ⟨place, n', -, hplace', -, hnode', -⟩ := exists_nodeAt_of_isPartOf h hentry
    rw [nodeAt_of_locate hplace', hnode'] at hn
    cases hn

/-! ## Removal -/

/-- What was removed was at a place, and only that place is changed. -/
theorem remove_eq_ok (h : t.remove cwd p = .ok t') :
    ∃ place, t.locate cwd false p = .ok place ∧ place ≠ [] ∧ t' = t.take place := by
  unfold remove at h
  split at h
  · cases h
  · rename_i place hplace
    split at h
    · cases h
    · cases h
    · rename_i n hdir hnode
      cases h
      refine ⟨place, hplace, ?_, rfl⟩
      rintro rfl
      rw [find?_root] at hnode
      cases hnode
      exact hdir rfl

/-- After its removal a path has no entry. -/
theorem nodeAt_remove (h : t.remove cwd p = .ok t') : t'.nodeAt cwd p = none := by
  obtain ⟨place, hplace, hroot, rfl⟩ := remove_eq_ok h
  cases hentry : (t.take place).nodeAt cwd p with
  | none => rfl
  | some n =>
    obtain ⟨place', n', -, hplace', hnode, -⟩ :=
      exists_nodeAt_of_isPartOf (take_isPartOf t place) hentry
    rw [hplace] at hplace'
    cases hplace'
    rw [find?_take_self hroot] at hnode
    cases hnode

/-- Removing leaves a part of what was there. -/
theorem remove_isPartOf (h : t.remove cwd p = .ok t') : t'.IsPartOf t := by
  obtain ⟨place, -, -, rfl⟩ := remove_eq_ok h
  exact take_isPartOf t place

/-- A path that cannot be removed because nothing is there has no entry. -/
theorem nodeAt_of_remove_noEntry (h : t.remove cwd p = .error .noEntry) :
    t.nodeAt cwd p = none := by
  unfold remove at h
  unfold nodeAt
  split at h
  · rename_i hlocate
    rw [hlocate]
  · rename_i place hplace
    rw [hplace]
    split at h
    · assumption
    · cases h
    · cases h

/-! ## New files -/

/-- What was made is an empty file at a place that was vacant. -/
theorem create_eq_ok {id : Nat} (h : t.create cwd id p = .ok t') :
    ∃ place, t.locate cwd false p = .ok place ∧ t.find? place = none ∧
      t' = t.put place (.file id false []) := by
  unfold create at h
  split at h
  · cases h
  · rename_i place hplace
    split at h
    · rename_i hnone
      cases h
      exact ⟨place, hplace, hnone, rfl⟩
    · cases h

theorem create_of_vacant {place : Place} (h : t.locate cwd false p = .ok place)
    (hvacant : t.find? place = none) (id : Nat) :
    t.create cwd id p = .ok (t.put place (.file id false [])) := by
  rw [create, h]
  dsimp only
  rw [hvacant]

theorem create_of_taken {place : Place} (h : t.locate cwd false p = .ok place)
    (htaken : t.find? place ≠ none) (id : Nat) : t.create cwd id p = .error .exists := by
  obtain ⟨node, hnode⟩ := Option.ne_none_iff_exists'.mp htaken
  rw [create, h]
  dsimp only
  rw [hnode]

theorem create_of_refused {e : Errno} (h : t.locate cwd false p = .error e) (id : Nat) :
    t.create cwd id p = .error e := by
  rw [create, h]

/-- A new file is made where there was no entry, and is the entry then. -/
theorem nodeAt_create {id : Nat} (h : t.create cwd id p = .ok t') :
    t.nodeAt cwd p = none ∧ ∃ place, t'.locate cwd false p = .ok place ∧
      t'.find? place = some (.file id false []) := by
  obtain ⟨place, hplace, hnone, rfl⟩ := create_eq_ok h
  have hroot : place ≠ [] := ne_root_of_find? (by rw [hnone]; exact nofun)
  refine ⟨by rw [nodeAt_of_locate hplace, hnone], place, ?_, find?_put_self hroot⟩
  exact locate_of_isPartOf (isPartOf_put hnone _) hplace

/-- The path of a new file leads to the one place that is not vacant any more. -/
theorem locate_of_create {q : Path} {id : Nat} (h : t.create cwd id p = .ok t')
    (hbefore : t.nodeAt cwd q = none) (hafter : t'.nodeAt cwd q ≠ none) :
    ∃ place, t'.locate cwd false q = .ok place ∧ t'.locate cwd false p = .ok place := by
  obtain ⟨place, hplace, hnone, rfl⟩ := create_eq_ok h
  obtain ⟨n, hn⟩ := Option.ne_none_iff_exists'.mp hafter
  obtain ⟨other, hother, hnode⟩ := exists_place_of_nodeAt hn
  -- The path led to that place before, where nothing stood.
  rw [nodeAt_of_locate (locate_of_keepsWays (keepsWays_of_put hnone id false []) hother)] at hbefore
  have heq : other = place := by
    by_cases heq : other = place
    · exact heq
    · rw [find?_put_of_ne heq, hbefore] at hnode
      cases hnode
  subst heq
  exact ⟨other, hother, locate_of_isPartOf (isPartOf_put hnone _) hplace⟩

/-- Nothing is left of a node that is put at a vacant place and taken away. -/
theorem take_put {place : Place} (h : t.find? place = none) (n : Node) :
    (t.put place n).take place = t := by
  have hroot : place ≠ [] := ne_root_of_find? (by rw [h]; exact nofun)
  have hkept : t.nodes.filter (fun e => e.1 ≠ place) = t.nodes := by
    rw [List.filter_eq_self]
    intro e he
    rw [find?, if_neg hroot, List.lookup_eq_none_iff] at h
    exact decide_eq_true (bne_iff_ne.mp (h e he)).symm
  rw [put, take]
  dsimp only
  rw [List.filter_cons_of_neg (by simp), hkept, hkept]

/-- A new file can be removed again, and the tree is as it was. -/
theorem remove_create {id : Nat} (h : t.create cwd id p = .ok t') : t'.remove cwd p = .ok t := by
  obtain ⟨place, hplace, hnone, rfl⟩ := create_eq_ok h
  have hroot : place ≠ [] := ne_root_of_find? (by rw [hnone]; exact nofun)
  rw [remove, locate_of_isPartOf (isPartOf_put hnone _) hplace]
  dsimp only
  rw [find?_put_self hroot]
  exact congrArg Except.ok (take_put hnone _)

/-! ## Contents -/

/-- The bytes of a file that stands at the end of a path. -/
theorem read_of_locate {place : Place} {id : Nat} {x : Bool} {bytes : List UInt8}
    (h : t.locate cwd false p = .ok place) (hfile : t.find? place = some (.file id x bytes)) :
    t.read cwd p = .ok bytes := by
  have hfollow : t.locate cwd true p = .ok place := by
    apply locate_follow h
    intro target hlink
    rw [hfile] at hlink
    cases hlink
  rw [read, status, hfollow]
  simp only [hfile]

/-- Writing a file that is there replaces its bytes, and changes nothing but contents. -/
theorem write_of_locate {place : Place} {id : Nat} {x : Bool} {bytes : List UInt8}
    (h : t.locate cwd false p = .ok place) (hfile : t.find? place = some (.file id x bytes))
    (fresh : Nat) (more : List UInt8) :
    ∃ t', t.write cwd fresh p more = .ok t' ∧ t.IsPartOf t' ∧ t'.IsPartOf t ∧
      t'.find? place = some (.file id x more) := by
  have hroot : place ≠ [] := ne_root_of_find? (by rw [hfile]; exact nofun)
  have hfollow : t.locate cwd true p = .ok place := by
    apply locate_follow h
    intro target hlink
    rw [hfile] at hlink
    cases hlink
  have hput : (t.put place (.file id x [])).find? place = some (.file id x []) :=
    find?_put_self hroot
  refine ⟨(t.put place (.file id x [])).append id more, ?_, ?_, ?_, ?_⟩
  · rw [write, openForWriting, hfollow]
    simp only [hfile, if_true]
  · have hpart : t.IsPartOf (t.put place (.file id x [])) :=
      isPartOf_put_outline hfile rfl hroot
    exact hpart.trans (isPartOf_append _ id more)
  · -- Only the file itself is put anew, and it keeps its identity.
    refine (append_isPartOf _ id more).trans ⟨rfl, fun q n hn => ?_⟩
    by_cases hq : q = place
    · subst hq
      rw [hput] at hn
      cases hn
      exact ⟨_, hfile, rfl⟩
    · rw [find?_put_of_ne hq] at hn
      exact ⟨n, hn, rfl⟩
  · exact find?_append_self hput more

end Downlevel.FileTree
