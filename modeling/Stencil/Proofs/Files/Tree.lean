import Mathlib.Data.List.Infix
import Stencil.Files.Tree

/-! # Changes to a tree

Making folders adds folders where nothing was, and writing a file changes the place that its path
leads to. The path leads there afterwards, too, because walks do not depend on what files hold.

Main statements: `createFolders_keeps`, `writes_of_write`.
-/

namespace Stencil

namespace FileTree

section Nodes

variable {tree : FileTree} {place other : Place} {node : Node}

private theorem lookup_cons_eq (there other : Place) (node : Node) (rest : List (Place × Node)) :
    ((there, node) :: rest).lookup other =
      if other = there then some node else rest.lookup other := by
  rw [List.lookup_cons]
  by_cases same : other = there
  · simp [same]
  · simp [same, beq_eq_false_iff_ne.mpr same]

private theorem lookup_map_replace (nodes : List (Place × Node)) (place other : Place)
    (node : Node) :
    (nodes.map fun (there, kept) => if there = place then (place, node) else (there, kept)).lookup
        other =
      if other = place then (nodes.lookup place).map fun _ => node else nodes.lookup other := by
  induction nodes with
  | nil => simp
  | cons first rest ih =>
      obtain ⟨there, kept⟩ := first
      rw [List.map_cons, lookup_cons_eq, lookup_cons_eq]
      by_cases isPlace : there = place
      · subst isPlace
        simp only [reduceIte, lookup_cons_eq, ih]
        split <;> simp [*]
      · simp only [isPlace, Ne.symm isPlace, reduceIte, lookup_cons_eq, ih]
        by_cases same : other = there
        · simp [same, isPlace]
        · simp [same]

theorem node?_of_ne_nil (below : place ≠ []) : tree.node? place = tree.nodes.lookup place := by
  rw [node?, if_neg (by simpa using below)]

/-- What is put at a place is there, and all else is as it was. -/
theorem node?_put (below : place ≠ []) :
    (tree.put place node).node? other = if other = place then some node else tree.node? other := by
  by_cases root : other = []
  · rw [if_neg (root ▸ below.symm), root]
    rfl
  · rw [node?_of_ne_nil root, node?_of_ne_nil root, put, if_neg (by simpa using below)]
    cases found : tree.nodes.lookup place with
    | some old =>
        simp only [Option.isSome_some, reduceIte, lookup_map_replace, found, Option.map_some]
    | none =>
        simp only [Option.isSome_none, Bool.false_eq_true, reduceIte, List.lookup_append,
          lookup_cons_eq, List.lookup_nil]
        by_cases same : other = place
        · simp [same, found]
        · simp [same]

@[simp] theorem current_put : (tree.put place node).current = tree.current := by
  unfold put
  split
  · rfl
  · split <;> rfl

theorem isFolder_iff : tree.isFolder place = true ↔ tree.node? place = some .folder :=
  decide_eq_true_iff

@[simp] theorem current_putFolder : (tree.putFolder place).current = tree.current := by
  unfold putFolder
  split
  · rfl
  · exact current_put

theorem node?_putFolder : (tree.putFolder place).node? other =
    if other = place then some .folder else tree.node? other := by
  unfold putFolder
  split
  · next isFolder =>
    split
    · next same => rw [same, isFolder_iff.mp isFolder]
    · rfl
  · next missing =>
    refine node?_put fun root => missing ?_
    rw [root]
    rfl

end Nodes

/-- No file was made or changed between two trees, but below a place: at every other place there is
    what was there, or a new folder. -/
structure KeepsFiles (work : Place) (before after : FileTree) : Prop where
  current : after.current = before.current
  node? : ∀ place, ¬ work <+: place → after.node? place = before.node? place ∨
    (before.node? place = none ∧ after.node? place = some .folder)

namespace KeepsFiles

variable {work : Place} {before middle after : FileTree}

theorem refl (work : Place) (tree : FileTree) : KeepsFiles work tree tree where
  current := rfl
  node? _ _ := .inl rfl

theorem trans (first : KeepsFiles work before middle) (second : KeepsFiles work middle after) :
    KeepsFiles work before after where
  current := second.current.trans first.current
  node? place outside := by
    rcases first.node? place outside with same | ⟨absent, isFolder⟩
    · rcases second.node? place outside with same' | ⟨absent', isFolder'⟩
      · exact .inl (same'.trans same)
      · exact .inr ⟨same.symm.trans absent', isFolder'⟩
    · rcases second.node? place outside with same' | ⟨absent', -⟩
      · exact .inr ⟨absent, same'.trans isFolder⟩
      · rw [isFolder] at absent'
        cases absent'

theorem putFolder (work : Place) {tree : FileTree} {place : Place}
    (free : tree.node? place = none ∨ tree.node? place = some .folder) :
    KeepsFiles work tree (tree.putFolder place) where
  current := current_putFolder
  node? other _ := by
    rw [node?_putFolder]
    split
    · next same =>
      rcases free with absent | isFolder
      · exact .inr ⟨same ▸ absent, rfl⟩
      · exact .inl (same ▸ isFolder).symm
    · exact .inl rfl

end KeepsFiles

/-- A tree that paths can be walked in: the current folder is a folder, and so is every place above
    a folder. -/
structure Sound (tree : FileTree) : Prop where
  current : tree.isFolder tree.current = true
  above : ∀ place, tree.isFolder place = true → tree.isFolder place.dropLast = true

theorem Sound.of_nodes {tree : FileTree} (current : tree.isFolder tree.current = true)
    (above : ∀ entry ∈ tree.nodes, entry.2 = .folder → tree.isFolder entry.1.dropLast = true) :
    tree.Sound where
  current := current
  above place isFolder := by
    by_cases root : place = []
    · rw [root]
      rfl
    · rw [isFolder_iff, node?_of_ne_nil root] at isFolder
      obtain ⟨before, rest, nodes, -⟩ := List.lookup_eq_some_iff.mp isFolder
      exact above (place, .folder) (nodes ▸ by simp) rfl

/-- A place in a folder at which there is neither a folder nor a link. -/
structure IsLeaf (tree : FileTree) (place : Place) : Prop where
  within : tree.isFolder place.dropLast = true
  below : place ≠ []
  no_folder : tree.isFolder place = false
  no_link : ∀ target, tree.node? place ≠ some (.link target)

/-- Whether the name leads from a folder to a place in it. -/
structure IsEntry (name : String) : Prop where
  not_here : name ≠ "."
  not_back : name ≠ ".."
  short : name.utf8ByteSize ≤ longestName

/-- A walk along names that follows links, from a folder up to the first link. -/
inductive Walks (tree : FileTree) : (folder : Place) → List String → Stop → Prop where
  | done (folder : Place) : Walks tree folder [] (.arrived folder)
  | here {folder rest stop} (later : Walks tree folder rest stop) :
      Walks tree folder ("." :: rest) stop
  | back {folder rest stop} (later : Walks tree folder.dropLast rest stop) :
      Walks tree folder (".." :: rest) stop
  | enter {folder name rest stop} (entry : IsEntry name)
      (isFolder : tree.node? (folder ++ [name]) = some .folder)
      (later : Walks tree (folder ++ [name]) rest stop) : Walks tree folder (name :: rest) stop
  | link {folder name target} (rest : List String) (entry : IsEntry name)
      (isLink : tree.node? (folder ++ [name]) = some (.link target)) :
      Walks tree folder (name :: rest) (.link folder target rest)
  | arrive {folder name} (entry : IsEntry name)
      (no_folder : tree.node? (folder ++ [name]) ≠ some .folder)
      (no_link : ∀ target, tree.node? (folder ++ [name]) ≠ some (.link target)) :
      Walks tree folder [name] (.arrived (folder ++ [name]))

section Walking

variable {tree : FileTree} {folder place : Place} {names : List String} {stop : Stop}

theorem walkToLink_eq_ok :
    tree.walkToLink true folder names = .ok stop ↔ Walks tree folder names stop := by
  constructor
  · intro walked
    fun_induction walkToLink tree true folder names with
    | case1 folder =>
        obtain rfl := Except.ok.inj walked
        exact .done folder
    | case2 folder rest ih => exact .here (ih walked)
    | case3 folder rest ih => exact .back (ih walked)
    | case5 folder name rest here back _ long isFolder ih =>
        exact .enter ⟨here, back, Nat.le_of_not_lt long⟩ isFolder (ih walked)
    | case7 folder name rest here back _ long target isLink =>
        obtain rfl := Except.ok.inj walked
        exact .link rest ⟨here, back, Nat.le_of_not_lt long⟩ isLink
    | case8 folder name rest here back _ long node no_folder no_link found last =>
        obtain rfl := Except.ok.inj walked
        obtain rfl := List.isEmpty_iff.mp last
        refine .arrive ⟨here, back, Nat.le_of_not_lt long⟩ ?_ ?_
        · rw [found]
          exact fun same => no_folder (Option.some.inj same)
        · rw [found]
          exact fun target same => no_link target (Option.some.inj same)
    | case10 folder name rest here back _ long absent last =>
        obtain rfl := Except.ok.inj walked
        obtain rfl := List.isEmpty_iff.mp last
        refine .arrive ⟨here, back, Nat.le_of_not_lt long⟩ ?_ ?_
        · rw [absent]
          exact nofun
        · rw [absent]
          exact nofun
    | case6 _ _ _ _ _ _ _ _ _ last => simp at last
    | case4 | case9 | case11 => cases walked
  · intro walks
    induction walks with
    | done folder => rfl
    | here _ ih => exact ih
    | back _ ih => exact ih
    | enter entry isFolder _ ih =>
        rw [walkToLink, if_neg (Nat.not_lt_of_le entry.short)]
        · simp only [isFolder, ih]
        · exact entry.not_here
        · exact entry.not_back
    | link rest entry isLink =>
        rw [walkToLink, if_neg (Nat.not_lt_of_le entry.short)]
        · simp [isLink]
        · exact entry.not_here
        · exact entry.not_back
    | @arrive folder name entry no_folder no_link =>
        rw [walkToLink, if_neg (Nat.not_lt_of_le entry.short)]
        · simp only [List.isEmpty_nil, reduceIte]
          split
          · next isFolder => exact absurd isFolder no_folder
          · next target isLink => exact absurd isLink (no_link target)
          · rfl
          · rfl
        · exact entry.not_here
        · exact entry.not_back

/-- A walk comes to a folder, to a leaf, or to a link in a folder. -/
def Stop.Lands (tree : FileTree) : Stop → Prop
  | .arrived place => tree.isFolder place = true ∨ tree.IsLeaf place
  | .link folder _ _ => tree.isFolder folder = true

theorem Walks.lands (sound : tree.Sound) (start : tree.isFolder folder = true)
    (walks : Walks tree folder names stop) : stop.Lands tree := by
  induction walks with
  | done folder => exact .inl start
  | here _ ih => exact ih start
  | back _ ih => exact ih (sound.above _ start)
  | enter entry isFolder _ ih => exact ih (isFolder_iff.mpr isFolder)
  | link rest entry isLink => exact start
  | @arrive folder name entry no_folder no_link =>
      refine .inr ⟨?_, List.append_ne_nil_of_right_ne_nil _ (List.cons_ne_nil _ _), ?_, no_link⟩
      · rwa [List.dropLast_concat]
      · exact Bool.eq_false_iff.mpr fun isFolder => no_folder (isFolder_iff.mp isFolder)

theorem isFolder_startOf (start : tree.isFolder folder = true) (path : String) :
    tree.isFolder (startOf path folder) = true := by
  rw [startOf]
  split
  · rfl
  · exact start

theorem walk_lands (sound : tree.Sound) {links : Nat} (start : tree.isFolder folder = true)
    (walked : tree.walk true links folder names = .ok place) :
    tree.isFolder place = true ∨ tree.IsLeaf place := by
  fun_induction walk tree true links folder names with
  | case1 => cases walked
  | case2 links folder names there stops =>
      obtain rfl := Except.ok.inj walked
      exact (walkToLink_eq_ok.mp stops).lands sound start
  | case3 => cases walked
  | case4 folder names folder' target rest stops links ih =>
      have within : tree.isFolder folder' = true := (walkToLink_eq_ok.mp stops).lands sound start
      exact ih (isFolder_startOf within target) walked

/-- What stands at a leaf has no part in where walks lead. -/
structure DiffersAtLeaf (place : Place) (tree after : FileTree) : Prop where
  current : after.current = tree.current
  leaf : tree.isFolder place = false ∧ ∀ target, tree.node? place ≠ some (.link target)
  leaf_after : after.isFolder place = false ∧ ∀ target, after.node? place ≠ some (.link target)
  node? : ∀ other, other ≠ place → after.node? other = tree.node? other

variable {after : FileTree}

theorem Walks.of_differsAtLeaf (differs : DiffersAtLeaf place tree after)
    (walks : Walks tree folder names stop) : Walks after folder names stop := by
  induction walks with
  | done folder => exact .done folder
  | here _ ih => exact .here ih
  | back _ ih => exact .back ih
  | @enter folder name rest stop entry isFolder _ ih =>
      refine .enter entry ?_ ih
      rwa [differs.node?]
      rintro rfl
      exact Bool.eq_false_iff.mp differs.leaf.1 (isFolder_iff.mpr isFolder)
  | @link folder name target rest entry isLink =>
      refine .link rest entry ?_
      rwa [differs.node?]
      rintro rfl
      exact differs.leaf.2 target isLink
  | @arrive folder name entry no_folder no_link =>
      by_cases same : folder ++ [name] = place
      · subst same
        refine .arrive entry (fun isFolder => ?_) differs.leaf_after.2
        exact Bool.eq_false_iff.mp differs.leaf_after.1 (isFolder_iff.mpr isFolder)
      · refine .arrive entry ?_ ?_
        · rwa [differs.node? _ same]
        · rwa [differs.node? _ same]

theorem walk_of_differsAtLeaf (differs : DiffersAtLeaf place tree after) {links : Nat}
    {goal : Place} (walked : tree.walk true links folder names = .ok goal) :
    after.walk true links folder names = .ok goal := by
  fun_induction walk tree true links folder names with
  | case1 => cases walked
  | case2 links folder names there stops =>
      obtain rfl := Except.ok.inj walked
      rw [walk, walkToLink_eq_ok.mpr ((walkToLink_eq_ok.mp stops).of_differsAtLeaf differs)]
  | case3 => cases walked
  | case4 folder names folder' target rest stops links ih =>
      rw [walk, walkToLink_eq_ok.mpr ((walkToLink_eq_ok.mp stops).of_differsAtLeaf differs)]
      exact ih walked

end Walking

section Resolving

variable {tree after : FileTree} {place : Place} {path : String}

theorem resolve_eq_ok : tree.resolve path = .ok place ↔
    path.isEmpty = false ∧ path.utf8ByteSize ≤ longestPath ∧
      tree.walk true mostLinks (startOf path tree.current) (components path) = .ok place ∧
      (endsAsFolder path = true → tree.node? place = some .folder) := by
  rw [resolve, placeOf]
  simp only [Bool.true_or]
  by_cases empty : path.isEmpty = true
  · simp [empty]
  by_cases long : longestPath < path.utf8ByteSize
  · simp [empty, long, Nat.not_le_of_lt long]
  simp only [empty, long, Bool.false_eq_true, reduceIte, true_and, Nat.le_of_not_lt long]
  cases walked : tree.walk true mostLinks (startOf path tree.current) (components path) with
  | error error => simp
  | ok goal =>
      cases asFolder : endsAsFolder path with
      | false => simp
      | true =>
          simp only [reduceIte, forall_const, Except.ok.injEq]
          split
          · next isFolder =>
            simp only [Except.ok.injEq, iff_self_and]
            rintro rfl
            exact isFolder
          · next node no_folder found =>
            refine iff_of_false nofun ?_
            rintro ⟨rfl, isFolder⟩
            exact no_folder (Option.some.inj (found.symm.trans isFolder))
          · next absent =>
            refine iff_of_false nofun ?_
            rintro ⟨rfl, isFolder⟩
            rw [absent] at isFolder
            cases isFolder

theorem resolve_lands (sound : tree.Sound) (resolved : tree.resolve path = .ok place) :
    tree.isFolder place = true ∨ tree.IsLeaf place :=
  walk_lands sound (isFolder_startOf sound.current path) (resolve_eq_ok.mp resolved).2.2.1

/-- A path that leads to a leaf leads there whatever stands at the leaf. -/
theorem resolve_of_differsAtLeaf (differs : DiffersAtLeaf place tree after)
    (resolved : tree.resolve path = .ok place) : after.resolve path = .ok place := by
  obtain ⟨named, short, walked, asFolder⟩ := resolve_eq_ok.mp resolved
  refine resolve_eq_ok.mpr ⟨named, short, ?_, fun ends => ?_⟩
  · rw [differs.current]
    exact walk_of_differsAtLeaf differs walked
  · exact absurd (isFolder_iff.mpr (asFolder ends)) (Bool.eq_false_iff.mp differs.leaf.1)

theorem read_of_resolve {file : StoredFile} (resolved : tree.resolve path = .ok place)
    (there : tree.node? place = some (.file file)) : tree.read path = .ok file.bytes := by
  simp only [read, find, lookup, resolved, there]
  rfl

end Resolving

section Folders

variable {tree after : FileTree} {folder place other : Place} {names : List String} {path : String}

theorem isFolder_putFolder (isFolder : tree.isFolder other = true) :
    (tree.putFolder place).isFolder other = true := by
  rw [isFolder_iff] at isFolder ⊢
  rw [node?_putFolder]
  split
  · rfl
  · exact isFolder

theorem Sound.putFolder (sound : tree.Sound) (within : tree.isFolder place.dropLast = true) :
    (tree.putFolder place).Sound where
  current := by
    rw [current_putFolder]
    exact isFolder_putFolder sound.current
  above other isFolder := by
    rw [isFolder_iff, node?_putFolder] at isFolder
    split at isFolder
    · next same => exact isFolder_putFolder (same ▸ within)
    · exact isFolder_putFolder (sound.above other (isFolder_iff.mpr isFolder))

/-- A folder is made where a walk ends, in a tree that stays sound. -/
theorem putFolder_of_walk (work : Place) (sound : tree.Sound) (start : tree.isFolder folder = true)
    {links : Nat} (walked : tree.walk true links folder names = .ok place)
    (free : tree.node? place = none ∨ tree.node? place = some .folder) :
    KeepsFiles work tree (tree.putFolder place) ∧ (tree.putFolder place).Sound ∧
      (tree.putFolder place).isFolder place = true := by
  refine ⟨.putFolder work free, sound.putFolder ?_, ?_⟩
  · rcases walk_lands sound start walked with isFolder | isLeaf
    · exact sound.above place isFolder
    · exact isLeaf.within
  · rw [isFolder_iff, node?_putFolder, if_pos rfl]

theorem makeFolders_keeps (work : Place) (sound : tree.Sound) (start : tree.isFolder folder = true)
    (made : tree.makeFolders folder names = .ok after) :
    KeepsFiles work tree after ∧ after.Sound := by
  fun_induction makeFolders tree folder names with
  | case1 tree folder =>
      obtain rfl := Except.ok.inj made
      exact ⟨.refl work tree, sound⟩
  | case2 tree folder rest ih => exact ih sound start made
  | case3 tree folder rest ih => exact ih sound (sound.above folder start) made
  | case4 | case5 | case8 => cases made
  | case6 tree folder name rest _ _ _ place walked absent ih =>
      obtain ⟨kept, sound', isFolder⟩ := putFolder_of_walk work sound start walked (.inl absent)
      obtain ⟨later, sound''⟩ := ih sound' isFolder made
      exact ⟨kept.trans later, sound''⟩
  | case7 tree folder name rest _ _ _ place walked there ih =>
      obtain ⟨kept, sound', isFolder⟩ := putFolder_of_walk work sound start walked (.inr there)
      obtain ⟨later, sound''⟩ := ih sound' isFolder made
      exact ⟨kept.trans later, sound''⟩

/-- Making folders makes and changes no file. -/
theorem createFolders_keeps (work : Place) (sound : tree.Sound)
    (made : tree.createFolders path = .ok after) : KeepsFiles work tree after ∧ after.Sound :=
  makeFolders_keeps work sound (isFolder_startOf sound.current path) made

end Folders

section Writing

variable {tree after : FileTree} {place other : Place} {path : String} {bytes : ByteArray}

theorem write_eq_ok : tree.write path bytes = .ok after ↔
    ∃ place, tree.resolve path = .ok place ∧ tree.isFolder place = false ∧
      (∀ device, tree.node? place = some (.device device) → device.take bytes = .ok ()) ∧
      after = tree.writeAt place bytes := by
  rw [write, placeToWrite]
  constructor
  · intro written
    cases resolved : tree.resolve path with
    | error error => cases error <;> simp only [resolved] at written <;> cases written
    | ok place =>
        cases isFolder : tree.isFolder place with
        | true =>
            simp only [resolved, isFolder, reduceIte] at written
            cases written
        | false =>
            simp only [resolved, isFolder, Bool.false_eq_true, reduceIte] at written
            refine ⟨place, rfl, isFolder, ?_⟩
            split at written
            · next device found =>
              cases taken : device.take bytes with
              | error error =>
                  rw [taken] at written
                  cases written
              | ok _ =>
                  rw [taken] at written
                  rw [writeAt]
                  simp only [found, Option.some.injEq, Node.device.injEq]
                  exact ⟨fun other same => same ▸ taken, (Except.ok.inj written).symm⟩
            · next other =>
              exact ⟨fun device found => absurd found (other device), (Except.ok.inj written).symm⟩
  · rintro ⟨place, resolved, no_folder, taken, rfl⟩
    simp only [resolved, no_folder, Bool.false_eq_true, reduceIte]
    split
    · next device found =>
      rw [taken device found, writeAt]
      simp only [found]
      rfl
    · rfl

theorem current_writeAt : (tree.writeAt place bytes).current = tree.current := by
  unfold writeAt
  split
  · rfl
  · exact current_put

/-- Bytes that are written to a place are the file there, unless a device takes them. -/
theorem node?_writeAt (below : place ≠ []) :
    ((∃ file, (tree.writeAt place bytes).node? place = some (.file file) ∧ file.bytes = bytes) ∨
      ∃ device, tree.node? place = some (.device device) ∧
        (tree.writeAt place bytes).node? place = some (.device device)) ∧
    ∀ other, other ≠ place → (tree.writeAt place bytes).node? other = tree.node? other := by
  unfold writeAt
  split
  · next device found => exact ⟨.inr ⟨device, found, found⟩, fun _ _ => rfl⟩
  · refine ⟨.inl ⟨_, (node?_put below).trans (if_pos rfl), rfl⟩, fun other apart => ?_⟩
    exact (node?_put below).trans (if_neg apart)

/-- One file was written, and no other was made or changed, but below a place: the path leads to the
    file with the bytes, or to a device that takes them. -/
def Writes (work : Place) (before after : FileTree) (path : String) (bytes : ByteArray) : Prop :=
  ∃ place, after.resolve path = .ok place ∧
    ((∃ file, after.node? place = some (.file file) ∧ file.bytes = bytes) ∨
      ∃ device, after.node? place = some (.device device) ∧ device.take bytes = .ok ()) ∧
    ∀ other, other ≠ place → ¬ work <+: other → after.node? other = before.node? other ∨
      (before.node? other = none ∧ after.node? other = some .folder)

/-- A file that is written is read back under its path. -/
theorem writes_of_write {work : Place} {before : FileTree} (sound : tree.Sound)
    (kept : KeepsFiles work before tree) (written : tree.write path bytes = .ok after) :
    Writes work before after path bytes := by
  obtain ⟨place, resolved, no_folder, taken, rfl⟩ := write_eq_ok.mp written
  have leaf : tree.IsLeaf place := by
    rcases resolve_lands sound resolved with isFolder | isLeaf
    · rw [no_folder] at isFolder
      cases isFolder
    · exact isLeaf
  obtain ⟨here, others⟩ := @node?_writeAt tree place bytes leaf.below
  refine ⟨place, resolve_of_differsAtLeaf ?_ resolved, ?_, fun other apart outside => ?_⟩
  · refine ⟨current_writeAt, ⟨no_folder, leaf.no_link⟩, ?_, others⟩
    rcases here with ⟨file, there, -⟩ | ⟨device, -, there⟩
    · exact ⟨by simp [isFolder, there], by simp [there]⟩
    · exact ⟨by simp [isFolder, there], by simp [there]⟩
  · exact here.imp_right fun ⟨device, found, there⟩ => ⟨device, there, taken device found⟩
  · rw [others other apart]
    exact kept.node? other outside

end Writing

end FileTree

end Stencil
