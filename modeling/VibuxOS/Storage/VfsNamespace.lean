import VibuxOS.Lib.Simulation
import VibuxOS.Storage.VfsContents

namespace VibuxOS.Storage.Vfs

open VibuxOS.Lib

/-!
# The files that a disk shows

A program sees directories and files by their paths.  The calls are specified on
such a tree of files, without inodes, chains, blocks and bitmap, and every call on
an orderly disk answers as the call on its tree does, and leaves a disk that shows
the tree which that call leaves.
-/

/-! ## Trees of files -/

/-- Components from the root on. -/
abbrev Path := List (List UInt8)

/-- What a path stands for. -/
inductive Node where
  | directory
  | file (bytes : List UInt8)
  deriving DecidableEq

/-- Directories and files by their paths. -/
abbrev Files := Path → Option Node

abbrev OnFiles (α : Type) := Prog Files FsError α

namespace Files

/-- A tree with its root only. -/
def rootOnly : Files :=
  Function.update (fun _ => none) [] (some .directory)

/-- Where one component leads. -/
def step (files : Files) (here : Path) (part : List UInt8) :
    Except FsError Path :=
  if part = dotDot then
    .ok here.dropLast
  else if files here ≠ some .directory then
    .error .notDir
  else if files (here ++ [part]) = none then
    .error .notFound
  else
    .ok (here ++ [part])

/-- Where components lead. -/
def walk (files : Files) : Path → Path → Except FsError Path
  | here, [] => .ok here
  | here, part :: rest =>
      match files.step here part with
      | .ok next => files.walk next rest
      | .error error => .error error

/-- What a path leads to; the empty one leads to the root. -/
def locate (files : Files) (path : List UInt8) (here : Path) :
    Except FsError Path :=
  files.walk (if path = [] ∨ path.head? = some slash then [] else here)
    (components path)

/-- The directory that a new entry goes to. -/
def parentOf (files : Files) (path : List UInt8) (here : Path) :
    Except FsError Path :=
  if slash ∈ path then
    files.locate (splitParent path).1 here
  else
    .ok here

/-- A new entry, in a directory that has none of its name. -/
def create (path : List UInt8) (here : Path) (node : Node) : OnFiles Path :=
  fun files =>
    match files.parentOf path here with
    | .error error => .err error files
    | .ok directory =>
        if files directory ≠ some .directory then
          .err .notDir files
        else if files (directory ++ [(splitParent path).2]) ≠ none then
          .err .exists files
        else
          .ok (directory ++ [(splitParent path).2])
            (Function.update files (directory ++ [(splitParent path).2])
              (some node))

/-- The entry of a path, or an empty file there. -/
def findOrCreate (path : List UInt8) (here : Path) : OnFiles Path :=
  fun files =>
    match files.locate path here with
    | .error .notFound => create path here (.file []) files
    | .error error => .err error files
    | .ok target => .ok target files

/-- New contents for a file. -/
def rewrite (target : Path) (data : List UInt8) : OnFiles Unit :=
  fun files =>
    match files target with
    | some (.file _) =>
        if maxFileBlocks < blocksFor data.length then
          .err .tooLarge files
        else
          .ok () (Function.update files target (some (.file data)))
    | _ => .err .isDir files

open Classical in
/-- A tree without an entry that has none below it. -/
noncomputable def remove (path : List UInt8) (here : Path) : OnFiles Unit :=
  fun files =>
    match files.locate path here with
    | .error error => .err error files
    | .ok target =>
        if target = [] then
          .err .permission files
        else if ∃ name, files (target ++ [name]) ≠ none then
          .err .notEmpty files
        else
          .ok () (Function.update files target none)

end Files

/-- What a call is for, in the directory `here`. -/
noncomputable def Call.onFiles (here : Path) : Call → OnFiles Unit
  | .makeDir path _ _ _ => do
      let _ ← Files.create path here .directory
      pure ()
  | .touch path _ _ _ => do
      let _ ← Files.findOrCreate path here
      pure ()
  | .writeFile path _ data _ _ => do
      let target ← Files.findOrCreate path here
      Files.rewrite target data
  | .remove path _ _ _ => Files.remove path here

/-! ## The tree of a disk -/

variable
  {candidate : FsMeta}
  {disk final : Disk}
  {slots : Slots}
  {files : Files}
  {here path : Path}

/-- A path and the slot behind it. -/
inductive At (slots : Slots) : Path → Nat → Prop where
  | root :
      At slots [] rootInode
  | child
      {path : Path}
      {directory slot : Nat} :
      At slots path directory →
      Child slots directory slot →
      At slots (path ++ [(slots slot).nameSlice]) slot

/-- What a slot holds. -/
def Disk.node (disk : Disk) (slot : Nat) : Node :=
  if (disk.inode slot).kind = 2 then
    .directory
  else
    .file (disk.contents slot)

def Shows (disk : Disk) (files : Files) : Prop :=
  ∀ path node,
    files path = some node ↔
      ∃ slot, At disk.inode path slot ∧ disk.node slot = node

/-- A slot in use holds a file or a directory. -/
def Kinds (slots : Slots) : Prop :=
  ∀ slot, Used slots slot → (slots slot).kind = 1 ∨ (slots slot).kind = 2

/-- The disk between calls: a tree with unique names, whose files agree with the bitmap. -/
structure Settled (candidate : FsMeta) (disk : Disk) : Prop
    extends Sound candidate disk where
  names : UniqueNames disk.inode
  kinds : Kinds disk.inode

theorem TreeInvariant.used_root
    (tree : TreeInvariant slots) :
    Used slots rootInode :=
  ⟨isSlot_root, by rw [tree.rootDirectory]; decide⟩

theorem TreeInvariant.used_parent
    (tree : TreeInvariant slots)
    {slot : Nat}
    (used : Used slots slot)
    (notRoot : slot ≠ rootInode) :
    Used slots (slots slot).parent :=
  ⟨(tree.parentDirectory used notRoot).1, by
    rw [(tree.parentDirectory used notRoot).2]
    decide⟩

namespace At

theorem used
    {slot : Nat}
    (reached : At slots path slot)
    (tree : TreeInvariant slots) :
    Used slots slot := by
  cases reached with
  | root => exact tree.used_root
  | child _ isChild => exact isChild.1

theorem above
    {name : List UInt8}
    {slot : Nat}
    (reached : At slots (path ++ [name]) slot) :
    ∃ directory,
      At slots path directory ∧
        Child slots directory slot ∧
        (slots slot).nameSlice = name := by
  generalize whole : path ++ [name] = entire at reached
  cases reached with
  | root => simp at whole
  | child directoryAt isChild =>
      obtain ⟨rfl, same⟩ := List.append_inj' whole rfl
      cases same
      exact ⟨_, directoryAt, isChild, rfl⟩

theorem of_nil
    {slot : Nat}
    (reached : At slots [] slot) :
    slot = rootInode := by
  generalize whole : ([] : Path) = entire at reached
  cases reached with
  | root => rfl
  | child => simp at whole

theorem slot_unique
    (names : UniqueNames slots)
    {slot other : Nat}
    (reached : At slots path slot)
    (otherReached : At slots path other) :
    slot = other := by
  induction reached generalizing other with
  | root => exact otherReached.of_nil.symm
  | child _ isChild inductionHypothesis =>
      obtain ⟨directory, directoryAt, otherChild, sameName⟩ := otherReached.above
      obtain rfl := inductionHypothesis directoryAt
      exact names _ _ _ isChild otherChild sameName.symm

theorem path_unique
    {other : Path}
    {slot : Nat}
    (reached : At slots path slot)
    (otherReached : At slots other slot) :
    path = other := by
  induction reached generalizing other with
  | root =>
      cases otherReached with
      | root => rfl
      | child _ isChild => exact (isChild.2.1 rfl).elim
  | child _ isChild inductionHypothesis =>
      cases otherReached with
      | root => exact (isChild.2.1 rfl).elim
      | child directoryAt otherChild =>
          rw [← isChild.2.2.symm.trans otherChild.2.2] at directoryAt
          rw [inductionHypothesis directoryAt]

end At

theorem TreeInvariant.exists_at
    (tree : TreeInvariant slots)
    {slot : Nat}
    (used : Used slots slot) :
    ∃ path, At slots path slot := by
  have reaches := tree.reachesRoot used
  induction reaches with
  | root => exact ⟨[], .root⟩
  | @up slot _ inductionHypothesis =>
      by_cases isRoot : slot = rootInode
      · rw [isRoot]
        exact ⟨[], .root⟩
      · obtain ⟨path, directoryAt⟩ :=
          inductionHypothesis (tree.used_parent used isRoot)
        exact ⟨_, .child directoryAt ⟨used, isRoot, rfl⟩⟩

/-! ## Lookups -/

theorem disk_node_of_directory
    {slot : Nat}
    (isDirectory : (disk.inode slot).kind = 2) :
    disk.node slot = .directory :=
  if_pos isDirectory

theorem disk_node_of_other
    {slot : Nat}
    (other : (disk.inode slot).kind ≠ 2) :
    disk.node slot = .file (disk.contents slot) :=
  if_neg other

namespace Shows

section

variable (shows : Shows disk files)

include shows

theorem unique
    {other : Files}
    (alsoShows : Shows disk other) :
    files = other := by
  funext path
  apply Option.ext
  intro node
  rw [shows, alsoShows]

theorem node_of_at
    {slot : Nat}
    (reached : At disk.inode path slot) :
    files path = some (disk.node slot) :=
  (shows path _).mpr ⟨slot, reached, rfl⟩

theorem exists_at
    (named : files path ≠ none) :
    ∃ slot, At disk.inode path slot := by
  obtain ⟨node, isNode⟩ := Option.ne_none_iff_exists'.mp named
  obtain ⟨slot, reached, _⟩ := (shows path node).mp isNode
  exact ⟨slot, reached⟩

theorem directory_iff
    {slot : Nat}
    (reached : At disk.inode path slot) :
    files path = some .directory ↔ (disk.inode slot).kind = 2 := by
  rw [shows.node_of_at reached, Option.some.injEq]
  constructor
  · intro same
    by_contra other
    rw [disk_node_of_other other] at same
    cases same
  · exact disk_node_of_directory

theorem named_iff
    (names : UniqueNames disk.inode)
    {directory : Nat}
    (reached : At disk.inode path directory)
    (name : List UInt8) :
    files (path ++ [name]) ≠ none ↔
      ∃ child,
        Child disk.inode directory child ∧
          (disk.inode child).nameSlice = name := by
  constructor
  · intro named
    obtain ⟨child, childReached⟩ := shows.exists_at named
    obtain ⟨other, otherReached, isChild, isName⟩ := childReached.above
    obtain rfl := reached.slot_unique names otherReached
    exact ⟨child, isChild, isName⟩
  · rintro ⟨child, isChild, rfl⟩
    rw [shows.node_of_at (.child reached isChild)]
    exact Option.some_ne_none _

/-- The two lookups of a component agree. -/
theorem step_follows
    (settled : Settled candidate disk)
    {current : Nat}
    (reached : At disk.inode here current)
    (part : List UInt8) :
    (∃ next slot,
      files.step here part = .ok next ∧
        resolvePart part current disk = .ok slot disk ∧
        At disk.inode next slot) ∨
    ∃ error,
      files.step here part = .error error ∧
        resolvePart part current disk = .err error disk := by
  have tree := settled.tree
  have isSlot := (reached.used tree).1
  by_cases isUp : part = dotDot
  · left
    refine ⟨here.dropLast, _, if_pos isUp,
      resolvePart_eq_ok.mpr ⟨rfl, isSlot, .inl ⟨isUp, rfl⟩⟩, ?_⟩
    cases reached with
    | root =>
        rw [if_neg (not_not.mpr tree.rootParent)]
        exact .root
    | child directoryReached isChild =>
        obtain ⟨used, notRoot, rfl⟩ := isChild
        rw [if_pos (tree.parentDirectory used notRoot).1.ne_zero,
          List.dropLast_concat]
        exact directoryReached
  by_cases isDirectory : (disk.inode current).kind = 2
  · have inTree := (shows.directory_iff reached).mpr isDirectory
    by_cases named : files (here ++ [part]) = none
    · right
      refine ⟨.notFound, ?_, ?_⟩
      · rw [Files.step, if_neg isUp, if_neg (not_not.mpr inTree),
          if_pos named]
      · obtain ⟨cells, walked, members⟩ := tree.exists_children isSlot
        have nothing :
            (cells.find? fun cell =>
              (disk.inode cell).kind != 0 &&
                (disk.inode cell).nameSlice == part) = none := by
          refine List.find?_eq_none.mpr fun cell member accepted => ?_
          rw [Bool.and_eq_true, beq_iff_eq] at accepted
          exact
            (shows.named_iff settled.names reached part).mpr
              ⟨cell, (members cell).mp member, accepted.2⟩ named
        unfold resolvePart
        rw [if_neg isUp, Prog.bind_of_ok (readInode_of_isSlot isSlot),
          if_neg (not_not.mpr isDirectory), Prog.bind_of_ok (walked _),
          nothing]
        rfl
    · left
      obtain ⟨child, isChild, isName⟩ :=
        (shows.named_iff settled.names reached part).mp named
      refine ⟨here ++ [part], child, ?_,
        (tree.resolvePart_iff settled.names isSlot isUp).mpr
          ⟨isDirectory, isChild, isName⟩, ?_⟩
      · rw [Files.step, if_neg isUp, if_neg (not_not.mpr inTree),
          if_neg named]
      · rw [← isName]
        exact .child reached isChild
  · right
    refine ⟨.notDir, ?_, ?_⟩
    · rw [Files.step, if_neg isUp,
        if_pos ((shows.directory_iff reached).not.mpr isDirectory)]
    · unfold resolvePart
      rw [if_neg isUp, Prog.bind_of_ok (readInode_of_isSlot isSlot),
        if_pos isDirectory]
      rfl

theorem walk_follows
    (settled : Settled candidate disk)
    (parts : Path)
    {current : Nat}
    (reached : At disk.inode here current) :
    (∃ next slot,
      files.walk here parts = .ok next ∧
        resolveParts parts current disk = .ok slot disk ∧
        At disk.inode next slot) ∨
    ∃ error,
      files.walk here parts = .error error ∧
        resolveParts parts current disk = .err error disk := by
  induction parts generalizing here current with
  | nil =>
      exact .inl ⟨here, current, rfl, rfl, reached⟩
  | cons part rest inductionHypothesis =>
      unfold Files.walk resolveParts
      rcases shows.step_follows settled reached part with
        ⟨next, slot, stepped, resolved, nextReached⟩ |
          ⟨error, stepped, failed⟩
      · rw [stepped, Prog.bind_of_ok resolved]
        exact inductionHypothesis nextReached
      · rw [stepped, Prog.bind_of_err failed]
        exact .inr ⟨error, rfl, rfl⟩

theorem locate_follows
    (settled : Settled candidate disk)
    (path : List UInt8)
    {cwd : Nat}
    (reached : At disk.inode here cwd) :
    (∃ target slot,
      files.locate path here = .ok target ∧
        resolveWith path cwd disk = .ok slot disk ∧
        At disk.inode target slot) ∨
    ∃ error,
      files.locate path here = .error error ∧
        resolveWith path cwd disk = .err error disk := by
  unfold Files.locate resolveWith
  by_cases isEmpty : path = []
  · subst isEmpty
    exact .inl ⟨[], rootInode, rfl, rfl, .root⟩
  by_cases isSlash : path = [slash]
  · subst isSlash
    exact .inl ⟨[], rootInode, rfl, rfl, .root⟩
  have notRoot : ¬ (path = [] ∨ path = [slash]) :=
    not_or.mpr ⟨isEmpty, isSlash⟩
  by_cases absolute : path.head? = some slash
  · rw [if_pos (.inr absolute), if_neg notRoot, if_pos absolute]
    exact shows.walk_follows settled _ .root
  · have relative : ¬ (path = [] ∨ path.head? = some slash) :=
      not_or.mpr ⟨isEmpty, absolute⟩
    rw [if_neg relative, if_neg notRoot, if_neg absolute]
    exact shows.walk_follows settled _ reached

theorem parentOf_follows
    (settled : Settled candidate disk)
    {path : List UInt8}
    {cwd : Nat}
    (reached : At disk.inode here cwd)
    (inRoot :
      slash ∈ path → (splitParent path).1 = [] → cwd = rootInode) :
    (∃ directory slot,
      files.parentOf path here = .ok directory ∧
        parentInode (splitParent path).1 cwd disk = .ok slot disk ∧
        At disk.inode directory slot) ∨
    ∃ error,
      files.parentOf path here = .error error ∧
        parentInode (splitParent path).1 cwd disk = .err error disk := by
  unfold Files.parentOf parentInode
  by_cases hasSlash : slash ∈ path
  · rw [if_pos hasSlash]
    by_cases noParent : (splitParent path).1 = []
    · rw [if_pos noParent, noParent]
      refine .inl ⟨[], rootInode, rfl, ?_, .root⟩
      rw [inRoot hasSlash noParent]
      rfl
    · rw [if_neg noParent]
      exact shows.locate_follows settled _ reached
  · rw [if_neg hasSlash, splitParent_of_not_mem hasSlash, if_pos rfl]
    exact .inl ⟨here, cwd, rfl, rfl, reached⟩

end

end Shows

end VibuxOS.Storage.Vfs
