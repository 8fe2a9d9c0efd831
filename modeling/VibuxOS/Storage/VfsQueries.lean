import VibuxOS.Storage.VfsMirrors

namespace VibuxOS.Storage.Vfs

open VibuxOS.Lib

/-!
# Reading the files that a disk shows

The calls that only read answer with what the tree of files says: a listing names the
entries of a directory once each, and a file reads as its bytes.
-/

variable
  {candidate : FsMeta}
  {disk : Disk}
  {files : Files}
  {here target : Path}

namespace Files

/-- The bytes of the file behind a path. -/
def read (path : List UInt8) (here : Path) (files : Files) :
    Except FsError (List UInt8) :=
  match files.locate path here with
  | .error error => .error error
  | .ok target =>
      match files target with
      | some (.file bytes) => .ok bytes
      | _ => .error .isDir

def directory (path : List UInt8) (here : Path) (files : Files) :
    Except FsError Path :=
  match files.locate path here with
  | .error error => .error error
  | .ok target =>
      if files target = some .directory then
        .ok target
      else
        .error .notDir

end Files

/-- The paths `/mnt` and `/mnt/`, which `list` answers from the mount table. -/
def IsMountPath (path : List UInt8) : Prop :=
  path = [47, 109, 110, 116] ∨ path = [47, 109, 110, 116, 47]

/-- The tag of an entry in its record. -/
def Node.kind : Node → Nat
  | .directory => 2
  | .file _ => 1

/-- The entries of a directory, once each. -/
structure Listing
    (files : Files)
    (directory : Path)
    (entries : List (Nat × List UInt8)) : Prop where
  once : (entries.map Prod.snd).Nodup
  exact :
    ∀ kind name,
      (kind, name) ∈ entries ↔
        ∃ node,
          files (directory ++ [name]) = some node ∧ kind = node.kind

theorem Settled.kind_node
    (settled : Settled candidate disk)
    {slot : Nat}
    (used : Used disk.inode slot) :
    (disk.node slot).kind = (disk.inode slot).kind := by
  rcases settled.kinds slot used with isFile | isDirectory
  · rw [disk_node_of_other (by rw [isFile]; decide), isFile]
    rfl
  · rw [disk_node_of_directory isDirectory, isDirectory]
    rfl

theorem listSiblings_chain
    {fuel child : Nat}
    {cells : List Nat}
    (chain : Chain (siblings disk.inode) child cells)
    (used : ∀ cell ∈ cells, Used disk.inode cell)
    (short : cells.length ≤ fuel) :
    listSiblings fuel child disk =
      .ok
        (cells.map fun cell =>
          ((disk.inode cell).kind, (disk.inode cell).nameSlice))
        disk := by
  induction cells generalizing fuel child with
  | nil =>
      obtain rfl : child = 0 := chain
      cases fuel <;> rfl
  | cons first rest inductionHypothesis =>
      obtain ⟨rfl, nonzero, later⟩ := chain
      cases fuel with
      | zero => simp at short
      | succ fuel =>
          have firstUsed := used child (by simp)
          have listed :=
            @inductionHypothesis fuel _ later
              (fun cell member => used cell (by simp [member]))
              (by simpa using short)
          rw [siblings] at listed
          unfold listSiblings
          rw [if_neg nonzero,
            Prog.bind_of_ok (readInode_of_isSlot firstUsed.1),
            Prog.bind_of_ok listed, if_pos firstUsed.2]
          rfl

theorem Mirrors.listing
    (mirrors : Mirrors candidate disk files)
    {slot : Nat}
    (reached : At disk.inode target slot) :
    ∃ entries,
      listSiblings walkFuel (disk.inode slot).firstChild disk =
          .ok entries disk ∧
        Listing files target entries := by
  obtain ⟨settled, shows⟩ := mirrors
  have isSlot := (reached.used settled.tree).1
  obtain ⟨cells, chain, members⟩ := settled.tree.children isSlot
  have bound :=
    length_le_inodeCount chain.nodup
      (settled.tree.chain_isSlot isSlot chain)
  have isChild := fun cell => (members cell).mp
  refine
    ⟨_, listSiblings_chain chain (fun cell member => (isChild cell member).1)
      (by simp only [walkFuel]; omega), ?_, ?_⟩
  · rw [List.map_map]
    refine chain.nodup.map_on fun first isFirst second isSecond sameName => ?_
    exact
      settled.names slot first second (isChild first isFirst)
        (isChild second isSecond) sameName
  · intro kind name
    rw [List.mem_map]
    constructor
    · rintro ⟨cell, member, same⟩
      injection same with isKind isName
      have child := isChild cell member
      refine ⟨disk.node cell, ?_, ?_⟩
      · rw [← isName]
        exact shows.node_of_at (.child reached child)
      · rw [settled.kind_node child.1, isKind]
    · rintro ⟨node, isNode, rfl⟩
      obtain ⟨cell, cellReached, rfl⟩ := (shows _ _).mp isNode
      obtain ⟨owner, ownerReached, child, isName⟩ := cellReached.above
      obtain rfl := reached.slot_unique settled.names ownerReached
      refine ⟨cell, (members cell).mpr child, ?_⟩
      rw [settled.kind_node child.1, isName]

/--
On a disk that shows a tree of files, a path that leads to a file reads as its bytes
through both calls, a directory lists the names below it once each, and every other path
is answered with the error of the tree.
-/
theorem queries_follow_files
    {candidate : FsMeta}
    {disk : Disk}
    {files : Files}
    {here : Path}
    {path : List UInt8}
    {cwd : Nat}
    (mirrors : Mirrors candidate disk files)
    (reached : At disk.inode here cwd) :
    (∀ bytes, files.read path here = .ok bytes → ReadsAs disk path cwd bytes) ∧
      (∀ error,
        files.read path here = .error error →
        readFile path cwd disk = .err error disk ∧
          ∀ length out,
            readFileBytes path cwd length out disk = .err error disk) ∧
      (¬ IsMountPath path →
        (∀ directory,
          files.directory path here = .ok directory →
          ∃ entries,
            list path cwd disk = .ok entries disk ∧
              Listing files directory entries) ∧
        ∀ error,
          files.directory path here = .error error →
          list path cwd disk = .err error disk) := by
  have settled := mirrors.settled
  have shows := mirrors.shows
  unfold Files.read Files.directory IsMountPath
  rcases shows.locate_follows settled path reached with
    ⟨target, slot, located, resolved, targetReached⟩ |
      ⟨error, located, failed⟩
  case inr =>
    rw [located]
    refine ⟨?_, ?_, fun notMount => ⟨?_, ?_⟩⟩
    · rintro bytes ⟨⟩
    · rintro _ ⟨⟩
      exact
        ⟨Prog.bind_of_err failed, fun _ _ => Prog.bind_of_err failed⟩
    · rintro directory ⟨⟩
    · rintro _ ⟨⟩
      unfold list
      rw [if_neg notMount, Prog.bind_of_err failed]
  have used := targetReached.used settled.tree
  have read := @readInode_of_isSlot disk slot used.1
  have isNode := shows.node_of_at targetReached
  rw [located]
  simp only
  rcases settled.kinds slot used with isFile | isDirectory
  · rw [isNode, disk_node_of_other (by rw [isFile]; decide),
      if_neg (by simp)]
    refine ⟨?_, ?_, fun notMount => ⟨?_, ?_⟩⟩
    · rintro bytes ⟨⟩
      exact readsAs_contents resolved ⟨used.1, isFile⟩
    · rintro error ⟨⟩
    · rintro directory ⟨⟩
    · rintro error ⟨⟩
      unfold list
      rw [if_neg notMount, Prog.bind_of_ok resolved, Prog.bind_of_ok read,
        if_pos (by rw [isFile]; decide)]
      rfl
  · rw [isNode, disk_node_of_directory isDirectory, if_pos rfl]
    refine ⟨?_, ?_, fun notMount => ⟨?_, ?_⟩⟩
    · rintro bytes ⟨⟩
    · rintro error ⟨⟩
      have notFile : (disk.inode slot).kind ≠ 1 := by
        rw [isDirectory]
        decide
      constructor
      · unfold readFile
        rw [Prog.bind_of_ok resolved, Prog.bind_of_ok read, if_pos notFile]
        rfl
      · intro length out
        unfold readFileBytes
        rw [Prog.bind_of_ok resolved, Prog.bind_of_ok read, if_pos notFile]
        rfl
    · rintro directory ⟨⟩
      obtain ⟨entries, listed, listing⟩ := mirrors.listing targetReached
      refine ⟨entries, ?_, listing⟩
      unfold list
      rw [if_neg notMount, Prog.bind_of_ok resolved, Prog.bind_of_ok read,
        if_neg (not_not.mpr isDirectory), listed]
    · rintro error ⟨⟩

theorem queries_follow_files_touched :
    ∃ disk entries,
      list [slash] rootInode disk = .ok entries disk ∧
        Listing
          (Function.update Files.rootOnly [sampleName] (some (.file [])))
          [] entries := by
  obtain ⟨disk, formatted, _⟩ := format_spec geometry_smallDisk
  obtain ⟨final, touched, orderly⟩ := orderly_touch formatted
  have follows :=
    (mirrors_formatted geometry_smallDisk formatted).call_follows
      geometry_smallDisk orderly
  have mirrors := follows.final (congrArg Outcome.final? touched) rfl
  obtain ⟨_, _, lists⟩ :=
    @queries_follow_files _ _ _ _ [slash] rootInode mirrors .root
  obtain ⟨entries, listed, listing⟩ :=
    (lists (by unfold IsMountPath; decide)).1 [] rfl
  exact ⟨final, entries, listed, listing⟩

end VibuxOS.Storage.Vfs
