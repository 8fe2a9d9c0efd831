import VibuxOS.Files.Immutable

namespace VibuxOS.Files

open VibuxOS.Lib

/-!
# What a path shows and what its descriptor shows

`stat`, `access` and `fstat` of `arch/x86_64/syscall.rs` beside `open_path`.  Each
of them has its own order of lookups; the sizes and modes that they show agree
for some paths only.
-/

/-! ## `stat`, `fstat` and `access` -/

/-- What `fill_stat` is given. -/
structure FileStat where
  mode : UInt32
  size : Nat
  identity : List UInt8
  deriving Repr, DecidableEq

def fillStat
    (world : World)
    (mode : UInt32)
    (size : Nat)
    (identity : List UInt8) :
    Sys FileStat :=
  if world.copied 0 144 then
    pure { mode := mode, size := size, identity := identity }
  else
    Prog.fail .efault

def pathMode (world : World) (state : State) (path : List UInt8) : UInt32 :=
  match ramFileIndex state path with
  | some index => (state.ramFiles index).mode
  | none =>
      if isDirectory path then
        0o040755
      else if (world.binary path).isSome then
        0o100755
      else
        0o100644

/-- The paths that `path_exists` lists. -/
def existingPaths : List String :=
  ["/", ".", "..", "/home", "/home/boi", "/tmp", "/etc", "/usr", "/var", "/bin",
    "/dev", "/proc", "/proc/self", "/proc/1", "/root", "/sys", "/run",
    "/dev/null", "/dev/zero", "/dev/tty", "/dev/console", "/dev/random",
    "/dev/urandom", "/dev/stdin", "/dev/stdout", "/dev/stderr",
    "/proc/self/exe", "/proc/1/exe"]

def pathExists (world : World) (state : State) (path : List UInt8) : Bool :=
  (ramFileIndex state path).isSome || (world.binary path).isSome ||
    (world.text path).isSome ||
    existingPaths.any fun existing => path == bytes existing

/-- The size that `stat` finds for a path. -/
def statSize (world : World) (path : List UInt8) : Nat :=
  match world.binary path with
  | some binary => binary.bytes.length
  | none => ((world.text path).map List.length).getD 0

/-- The arm of `stat` in the table of system calls. -/
def stat (world : World) (path : List UInt8) : Sys FileStat := do
  let state ← Prog.gets id
  if pathExists world state path = false then
    Prog.fail .enoent
  else
    fillStat world (pathMode world state path) (statSize world path) path

/-- The mode that `fstat` shows for a descriptor. -/
def fdMode (world : World) (state : State) (fd : Fd) : UInt32 :=
  match fd.kind with
  | .text => pathMode world state fd.path
  | .binary => 0o100755
  | .ramFile => pathMode world state fd.path
  | _ => 0o020666

/-- The arm of `fstat`; its size is found like that of `lseek`. -/
def fstat (world : World) (fdNumber : Int) : Sys FileStat := do
  let fd ← fdSnapshot fdNumber
  let state ← Prog.gets id
  fillStat world (fdMode world state fd) (seekSize world state fd)
    (if fd.path = [] then bytes "<special-file>" else fd.path)

def accessPath
    (world : World)
    (path : List UInt8)
    (mode : UInt64) :
    Sys Unit :=
  if mode &&& ~~~7 ≠ 0 then
    Prog.fail .einval
  else do
    let state ← Prog.gets id
    if pathExists world state path = false then
      Prog.fail .enoent
    else
      pure ()

/-! ## Agreement -/

/-- The call comes back with a result. -/
def Succeeds {α : Type} (program : Sys α) (state : State) : Prop :=
  ∃ value final, program state = .ok value final

/--
`stat`, `access` and opening succeed together, and then `stat` and the
descriptor show one size and one mode.
-/
structure ViewsAgree
    (world : World)
    (state : State)
    (path : List UInt8) : Prop where
  opens :
    Succeeds (stat world path) state ↔
      Succeeds (openPath world path Syscall.oRdonly) state
  access :
    Succeeds (stat world path) state ↔
      Succeeds (accessPath world path 0) state
  shows :
    ∀ seen looked fd first,
      stat world path state = .ok seen looked →
      openPath world path Syscall.oRdonly state = .ok fd first →
      ∃ shown last,
        fstat world fd first = .ok shown last ∧
          shown.size = seen.size ∧
          shown.mode = seen.mode

/-- The length of the RAM file at a path, 0 if there is none. -/
def ramLength (state : State) (path : List UInt8) : Nat :=
  ((ramFileIndex state path).map fun index => (state.ramFiles index).len).getD 0

/-- The mode of the RAM file at a path, if there is one. -/
def ramMode (state : State) (path : List UInt8) : Option UInt32 :=
  (ramFileIndex state path).map fun index => (state.ramFiles index).mode

/-- The size of the built-in file that a path leads to, 0 if there is none. -/
def Store.sizeOf (store : Store) (path : List UInt8) : Nat :=
  match find store.binaries path with
  | some binary => binary.bytes.length
  | none => ((textFile path).map List.length).getD 0

/--
Where the lookups meet: the path is not one of a device; on a directory there is
no RAM file that shows; a RAM file has the size of what it hides; and the path
of a binary is not cut when it is stored.
-/
def Store.ViewsMeet
    (store : Store)
    (state : State)
    (path : List UInt8) : Prop :=
  devicePath path = none ∧
    if isDirectory path then
      ramLength state (openedDirectory state path) = 0 ∧
        ramMode state path = ramMode state (openedDirectory state path)
    else
      match ramFileIndex state path with
      | some index => (state.ramFiles index).len = store.sizeOf path
      | none =>
          ∀ binary,
            find store.binaries path = some binary →
            binary.bytes.length =
              match find store.binaries (binary.path.take 160) with
              | some stored => stored.bytes.length
              | none => ramLength state (binary.path.take 160)

/-! ## The calls where the path exists, and where it does not -/

section Calls

variable
  {world : World}
  {state : State}
  {path : List UInt8}

theorem stat_of_exists
    (existing : pathExists world state path = true)
    (accepts : world.copied 0 144 = true) :
    stat world path state =
      .ok
        { mode := pathMode world state path
          size := statSize world path
          identity := path }
        state := by
  unfold stat fillStat
  rw [Prog.gets_bind_apply, if_neg (by simp [existing]), if_pos accepts]
  rfl

theorem stat_of_missing
    (missing : pathExists world state path = false) :
    stat world path state = .err .enoent state := by
  unfold stat
  rw [Prog.gets_bind_apply, if_pos (by exact missing)]
  rfl

theorem accessPath_of_exists
    (existing : pathExists world state path = true) :
    accessPath world path 0 state = .ok () state := by
  unfold accessPath
  rw [if_neg (by decide), Prog.gets_bind_apply, if_neg (by simp [existing])]
  rfl

theorem accessPath_of_missing
    (missing : pathExists world state path = false) :
    accessPath world path 0 state = .err .enoent state := by
  unfold accessPath
  rw [if_neg (by decide), Prog.gets_bind_apply, if_pos (by exact missing)]
  rfl

theorem fstat_of_open
    {fd : Nat}
    (inTable : fd < Syscall.fileFdMax)
    (used : (state.fds fd).used = true)
    (accepts : world.copied 0 144 = true) :
    ∃ identity,
      fstat world fd state =
        .ok
          { mode := fdMode world state (state.fds fd)
            size := seekSize world state (state.fds fd)
            identity := identity }
          state := by
  have isOpen : OpenFd state.fds fd := ⟨by omega, by omega, used⟩
  unfold fstat fillStat
  rw [Prog.bind_of_ok (fdSnapshot_of_open isOpen), Prog.gets_bind_apply,
    if_pos accepts]
  exact ⟨_, rfl⟩

theorem stat_succeeds_iff_access
    (accepts : world.copied 0 144 = true) :
    Succeeds (stat world path) state ↔
      Succeeds (accessPath world path 0) state := by
  cases existing : pathExists world state path with
  | true =>
      exact
        ⟨fun _ => ⟨_, _, accessPath_of_exists existing⟩, fun _ =>
          ⟨_, _, stat_of_exists existing accepts⟩⟩
  | false =>
      constructor <;> rintro ⟨_, _, returned⟩
      · rw [stat_of_missing existing] at returned
        cases returned
      · rw [accessPath_of_missing existing] at returned
        cases returned

theorem viewsAgree_iff_of_opens
    {descriptor : Fd}
    (accepts : world.copied 0 144 = true)
    (free : HasFreeFd state)
    (used : descriptor.used = true)
    (opens :
      openPath world path Syscall.oRdonly state =
        allocFd descriptor state) :
    ViewsAgree world state path ↔
      pathExists world state path = true ∧
        seekSize world state descriptor = statSize world path ∧
        fdMode world state descriptor = pathMode world state path := by
  obtain ⟨fd, isFree, _, inTable⟩ := freeFd_of_hasFreeFd free
  rw [allocFd_of_free isFree] at opens
  have filled : (state.setFd fd descriptor).fds fd = descriptor :=
    fds_setFd_self _ _ _
  obtain ⟨identity, shown⟩ :=
    @fstat_of_open world (state.setFd fd descriptor) fd inTable
      (by rw [filled]; exact used) accepts
  rw [filled] at shown
  constructor
  · intro agree
    have existing : pathExists world state path = true := by
      cases existing : pathExists world state path with
      | true => rfl
      | false =>
          obtain ⟨_, _, returned⟩ := agree.opens.mpr ⟨_, _, opens⟩
          rw [stat_of_missing existing] at returned
          cases returned
    obtain ⟨answer, last, answered, sameSize, sameMode⟩ :=
      agree.shows _ _ _ _ (stat_of_exists existing accepts) opens
    rw [shown] at answered
    cases answered
    exact ⟨existing, sameSize, sameMode⟩
  · rintro ⟨existing, sameSize, sameMode⟩
    have seen := stat_of_exists existing accepts
    refine
      ⟨⟨fun _ => ⟨_, _, opens⟩, fun _ => ⟨_, _, seen⟩⟩,
        stat_succeeds_iff_access accepts, ?_⟩
    intro other looked number first otherSeen otherOpens
    rw [seen] at otherSeen
    cases otherSeen
    rw [opens] at otherOpens
    cases otherOpens
    exact ⟨_, _, shown, sameSize, sameMode⟩

theorem viewsAgree_of_missing
    {error : Errno}
    {final : State}
    (accepts : world.copied 0 144 = true)
    (missing : pathExists world state path = false)
    (refused : openPath world path Syscall.oRdonly state = .err error final) :
    ViewsAgree world state path where
  opens := by
    constructor <;> rintro ⟨_, _, returned⟩
    · rw [stat_of_missing missing] at returned
      cases returned
    · rw [refused] at returned
      cases returned
  access := stat_succeeds_iff_access accepts
  shows := by
    intro seen looked fd first returned
    rw [stat_of_missing missing] at returned
    cases returned

end Calls

/-! ## Sizes and modes -/

section Shown

variable
  {store : Store}
  {world : World}
  {state : State}
  {path : List UInt8}

theorem statSize_eq
    (serves : store.Serves world)
    (path : List UInt8) :
    statSize world path = store.sizeOf path := by
  unfold statSize Store.sizeOf
  rw [serves.binary_eq, serves.text]
  cases find store.binaries path <;> rfl

theorem sizeOf_special
    (special : path ∈ specialPaths)
    (reserved : Reserved path) :
    store.sizeOf path = 0 := by
  have noText : ∀ path ∈ specialPaths, textFile path = none := by
    decide +kernel
  unfold Store.sizeOf
  rw [store.find_of_reserved reserved, noText path special]
  rfl

theorem IsRegular.ne
    {mode other : UInt32}
    (regular : IsRegular mode)
    (notRegular : other &&& 0o170000 ≠ 0o100000) :
    mode ≠ other := by
  rintro rfl
  exact notRegular regular

theorem regular_of_ramMode
    {mode : UInt32}
    (settled : Settled state)
    (found : ramMode state path = some mode) :
    IsRegular mode := by
  obtain ⟨index, isIndex, rfl⟩ := Option.map_eq_some_iff.mp found
  exact settled.regular index (ramFileIndex_used isIndex).1

theorem pathMode_eq
    (world : World)
    (state : State)
    (path : List UInt8) :
    pathMode world state path =
      (ramMode state path).getD
        (if isDirectory path then
          0o040755
        else if (world.binary path).isSome then
          0o100755
        else
          0o100644) := by
  unfold pathMode ramMode
  cases ramFileIndex state path <;> rfl

theorem getD_directory_eq_iff
    {first second : List UInt8}
    (settled : Settled state) :
    (ramMode state first).getD 0o040755 =
        (ramMode state second).getD 0o040755 ↔
      ramMode state first = ramMode state second := by
  have other : (0o040755 : UInt32) &&& 0o170000 ≠ 0o100000 := by
    decide
  constructor
  · intro same
    cases isFirst : ramMode state first with
    | none =>
        cases isSecond : ramMode state second with
        | none => rfl
        | some mode =>
            rw [isFirst, isSecond] at same
            exact
              ((regular_of_ramMode settled isSecond).ne other same.symm).elim
    | some mode =>
        cases isSecond : ramMode state second with
        | none =>
            rw [isFirst, isSecond] at same
            exact ((regular_of_ramMode settled isFirst).ne other same).elim
        | some _ =>
            rw [isFirst, isSecond] at same
            exact congrArg some same
  · intro same
    rw [same]

end Shown

/-! ## Path by path -/

section Cases

variable
  {store : Store}
  {world : World}
  {state : State}
  {path : List UInt8}

section

variable (settled : Settled state)

include settled

theorem isDirectoryPath_openedDirectory
    (directory : isDirectory path = true) :
    isDirectoryPath (openedDirectory state path) = true := by
  unfold openedDirectory
  split
  · exact settled.cwd
  · split
    · decide +kernel
    · unfold isDirectory at directory
      simp only [Bool.or_eq_true, beq_iff_eq] at directory
      rcases directory with (dot | dots) | named
      · exact absurd dot ‹_›
      · exact absurd dots ‹_›
      · exact named

omit settled in
theorem isDirectory_of_isDirectoryPath
    (directory : isDirectoryPath path = true) :
    isDirectory path = true := by
  unfold isDirectory
  rw [directory, Bool.or_true]

omit settled in
theorem pathExists_of_listed
    (listed : (existingPaths.any fun existing => path == bytes existing) = true) :
    pathExists world state path = true := by
  unfold pathExists
  rw [listed, Bool.or_true]

theorem viewsAgree_directory_iff
    (serves : store.Serves world)
    (accepts : world.copied 0 144 = true)
    (free : HasFreeFd state)
    (directory : isDirectory path = true) :
    ViewsAgree world state path ↔
      ramLength state (openedDirectory state path) = 0 ∧
        ramMode state path = ramMode state (openedDirectory state path) := by
  have member := mem_directoryPaths_of_isDirectory directory
  have target := isDirectoryPath_openedDirectory settled directory
  have targetMember :=
    mem_directoryPaths_of_isDirectory (isDirectory_of_isDirectoryPath target)
  have short : ∀ path ∈ directoryPaths.map bytes, path.length ≤ 160 := by
    decide +kernel
  have listed :
      ∀ path ∈ directoryPaths.map bytes,
        (existingPaths.any fun existing => path == bytes existing) = true := by
    decide +kernel
  have noText :
      ∀ path ∈ directoryPaths.map bytes, textFile path = none := by
    decide +kernel
  have opens :=
    @openPath_of_directory world _ _ Syscall.oRdonly settled.initialized
      directory (by decide)
  rw [List.take_of_length_le (short _ targetMember)] at opens
  have size :
      seekSize world state
          (opened .text Syscall.oRdonly (openedDirectory state path)) =
        ramLength state (openedDirectory state path) := by
    unfold seekSize opened
    dsimp only
    rw [if_neg (by decide), if_pos rfl, serves.text, noText _ targetMember]
    rfl
  have modes :
      fdMode world state
            (opened .text Syscall.oRdonly (openedDirectory state path)) =
          pathMode world state path ↔
        ramMode state path = ramMode state (openedDirectory state path) := by
    change
      pathMode world state (openedDirectory state path) =
          pathMode world state path ↔
        _
    rw [pathMode_eq, pathMode_eq, if_pos directory,
      if_pos (isDirectory_of_isDirectoryPath target),
      getD_directory_eq_iff settled]
    exact eq_comm
  rw [viewsAgree_iff_of_opens accepts free rfl opens, statSize_eq serves,
    sizeOf_special (mem_specialPaths_of_isDirectory directory) (.inl directory),
    size, modes]
  constructor
  · exact fun agree => agree.2
  · exact fun agree => ⟨pathExists_of_listed (listed path member), agree⟩

theorem not_viewsAgree_of_device
    {kind : FileKind}
    {stored : List UInt8}
    (serves : store.Serves world)
    (accepts : world.copied 0 144 = true)
    (free : HasFreeFd state)
    (device : devicePath path = some (kind, stored)) :
    ¬ ViewsAgree world state path := by
  have isDevice : (devicePath path).isSome = true := by
    rw [device, Option.isSome_some]
  have special := mem_specialPaths_of_devicePath isDevice
  have reserved : Reserved path := .inr (.inl isDevice)
  have notDirectory :
      ∀ device ∈ devicePaths, isDirectory (ascii device.1) = false := by
    decide +kernel
  have kinds :
      ∀ device ∈ devicePaths,
        device.2.1 = .binary ∧ ascii device.2.2 = bytes "/bin/bash" ∨
          device.2.1 = .null ∨ device.2.1 = .zero ∨ device.2.1 = .block ∨
            device.2.1 = .tty := by
    decide +kernel
  obtain ⟨entry, member, samePath, sameKind, sameStored⟩ :=
    devicePath_mem device
  have noDirectory : isDirectory path = false :=
    samePath ▸ notDirectory entry member
  have opens :=
    @openPath_of_device world _ _ Syscall.oRdonly settled.initialized _ _
      noDirectory device
  rw [viewsAgree_iff_of_opens accepts free rfl opens]
  rintro ⟨_, sameSize, sameMode⟩
  rcases kinds entry member with ⟨isBinary, isBash⟩ | others
  · -- the shell is not empty, and `stat` finds no size for the path
    rw [← sameKind] at isBinary
    rw [← sameStored] at isBash
    subst isBinary isBash
    obtain ⟨bash, bashMember, bashPath, nonempty⟩ := store.shell
    rw [statSize_eq serves, sizeOf_special special reserved] at sameSize
    unfold seekSize opened at sameSize
    dsimp only at sameSize
    rw [if_pos rfl, serves.binary_eq, ← bashPath, store.find_path bashMember]
      at sameSize
    exact nonempty (List.length_eq_zero_iff.mp sameSize)
  · have noBinary : (world.binary path).isSome = false := by
      rw [serves.binary_eq, store.find_of_reserved reserved]
      rfl
    rw [pathMode_eq, if_neg (Bool.eq_false_iff.mp noDirectory), noBinary]
      at sameMode
    have character : fdMode world state (opened kind Syscall.oRdonly stored) =
        0o020666 := by
      rcases others with isKind | isKind | isKind | isKind <;>
        rw [sameKind, isKind] <;> rfl
    rw [character] at sameMode
    cases isRam : ramMode state path with
    | none =>
        rw [isRam] at sameMode
        exact absurd sameMode (by decide)
    | some mode =>
        rw [isRam] at sameMode
        exact
          (regular_of_ramMode settled isRam).ne (by decide) sameMode.symm

theorem viewsAgree_ramFile_iff
    {index : Nat}
    (serves : store.Serves world)
    (accepts : world.copied 0 144 = true)
    (free : HasFreeFd state)
    (noDirectory : isDirectory path = false)
    (noDevice : devicePath path = none)
    (found : ramFileIndex state path = some index) :
    ViewsAgree world state path ↔
      (state.ramFiles index).len = store.sizeOf path := by
  have opens :=
    @openPath_of_ramFile world _ _ Syscall.oRdonly settled.initialized _
      noDirectory noDevice found (by decide) (by decide)
  have existing : pathExists world state path = true := by
    unfold pathExists
    rw [found]
    rfl
  have size :
      seekSize world state (opened .ramFile Syscall.oRdonly path) =
        (state.ramFiles index).len := by
    unfold seekSize opened ramFileSize
    dsimp only
    rw [if_neg (by decide), if_neg (by decide), found]
    rfl
  rw [viewsAgree_iff_of_opens accepts free rfl opens, statSize_eq serves, size]
  exact
    ⟨fun agree => agree.2.1, fun sameSize => ⟨existing, sameSize, rfl⟩⟩

theorem viewsAgree_binary_iff
    {binary : StoredBinary}
    (serves : store.Serves world)
    (accepts : world.copied 0 144 = true)
    (free : HasFreeFd state)
    (noRamFile : ramFileIndex state path = none)
    (found : find store.binaries path = some binary) :
    ViewsAgree world state path ↔
      binary.bytes.length =
        match find store.binaries (binary.path.take 160) with
        | some stored => stored.bytes.length
        | none => ramLength state (binary.path.take 160) := by
  obtain ⟨noDirectory, noDevice⟩ := not_special_of_find found
  have isBinary : world.binary path = some binary.toBinary := by
    rw [serves.binary_eq, found, Option.map_some]
  have opens :
      openPath world path Syscall.oRdonly state =
        allocFd (opened .binary Syscall.oRdonly (binary.path.take 160))
          state := by
    rw [openPath_of_plain settled.initialized noDirectory noDevice, noRamFile,
      isBinary]
    dsimp only
    rw [if_neg (by decide)]
  have existing : pathExists world state path = true := by
    unfold pathExists
    rw [isBinary]
    simp
  have size :
      seekSize world state
          (opened .binary Syscall.oRdonly (binary.path.take 160)) =
        match find store.binaries (binary.path.take 160) with
        | some stored => stored.bytes.length
        | none => ramLength state (binary.path.take 160) := by
    unfold seekSize opened
    dsimp only
    rw [if_pos rfl, serves.binary_eq]
    cases find store.binaries (binary.path.take 160) <;> rfl
  have mode :
      fdMode world state
          (opened .binary Syscall.oRdonly (binary.path.take 160)) =
        pathMode world state path := by
    unfold pathMode
    rw [noRamFile, if_neg (Bool.eq_false_iff.mp noDirectory), isBinary]
    rfl
  have statShows : statSize world path = binary.bytes.length := by
    unfold statSize
    rw [isBinary]
  rw [viewsAgree_iff_of_opens accepts free rfl opens, size, statShows]
  constructor
  · exact fun agree => agree.2.1.symm
  · exact fun sameSize => ⟨existing, sameSize.symm, mode⟩

theorem viewsAgree_of_text
    {contents : List UInt8}
    (serves : store.Serves world)
    (accepts : world.copied 0 144 = true)
    (free : HasFreeFd state)
    (fits : path.length ≤ 160)
    (noRamFile : ramFileIndex state path = none)
    (noBinary : find store.binaries path = none)
    (isText : textFile path = some contents) :
    ViewsAgree world state path := by
  obtain ⟨noDirectory, noDevice⟩ := not_special_of_textFile isText
  have notBinary : world.binary path = none := by
    rw [serves.binary_eq, noBinary, Option.map_none]
  have worldText : world.text path = some contents := by
    rw [serves.text, isText]
  have opens :
      openPath world path Syscall.oRdonly state =
        allocFd (opened .text Syscall.oRdonly path) state := by
    rw [openPath_of_plain settled.initialized noDirectory noDevice, noRamFile,
      notBinary]
    dsimp only
    rw [if_pos (by rw [worldText, Option.isSome_some]), if_neg (by decide),
      List.take_of_length_le fits]
  apply (viewsAgree_iff_of_opens accepts free rfl opens).mpr
  refine ⟨?_, ?_, rfl⟩
  · unfold pathExists
    rw [worldText]
    simp
  · unfold seekSize statSize opened
    dsimp only
    rw [if_neg (by decide), if_pos rfl, notBinary, worldText]
    rfl

theorem viewsAgree_of_nothing
    (serves : store.Serves world)
    (accepts : world.copied 0 144 = true)
    (noDirectory : isDirectory path = false)
    (noDevice : devicePath path = none)
    (noRamFile : ramFileIndex state path = none)
    (noBinary : find store.binaries path = none)
    (noText : textFile path = none) :
    ViewsAgree world state path := by
  have notBinary : world.binary path = none := by
    rw [serves.binary_eq, noBinary, Option.map_none]
  have worldText : world.text path = none := by
    rw [serves.text, noText]
  have notListed :
      (existingPaths.any fun existing => path == bytes existing) = false := by
    apply Bool.eq_false_iff.mpr
    intro listed
    obtain ⟨existing, member, same⟩ := List.any_eq_true.mp listed
    rw [beq_iff_eq] at same
    have special :
        ∀ existing ∈ existingPaths,
          isDirectory (bytes existing) = true ∨
            (devicePath (bytes existing)).isSome = true := by
      decide +kernel
    rcases special existing member with directory | device
    · rw [← same, noDirectory] at directory
      cases directory
    · rw [← same, noDevice] at device
      cases device
  have missing : pathExists world state path = false := by
    unfold pathExists
    rw [noRamFile, notBinary, worldText, notListed]
    rfl
  have refused :
      openPath world path Syscall.oRdonly state = .err .enoent state := by
    rw [openPath_of_plain settled.initialized noDirectory noDevice, noRamFile,
      notBinary]
    dsimp only
    rw [if_neg (by rw [worldText]; simp)]
    unfold createRamFile
    rw [if_neg (by decide)]
    rfl
  exact viewsAgree_of_missing accepts missing refused

end

end Cases

/-! ## Every path -/

theorem settled_of_run
    {store : Store}
    {allowed : State → FileCall → Prop}
    {state : State}
    (run : Relation.ReflTransGen (FileStep store allowed) State.booted state) :
    Settled state :=
  invariant_of_run Settled
    (fun _ _ step settled => settled_step step settled) run settled_booted

/--
In every state that calls on files lead to, and for every path that a call can
read, the views agree exactly where the lookups meet.
-/
theorem viewsAgree_iff
    {store : Store}
    {world : World}
    {state : State}
    {path : List UInt8}
    (run :
      Relation.ReflTransGen (FileStep store fun _ _ => True) State.booted state)
    (readable : path.length < 160)
    (serves : store.Serves world)
    (accepts : world.copied 0 144 = true)
    (free : HasFreeFd state) :
    ViewsAgree world state path ↔ store.ViewsMeet state path := by
  have settled := settled_of_run run
  unfold Store.ViewsMeet
  cases device : devicePath path with
  | some target =>
      constructor
      · intro agree
        exact
          (not_viewsAgree_of_device settled serves accepts free device agree).elim
      · rintro ⟨noDevice, _⟩
        cases noDevice
  | none =>
      rw [eq_self_iff_true, true_and]
      cases directory : isDirectory path with
      | true =>
          rw [if_pos rfl]
          exact viewsAgree_directory_iff settled serves accepts free directory
      | false =>
          rw [if_neg Bool.false_ne_true]
          cases found : ramFileIndex state path with
          | some index =>
              exact
                viewsAgree_ramFile_iff settled serves accepts free directory
                  device found
          | none =>
              dsimp only
              cases isBinary : find store.binaries path with
              | some binary =>
                  rw [viewsAgree_binary_iff settled serves accepts free found
                    isBinary]
                  simp
              | none =>
                  constructor
                  · intro _ binary impossible
                    cases impossible
                  · intro _
                    cases isText : textFile path with
                    | some contents =>
                        exact
                          viewsAgree_of_text settled serves accepts free
                            (Nat.le_of_lt readable) found isBinary isText
                    | none =>
                        exact
                          viewsAgree_of_nothing settled serves accepts directory
                            device found isBinary isText

theorem renameCalls_run (path : List UInt8) :
    Relation.ReflTransGen (FileStep Store.shellOnly fun _ _ => True)
      State.booted
      ((FileCall.runAll (renameCalls path) State.booted).getD State.booted) := by
  cases ended : FileCall.runAll (renameCalls path) State.booted with
  | none => exact .refl
  | some after =>
      exact
        run_of_runAll (renameCalls_served path) (fun _ _ _ => trivial) ended

/-- The name of the host shows the same by its path and by a descriptor. -/
theorem hostname_views_agree :
    ViewsAgree Store.shellOnly.world (letterMoved (bytes "/b"))
      (bytes "/etc/hostname") := by
  apply
    (viewsAgree_iff (renameCalls_run (bytes "/b")) (by decide +kernel)
      Store.shellOnly.serves_world rfl ⟨4, by decide, by decide, rfl⟩).mpr
  refine ⟨by decide +kernel, ?_⟩
  rw [if_neg (by decide +kernel)]
  intro binary found
  have notFound :
      find Store.shellOnly.binaries (bytes "/etc/hostname") = none :=
    Store.shellOnly.find_of_reserved (.inr (.inr (by decide +kernel)))
  rw [notFound] at found
  cases found

/-- A file with one letter has length 0 by its path, 1 by its descriptor. -/
theorem letter_views_differ :
    ¬ ∀ (store : Store) (world : World) (state : State) (path : List UInt8),
      Relation.ReflTransGen (FileStep store fun _ _ => True) State.booted
        state →
      path.length < 160 →
      store.Serves world →
      world.copied 0 144 = true →
      HasFreeFd state →
      ViewsAgree world state path := by
  intro agree
  have run := renameCalls_run (bytes "/b")
  have views :=
    agree Store.shellOnly Store.shellOnly.world (letterMoved (bytes "/b"))
      (bytes "/b") run (by decide +kernel) Store.shellOnly.serves_world rfl
      ⟨4, by decide, by decide, rfl⟩
  have sameSize :=
    (viewsAgree_ramFile_iff (settled_of_run run) Store.shellOnly.serves_world
      rfl ⟨4, by decide, by decide, rfl⟩ (by decide +kernel) (by decide +kernel)
      (show ramFileIndex (letterMoved (bytes "/b")) (bytes "/b") = some 0 by
        decide +kernel)).mp
      views
  exact absurd sameSize (by decide +kernel)

end VibuxOS.Files
