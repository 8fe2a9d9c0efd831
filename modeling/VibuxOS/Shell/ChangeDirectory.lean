import VibuxOS.Commands.CoreUtils
import VibuxOS.Shell.PathLimits

namespace VibuxOS.Shell

open VibuxOS.Lib VibuxOS.Storage.Vfs VibuxOS.Commands

/-!
# `cd`

The shell keeps its directory twice: as an inode, from which the commands resolve
their arguments, and as a path, which `cd` extends and resolves from the root.
-/

variable
  {stack : List (List UInt8)}
  {out : List UInt8}
  {inode : Nat}
  {cwd : Cwd}
  {input : List UInt8}

/-- `cwd_inode` and `cwd_path` up to `cwd_len` -/
structure Cwd where
  inode : Nat
  path : List UInt8
  deriving Repr, DecidableEq

def statKind (inode : Nat) : Fs Nat := do
  let record ← readInode inode
  pure record.kind

/-- The text of `report_fs_error` -/
def fsErrorText : FsError → String
  | .offline => "filesystem offline"
  | .io => "I/O error"
  | .invalid => "invalid path or filesystem"
  | .notFound => "no such file or directory"
  | .exists => "file or directory already exists"
  | .notDir => "not a directory"
  | .isDir => "is a directory"
  | .notEmpty => "directory not empty"
  | .permission => "permission denied"
  | .noSpace => "no space left on device"
  | .tooLarge => "file too large"

def reportFsError (error : FsError) : List Output :=
  [.line (fsErrorText error)]

/-- `/home/boi`, where `cd` goes without an argument. -/
def homePath : List UInt8 :=
  [47, 104, 111, 109, 101, 47, 98, 111, 105]

/-- The target of `cmd_cd`; the command itself is the first argument. -/
def target (arguments : List (List UInt8)) : List UInt8 :=
  if arguments.length < 2 then homePath else arguments.getD 1 []

/-- `cmd_cd`, with what it writes -/
def cmdCd
    (arguments : List (List UInt8))
    (cwd : Cwd) :
    Prog Disk Empty (Cwd × List Output) := do
  let normalized := normalizePath cwd.path (target arguments)
  match ← Prog.attempt (resolve normalized rootInode) with
  | .ok inode =>
      match ← Prog.attempt (statKind inode) with
      | .ok kind =>
          if kind = 2 then
            pure
              ({ inode := inode
                 path := normalized }, [])
          else
            pure (cwd, [.line "cd: not a directory"])
      | .error error => pure (cwd, reportFsError error)
  | .error error => pure (cwd, reportFsError error)

/-- A path that is absolute, with single slashes and without `.` and `..`. -/
def IsNormal (path : List UInt8) : Prop :=
  ∃ stack,
    Shows stack path ∧ ∀ part ∈ stack, part ≠ dot ∧ part ≠ dotDot

/-- The path of the shell leads to its inode. -/
structure InStep (disk : Disk) (cwd : Cwd) : Prop where
  normal : IsNormal cwd.path
  resolves : resolve cwd.path rootInode disk = .ok cwd.inode disk

def startStack (cwd input : List UInt8) : List (List UInt8) :=
  if input.head? = some slash then [] else components cwd

/-- The path buffer is long enough for an input. -/
def Fits (cwd input : List UInt8) : Prop :=
  Lasts (startStack cwd input) (components input)

/-! ## Components of a buffer -/

theorem isComponent_of_mem
    {path part : List UInt8}
    (member : part ∈ components path) :
    IsComponent part := by
  -- The induction takes components off as the loop does; its buffer is not used.
  obtain ⟨out⟩ : Nonempty (List UInt8) := ⟨[]⟩
  induction path, out using normalizeFrom.induct with
  | case1 path _ rest isEnd =>
      rw [← components_dropWhile,
        show path.dropWhile (· = slash) = [] from isEnd] at member
      cases member
  | case2 path _ rest more inductionHypothesis =>
      rw [← components_dropWhile path,
        components_takeWhile (path.dropWhile (· = slash))] at member
      rcases List.mem_append.mp member with isFirst | isLater
      · by_cases stays :
            rest.takeWhile (· ≠ slash) = [] ∨
              rest.takeWhile (· ≠ slash) = dot
        · rw [components_of_stay stays] at isFirst
          cases isFirst
        · obtain ⟨nonempty, notDot⟩ := not_or.mp stays
          rw [components_of_not_mem (slash_not_mem_takeWhile _) nonempty
            notDot, List.mem_singleton] at isFirst
          rw [isFirst]
          exact ⟨⟨nonempty, slash_not_mem_takeWhile _⟩, notDot⟩
      · exact inductionHypothesis isLater

theorem components_closedPath
    (parts : ∀ part ∈ stack, IsPart part) :
    components (closedPath stack) = stack.filter (· ≠ dot) := by
  induction stack using List.reverseRecOn with
  | nil =>
      rfl
  | append_singleton before last inductionHypothesis =>
      obtain ⟨nonempty, noSlash⟩ := parts last (by simp)
      have earlier :=
        inductionHypothesis (fun part member => parts part (by simp [member]))
      rw [closedPath_append, closedPath_singleton, components_append,
        earlier, List.filter_append]
      congr 1
      by_cases isDot : last = dot
      · rw [components_of_stay (.inr isDot), isDot]
        rfl
      · rw [components_of_not_mem noSlash nonempty isDot]
        simp [isDot]

theorem Shows.components
    (shown : Shows stack out) :
    components out = stack.filter (· ≠ dot) := by
  rw [← components_closedPath shown.parts]
  rcases shown.bytes with ⟨_, closed⟩ | opened
  · rw [closed]
  · rw [opened, components_append]
    exact List.append_nil _

theorem Shows.head
    (shown : Shows stack out) :
    out.head? = some slash := by
  cases stack with
  | nil =>
      rcases shown.bytes with ⟨nonempty, _⟩ | opened
      · exact (nonempty rfl).elim
      · rw [opened]
        rfl
  | cons first rest =>
      rcases shown.bytes with ⟨_, closed⟩ | opened
      · rw [closed]
        rfl
      · rw [opened]
        rfl

theorem resolve_eq
    {path : List UInt8}
    (nonempty : path ≠ [])
    (cwd : Nat) :
    resolve path cwd =
      resolveParts (components path) (walkStart path cwd) := by
  by_cases isSlash : path = [slash]
  · subst isSlash
    rfl
  · exact resolveWith_eq nonempty isSlash cwd

theorem Shows.resolve
    (shown : Shows stack out) :
    resolve out rootInode =
      resolveParts (stack.filter (· ≠ dot)) rootInode := by
  have head := shown.head
  have nonempty : out ≠ [] := by
    rintro rfl
    cases head
  rw [resolve_eq nonempty, walkStart, if_pos head, shown.components]

theorem filter_names
    (names : ∀ part ∈ stack, part ≠ dot) :
    stack.filter (· ≠ dot) = stack := by
  rw [List.filter_eq_self]
  intro part member
  simpa using names part member

/-! ## An astray buffer -/

variable {disk : Disk}

/-- A buffer that is astray leads somewhere else. -/
theorem Astray.resolve_ne
    (tree : TreeInvariant disk.inode)
    (astray : Astray stack out)
    (names : ∀ part ∈ stack, part ≠ dot ∧ part ≠ dotDot)
    (reached : resolveParts stack rootInode disk = .ok inode disk) :
    resolve out rootInode disk ≠ .ok inode disk := by
  intro resolved
  have deep : Deep disk.inode inode (0 + stack.length) :=
    Deep.root.walk_names tree (fun part member => (names part member).2)
      reached
  rw [Nat.zero_add] at deep
  rcases astray with cut | ⟨held, shown, shorter⟩
  · obtain ⟨room, tooLong, shown⟩ := cut
    rename_i before part
    have beforeNames : ∀ other ∈ before, other ≠ dot :=
      fun other member => (names other (by simp [member])).1
    rw [shown.resolve, List.filter_append, filter_names beforeNames]
      at resolved
    rw [List.length_append, List.length_singleton] at deep
    obtain ⟨middle, walked, entered⟩ :=
      resolveParts_append_eq_ok.mp resolved
    have middleDeep : Deep disk.inode middle (0 + before.length) :=
      Deep.root.walk_names tree
        (fun other member => (names other (by simp [member])).2) walked
    rw [Nat.zero_add] at middleDeep
    by_cases isDot : piece before part = dot
    · rw [isDot] at entered
      cases entered
      exact Nat.succ_ne_self _ (deep.unique middleDeep)
    have single :
        [piece before part].filter (· ≠ dot) = [piece before part] := by
      simp [isDot]
    rw [single] at entered
    have step := resolveParts_singleton.mp entered
    by_cases isUp : piece before part = dotDot
    · rw [isUp] at step
      obtain ⟨above, bound, aboveDeep⟩ := middleDeep.up tree step
      have same := deep.unique aboveDeep
      omega
    · have pieceName := (tree.child_of_resolvePart isUp step).2
      obtain ⟨directory, _, last⟩ :=
        resolveParts_append_eq_ok.mp reached
      have partName :=
        (tree.child_of_resolvePart (names part (by simp)).2
          (resolveParts_singleton.mp last)).2
      have sameLength : (piece before part).length = part.length := by
        rw [← pieceName, partName]
      simp only [piece, List.length_take, closedPath_append,
        closedPath_singleton, List.length_append, List.length_cons]
        at sameLength tooLong
      omega
  · rw [shown.resolve] at resolved
    obtain ⟨depth, bound, alsoDeep⟩ := Deep.root.walk tree resolved
    have same := deep.unique alsoDeep
    have fewer := List.length_filter_le (fun part => part ≠ dot) held
    omega

/-! ## One input -/

/-- A stack and the inode that it leads to, as the buffer shows it. -/
structure StartsAt
    (disk : Disk)
    (stack : List (List UInt8))
    (out : List UInt8)
    (inode : Nat) : Prop where
  shown : Shows stack out
  names : ∀ part ∈ stack, part ≠ dot ∧ part ≠ dotDot
  reached : resolveParts stack rootInode disk = .ok inode disk

theorem startsAt_root
    (disk : Disk) :
    StartsAt disk [] [slash] rootInode where
  shown := shows_root
  names := fun _ member => nomatch member
  reached := rfl

theorem InStep.startsAt
    (inStep : InStep disk cwd) :
    StartsAt disk (components cwd.path) cwd.path cwd.inode := by
  obtain ⟨stack, shown, names⟩ := inStep.normal
  have onlyNames : components cwd.path = stack := by
    rw [shown.components,
      filter_names (fun part member => (names part member).1)]
  rw [onlyNames]
  refine ⟨shown, names, ?_⟩
  rw [← inStep.resolves, shown.resolve,
    filter_names (fun part member => (names part member).1)]

theorem StartsAt.climbed
    (starts : StartsAt disk stack out inode)
    (input : List UInt8) :
    ∀ part ∈ climb stack (components input),
      part ≠ dot ∧ part ≠ dotDot :=
  forall_climb starts.names
    fun _ member isName => ⟨(isComponent_of_mem member).2, isName⟩

theorem InStep.exists_start
    (inStep : InStep disk cwd)
    (nonempty : input ≠ []) :
    ∃ out inode,
      StartsAt disk (startStack cwd.path input) out inode ∧
        resolve input cwd.inode = resolveParts (components input) inode ∧
        (written out (components input) ≠ [] →
          normalizePath cwd.path input =
            written out (components input)) := by
  rw [resolve_eq nonempty]
  unfold startStack walkStart normalizePath
  rw [normalizeFrom_eq]
  by_cases isAbsolute : input.head? = some slash
  · rw [if_pos isAbsolute, if_pos isAbsolute, if_pos isAbsolute]
    exact ⟨[slash], rootInode, startsAt_root disk, rfl,
      fun someBytes => if_neg someBytes⟩
  · rw [if_neg isAbsolute, if_neg isAbsolute, if_neg isAbsolute]
    have starts := inStep.startsAt
    rw [List.take_of_length_le starts.shown.short]
    exact ⟨cwd.path, cwd.inode, starts, rfl,
      fun someBytes => if_neg someBytes⟩

theorem written_ne_nil
    (known : Shows stack out ∨ Astray stack out) :
    out ≠ [] := by
  have someShown : ∃ held, Shows held out := by
    rcases known with shown | cut | ⟨held, shown, _⟩
    · exact ⟨_, shown⟩
    · obtain ⟨_, _, shown⟩ := cut
      exact ⟨_, shown⟩
    · exact ⟨held, shown⟩
  obtain ⟨held, shown⟩ := someShown
  rintro rfl
  cases shown.head

theorem isNormal_of_fits
    (inStep : InStep disk cwd)
    (nonempty : input ≠ [])
    (fits : Fits cwd.path input) :
    IsNormal (normalizePath cwd.path input) := by
  obtain ⟨out, inode, starts, _, normalized⟩ :=
    inStep.exists_start nonempty
  have shown :=
    Lasts.shows fits starts.shown fun _ member => isComponent_of_mem member
  rw [normalized (written_ne_nil (.inl shown))]
  exact ⟨_, shown, starts.climbed input⟩

theorem resolve_normalizePath_iff
    (tree : TreeInvariant disk.inode)
    (inStep : InStep disk cwd)
    (nonempty : input ≠ [])
    (resolved : resolve input cwd.inode disk = .ok inode disk) :
    resolve (normalizePath cwd.path input) rootInode disk =
        .ok inode disk ↔
      Fits cwd.path input := by
  obtain ⟨out, start, starts, walks, normalized⟩ :=
    inStep.exists_start nonempty
  rw [walks] at resolved
  have names := starts.climbed input
  have climbed :=
    tree.resolve_climb (fun part member => (starts.names part member).2)
      starts.reached resolved
  have components : ∀ part ∈ components input, IsComponent part :=
    fun _ member => isComponent_of_mem member
  constructor
  · intro same
    rcases lasts_or_astray starts.shown components with fits | astray
    · exact fits
    · rw [normalized (written_ne_nil (.inr astray))] at same
      exact (astray.resolve_ne tree names climbed same).elim
  · intro fits
    have shown := Lasts.shows fits starts.shown components
    rw [normalized (written_ne_nil (.inl shown)), shown.resolve,
      filter_names (fun part member => (names part member).1)]
    exact climbed

/-! ## Runs of `cd` -/

theorem cmdCd_eq_ok
    {arguments : List (List UInt8)}
    {before after : Cwd}
    {final : Disk}
    (entered : cmdCd arguments before disk = .ok (after, []) final) :
    after.path = normalizePath before.path (target arguments) ∧
      resolve (normalizePath before.path (target arguments)) rootInode
          disk =
        .ok after.inode disk := by
  unfold cmdCd at entered
  obtain ⟨resolved, middle, first, later⟩ := Prog.bind_eq_ok.mp entered
  cases outcome :
      resolve (normalizePath before.path (target arguments)) rootInode
        disk with
  | ok inode reached =>
      obtain rfl := (resolveWith_readOnly _ _).1 outcome
      rw [Prog.attempt_of_ok outcome] at first
      cases first
      obtain ⟨stat, behind, second, last⟩ := Prog.bind_eq_ok.mp later
      cases stat with
      | ok kind =>
          dsimp only at last
          split at last
          · cases last
            exact ⟨rfl, rfl⟩
          · cases last
      | error error =>
          cases last
  | err error reached =>
      rw [Prog.attempt_of_err outcome] at first
      cases first
      cases later
  | hang =>
      rw [Prog.attempt_of_hang outcome] at first
      cases first

/-- A `cd` that reports no error and whose argument fits. -/
def Enters (disk : Disk) (before after : Cwd) : Prop :=
  ∃ arguments,
    target arguments ≠ [] ∧
      Fits before.path (target arguments) ∧
      cmdCd arguments before disk = .ok (after, []) disk

theorem Enters.inStep
    {before after : Cwd}
    (enters : Enters disk before after)
    (inStep : InStep disk before) :
    InStep disk after := by
  obtain ⟨arguments, nonempty, fits, entered⟩ := enters
  obtain ⟨path, resolved⟩ := cmdCd_eq_ok entered
  refine ⟨?_, ?_⟩
  · rw [path]
    exact isNormal_of_fits inStep nonempty fits
  · rw [path]
    exact resolved

/--
The normalized path leads where the input leads exactly if the input fits into the
path buffer; and a run of `cd` whose arguments fit keeps path and inode in step, so
that the next `cd` enters the directory that its argument names exactly if it fits.
-/
theorem cd_inStep_iff
    (tree : TreeInvariant disk.inode) :
    (∀ cwd input inode,
      InStep disk cwd →
      input ≠ [] →
      resolve input cwd.inode disk = .ok inode disk →
      (resolve (normalizePath cwd.path input) rootInode disk =
          .ok inode disk ↔
        Fits cwd.path input)) ∧
      ∀ initial reached,
        InStep disk initial →
        Relation.ReflTransGen (Enters disk) initial reached →
        InStep disk reached ∧
          ∀ arguments after inode,
            target arguments ≠ [] →
            cmdCd arguments reached disk = .ok (after, []) disk →
            resolve (target arguments) reached.inode disk =
              .ok inode disk →
            (after.inode = inode ↔
              Fits reached.path (target arguments)) := by
  have oneInput :
      ∀ cwd input inode,
        InStep disk cwd →
        input ≠ [] →
        resolve input cwd.inode disk = .ok inode disk →
        (resolve (normalizePath cwd.path input) rootInode disk =
            .ok inode disk ↔
          Fits cwd.path input) :=
    fun _ _ _ inStep nonempty resolved =>
      resolve_normalizePath_iff tree inStep nonempty resolved
  refine ⟨oneInput, ?_⟩
  intro initial reached inStep run
  have reachedInStep : InStep disk reached :=
    invariant_of_run (InStep disk)
      (fun _ _ enters holds => enters.inStep holds) run inStep
  refine ⟨reachedInStep, ?_⟩
  intro arguments after inode nonempty entered named
  rw [← oneInput reached _ inode reachedInStep nonempty named,
    (cmdCd_eq_ok entered).2]
  constructor
  · rintro rfl
    rfl
  · intro same
    cases same
    rfl

/-! ## A sample disk -/

/-- The longest name that an inode holds. -/
def longName : List UInt8 := List.replicate 56 97

/-- The first bytes of `longName` that still fit behind four of them. -/
def shortName : List UInt8 := List.replicate 27 97

/-- A directory of the sample disk. -/
def directoryRecord
    (parent firstChild nextSibling : Nat)
    (name : List UInt8) :
    Inode :=
  { Inode.zero with
    kind := 2
    mode := 0o755
    parent := parent
    firstChild := firstChild
    nextSibling := nextSibling
    name := storedName name }

/-- Five long names below each other, and a short one beside the last. -/
def towerSlots : List Inode :=
  [Inode.zero,
    directoryRecord 0 2 0 [slash],
    directoryRecord 1 3 0 longName,
    directoryRecord 2 4 0 longName,
    directoryRecord 3 5 0 longName,
    directoryRecord 4 6 0 longName,
    directoryRecord 5 0 7 longName,
    directoryRecord 5 0 0 shortName]

/-- The sample disk. -/
def tower : Disk where
  inode := fun slot => towerSlots.getD slot Inode.zero
  bytes := fun _ => 0

theorem tower_outside
    {slot : Nat}
    (outside : 8 ≤ slot) :
    tower.inode slot = Inode.zero :=
  List.getD_eq_default _ _ outside

theorem inside_of_used
    {slot : Nat}
    (used : Used tower.inode slot) :
    1 ≤ slot ∧ slot < 8 := by
  refine ⟨used.1.1, ?_⟩
  by_contra outside
  exact used.2 (by rw [tower_outside (Nat.not_lt.mp outside)]; rfl)

/-- The entries of a directory of the sample disk. -/
def towerCells (directory : Nat) : List Nat :=
  if directory = 5 then
    [6, 7]
  else if 1 ≤ directory ∧ directory < 5 then
    [directory + 1]
  else
    []

theorem treeInvariant_tower : TreeInvariant tower.inode where
  rootDirectory := rfl
  rootParent := rfl
  rootSibling := rfl
  freeZero := by
    intro slot isSlot isFree
    by_cases inside : slot < 8
    · have used : ∀ slot < 8, 1 ≤ slot → (tower.inode slot).kind ≠ 0 := by
        decide
      exact (used slot inside isSlot.1 isFree).elim
    · exact tower_outside (Nat.not_lt.mp inside)
  childless := by
    intro slot isSlot isFile
    by_cases inside : slot < 8
    · have directory :
          ∀ slot < 8, 1 ≤ slot → (tower.inode slot).kind = 2 := by
        decide
      exact (isFile (directory slot inside isSlot.1)).elim
    · rw [tower_outside (Nat.not_lt.mp inside)]
      rfl
  parentDirectory := by
    intro slot used notRoot
    obtain ⟨lower, upper⟩ := inside_of_used used
    have parents :
        ∀ slot < 8, 1 ≤ slot → slot ≠ rootInode →
          IsSlot (tower.inode slot).parent ∧
            (tower.inode (tower.inode slot).parent).kind = 2 := by
      decide
    exact parents slot upper lower notRoot
  children := by
    intro directory isSlot
    refine ⟨towerCells directory, ?_, ?_⟩
    · by_cases inside : directory < 8
      · have lower := isSlot.1
        interval_cases directory
        · exact ⟨rfl, by decide, rfl⟩
        · exact ⟨rfl, by decide, rfl⟩
        · exact ⟨rfl, by decide, rfl⟩
        · exact ⟨rfl, by decide, rfl⟩
        · exact ⟨rfl, by decide, rfl, by decide, rfl⟩
        · rfl
        · rfl
      · rw [tower_outside (Nat.not_lt.mp inside), towerCells,
          if_neg (by omega), if_neg (by omega)]
        rfl
    · have entries :
          ∀ slot < 8, 1 ≤ slot → slot ≠ rootInode →
            slot ∈ towerCells (tower.inode slot).parent := by
        decide
      have cells :
          ∀ directory < 6, ∀ slot ∈ towerCells directory,
            (IsSlot slot ∧ (tower.inode slot).kind ≠ 0) ∧
              slot ≠ rootInode ∧
              (tower.inode slot).parent = directory := by
        decide
      intro slot
      constructor
      · intro member
        by_cases inside : directory < 6
        · exact cells directory inside slot member
        · rw [towerCells, if_neg (by omega), if_neg (by omega)] at member
          cases member
      · rintro ⟨used, notRoot, rfl⟩
        obtain ⟨lower, upper⟩ := inside_of_used used
        exact entries slot upper lower notRoot
  reachesRoot := by
    intro slot used
    obtain ⟨lower, upper⟩ := inside_of_used used
    interval_cases slot
    · exact .root
    · exact .up .root
    · exact .up (.up .root)
    · exact .up (.up (.up .root))
    · exact .up (.up (.up (.up .root)))
    · exact .up (.up (.up (.up (.up .root))))
    · exact .up (.up (.up (.up (.up .root))))

/-- The shell at the root. -/
def atRoot : Cwd where
  inode := rootInode
  path := [slash]

/-- The shell in the fourth directory of the sample disk. -/
def inTower : Cwd where
  inode := 5
  path := closedPath (List.replicate 4 longName)

theorem isPart_longName : IsPart longName :=
  ⟨by decide, by decide⟩

theorem inStep_atRoot : InStep tower atRoot where
  normal := ⟨[], shows_root, fun _ member => nomatch member⟩
  resolves := rfl

theorem length_inTower :
    (closedPath (List.replicate 4 longName)).length = 228 := by
  have one : longName.length = 56 := List.length_replicate
  simp only [closedPath, List.flatMap_replicate, List.length_flatten,
    List.map_replicate, List.length_cons, one]
  rfl

theorem shows_inTower : Shows (List.replicate 4 longName) inTower.path where
  parts := by
    intro part member
    rw [List.eq_of_mem_replicate member]
    exact isPart_longName
  short := by
    rw [inTower, length_inTower]
    decide
  bytes := .inl ⟨by decide, rfl⟩

theorem names_inTower :
    ∀ part ∈ List.replicate 4 longName, part ≠ dot ∧ part ≠ dotDot := by
  intro part member
  rw [List.eq_of_mem_replicate member]
  exact ⟨by decide, by decide⟩

theorem resolve_inTower :
    resolve inTower.path rootInode tower = .ok 5 tower := by
  rw [shows_inTower.resolve,
    filter_names (fun part member => (names_inTower part member).1)]
  rfl

theorem inStep_inTower : InStep tower inTower where
  normal := ⟨_, shows_inTower, names_inTower⟩
  resolves := resolve_inTower

theorem components_longName : components longName = [longName] :=
  components_of_not_mem isPart_longName.2 isPart_longName.1 (by decide)

theorem resolve_longName
    (cwd : Nat) :
    resolve longName cwd = resolveParts [longName] cwd := by
  rw [resolve_eq isPart_longName.1, components_longName]
  rfl


theorem piece_longName :
    piece (List.replicate 4 longName) longName = shortName := by
  rw [piece, length_inTower, longName, List.take_replicate]
  rfl

theorem resolve_fifth :
    resolve (normalizePath inTower.path longName) rootInode tower =
      .ok 7 tower := by
  have shown :=
    shows_inTower.cutOff isPart_longName (by decide) (by decide)
      (by rw [length_inTower]; decide)
  rw [piece_longName] at shown
  have whole :
      normalizePath inTower.path longName =
        normalizePart longName inTower.path := by
    have relative : longName.head? ≠ some slash := by decide
    rw [normalizePath, normalizeFrom_eq, components_longName,
      if_neg relative, List.take_of_length_le shows_inTower.short,
      List.foldl_cons, List.foldl_nil,
      if_neg (written_ne_nil (.inl shown))]
  rw [whole, shown.resolve]
  rfl

/-- The word `cd`. -/
def cdWord : List UInt8 :=
  [99, 100]

/-- `cd` with a long name at the root. -/
theorem cd_inStep_first :
    ∃ path,
      Relation.ReflTransGen (Enters tower) atRoot ⟨2, path⟩ ∧
        InStep tower ⟨2, path⟩ := by
  have follows := cd_inStep_iff treeInvariant_tower
  have named : resolve longName atRoot.inode tower = .ok 2 tower := by
    rw [resolve_longName]
    rfl
  have fits : Fits atRoot.path longName := by
    rw [Fits, components_longName]
    exact .enters (by decide) (by decide) .done
  have normalized :=
    (follows.1 atRoot longName 2 inStep_atRoot isPart_longName.1
      named).mpr fits
  have entered :
      cmdCd [cdWord, longName] atRoot tower =
        .ok (⟨2, normalizePath atRoot.path longName⟩, []) tower := by
    rw [cmdCd, show target [cdWord, longName] = longName from rfl,
      Prog.bind_of_ok (Prog.attempt_of_ok normalized)]
    rfl
  have run :
      Relation.ReflTransGen (Enters tower) atRoot
        ⟨2, normalizePath atRoot.path longName⟩ :=
    .single ⟨[cdWord, longName], isPart_longName.1, fits, entered⟩
  exact ⟨_, run, (follows.2 atRoot _ inStep_atRoot run).1⟩

/-- The fifth `cd` enters the directory with the short name. -/
theorem cd_enters_another :
    TreeInvariant tower.inode ∧
      InStep tower inTower ∧
      resolve longName inTower.inode tower = .ok 6 tower ∧
      resolve (normalizePath inTower.path longName) rootInode tower ≠
        .ok 6 tower ∧
      cmdCd [cdWord, longName] inTower tower =
        .ok (⟨7, normalizePath inTower.path longName⟩, []) tower := by
  refine ⟨treeInvariant_tower, inStep_inTower, ?_, ?_, ?_⟩
  · rw [resolve_longName]
    rfl
  · rw [resolve_fifth]
    intro same
    injection same with sameInode
    cases sameInode
  · rw [cmdCd, show target [cdWord, longName] = longName from rfl,
      Prog.bind_of_ok (Prog.attempt_of_ok resolve_fifth)]
    rfl

end VibuxOS.Shell
