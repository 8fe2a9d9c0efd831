import Mathlib.Tactic.IntervalCases
import VibuxOS.Files.BuiltIn
import VibuxOS.Files.FileViews

namespace VibuxOS.Files

open VibuxOS.Lib

/-!
# Runs of calls on files

A program calls what there is for files, in any order and with any arguments.
Which RAM files there are, under which paths and with which modes, is changed by
few of these calls; every entry after a call is one from before it, one that was
created where nothing built-in is found, or one that was renamed.
-/

variable
  {store : Store}
  {call : FileCall}
  {path : List UInt8}
  {flags : UInt64}

/-! ## Calls and steps -/

/-- The calls on files. -/
inductive FileCall where
  | openPath (world : World) (path : List UInt8) (flags : UInt64)
  | creat (world : World) (path : List UInt8) (mode : UInt64)
  | read (world : World) (fdNumber : Int) (count : Nat)
  | write (world : World) (fdNumber : Int) (count : Nat)
  | writev
      (fdNumber : Int)
      (iov : Nat → Option (World × Nat))
      (iovCount : Nat)
  | pwritev
      (fdNumber : Int)
      (iov : Nat → Option (World × Nat))
      (iovCount : Nat)
  | splice (kernel : World) (fdIn fdOut : Int) (len flags : Nat)
  | copyFileRange (kernel : World) (fdIn fdOut : Int) (len flags : Nat)
  | lseek (world : World) (fdNumber : Int) (offset : UInt64) (whence : Int)
  | fcntl (fdNumber : Int) (command argument : UInt64)
  | dup (fdNumber : Int)
  | dupExact (fdNumber newFd : Int) (cloexec : Bool)
  | close (fdNumber : Int)
  | closeRange (first last flags : Nat)
  | truncate (path : List UInt8) (size : Nat)
  | ftruncate (fdNumber : Int) (size : Nat)
  | rename (old new : List UInt8)
  | unlink (path : List UInt8)
  | chdir (path : List UInt8)
  | fchdir (fdNumber : Int)

/-- A call without its result. -/
def dropResult {α : Type} (program : Sys α) : Sys Unit := do
  let _ ← program
  pure ()

namespace FileCall

def run : FileCall → Sys Unit
  | .openPath world path flags => dropResult (Files.openPath world path flags)
  | .creat world path mode => dropResult (Files.creat world path mode)
  | .read world fdNumber count => dropResult (readFd world fdNumber count)
  | .write world fdNumber count => dropResult (writeFd world fdNumber count)
  | .writev fdNumber iov iovCount =>
      dropResult (Files.writev fdNumber iov iovCount)
  | .pwritev fdNumber iov iovCount =>
      dropResult (Files.pwritev fdNumber iov iovCount)
  | .splice kernel fdIn fdOut len flags =>
      dropResult (Files.splice kernel fdIn fdOut len flags)
  | .copyFileRange kernel fdIn fdOut len flags =>
      dropResult (Files.copyFileRange kernel fdIn fdOut len flags)
  | .lseek world fdNumber offset whence =>
      dropResult (Files.lseek world fdNumber offset whence)
  | .fcntl fdNumber command argument =>
      dropResult (Files.fcntl fdNumber command argument)
  | .dup fdNumber => dropResult (fdDuplicate fdNumber 3 false)
  | .dupExact fdNumber newFd cloexec =>
      dropResult (fdDuplicateExact fdNumber newFd cloexec)
  | .close fdNumber => Files.close fdNumber
  | .closeRange first last flags => Files.closeRange first last flags
  | .truncate path size => ramFileTruncate path size
  | .ftruncate fdNumber size => Files.ftruncate fdNumber size
  | .rename old new => ramFileRename old new
  | .unlink path => ramFileRemove path
  | .chdir path => Files.chdir path
  | .fchdir fdNumber => Files.fchdir fdNumber

def Finds (world : World) : FileCall → Prop
  | .openPath around _ _ => world = around
  | .creat around _ _ => world = around
  | .read around _ _ => world = around
  | .write around _ _ => world = around
  | .writev _ iov _ => ∃ index len, iov index = some (world, len)
  | .pwritev _ iov _ => ∃ index len, iov index = some (world, len)
  | .splice kernel _ _ _ _ => world = kernel
  | .copyFileRange kernel _ _ _ _ => world = kernel
  | .lseek around _ _ _ => world = around
  | _ => False

end FileCall

/-- A path, and the mode of the RAM file that has it. -/
structure RamName where
  used : Bool
  path : List UInt8
  mode : UInt32
  deriving Repr, DecidableEq

/-- A RAM file without its contents. -/
def RamFile.ramName (file : RamFile) : RamName where
  used := file.used
  path := file.path
  mode := file.mode

/-- What the names of files depend on. -/
def nameView (state : State) : (Nat → RamName) × Bool × List UInt8 :=
  (fun index => (state.ramFiles index).ramName, state.initialized, state.cwd)

/--
One call on files that is allowed in the state before it, or any other call.
The other calls leave the names of the RAM files alone, and a directory as the
working directory.
-/
inductive FileStep
    (store : Store)
    (allowed : State → FileCall → Prop) :
    State →
    State →
    Prop
  | call
      {before after : State}
      (call : FileCall)
      (served : ∀ world, call.Finds world → store.Serves world)
      (isAllowed : allowed before call)
      (ended : (call.run before).final? = some after) :
      FileStep store allowed before after
  | elsewhere
      {before after : State}
      (names : (nameView after).1 = (nameView before).1)
      (initialized : after.initialized = true)
      (cwd : isDirectoryPath after.cwd = true) :
      FileStep store allowed before after

/-- Calls one after another, as long as they come to an end. -/
def FileCall.runAll : List FileCall → State → Option State
  | [], state => some state
  | call :: rest, state => (call.run state).final?.bind (runAll rest)

theorem run_of_runAll
    {allowed : State → FileCall → Prop}
    {calls : List FileCall}
    {before after : State}
    (served :
      ∀ call ∈ calls, ∀ world, call.Finds world → store.Serves world)
    (areAllowed : ∀ call ∈ calls, ∀ state, allowed state call)
    (ended : FileCall.runAll calls before = some after) :
    Relation.ReflTransGen (FileStep store allowed) before after := by
  induction calls generalizing before with
  | nil =>
      cases ended
      exact .refl
  | cons call rest inductionHypothesis =>
      obtain ⟨middle, first, others⟩ := Option.bind_eq_some_iff.mp ended
      have step : FileStep store allowed before middle :=
        .call call (served call List.mem_cons_self)
          (areAllowed call List.mem_cons_self before) first
      exact
        .head step
          (inductionHypothesis
            (fun other member => served other (List.mem_cons_of_mem _ member))
            (fun other member =>
              areAllowed other (List.mem_cons_of_mem _ member))
            others)

/-- The first call of all finds the tables as `init` has set them up. -/
def State.booted : State := (init State.new).final?.getD State.new

/-! ## What a call does to the names -/

/-- The modes of files that `open_path` creates. -/
def IsRegular (mode : UInt32) : Prop := mode &&& 0o170000 = 0o100000

/-- Where an entry after a call comes from. -/
inductive EntryFrom
    (store : Store)
    (call : FileCall)
    (before : State)
    (name : RamName) :
    Prop
  | kept
      {index : Nat}
      (same : (before.ramFiles index).ramName = name)
  | created
      (regular : IsRegular name.mode)
      (free : store.contentsOf name.path = none)
  | renamed
      {index : Nat}
      {old : List UInt8}
      (found : ramFileIndex before old = some index)
      (isRename : call = .rename old name.path)
      (fits : name.path.length ≤ 160)
      (sameMode : (before.ramFiles index).mode = name.mode)

/-- What a call can do to the names of RAM files. -/
structure NameChange
    (store : Store)
    (call : FileCall)
    (before after : State) :
    Prop where
  entries :
    ∀ index,
      (after.ramFiles index).used = true →
      EntryFrom store call before (after.ramFiles index).ramName
  initialized : after.initialized = before.initialized
  cwd : after.cwd = before.cwd ∨ isDirectoryPath after.cwd = true

theorem NameChange.of_view
    {before after : State}
    (same : nameView after = nameView before) :
    NameChange store call before after where
  entries := by
    intro index _
    exact .kept (congrFun (congrArg Prod.fst same) index).symm
  initialized := congrArg (fun view => view.2.1) same
  cwd := .inl (congrArg (fun view => view.2.2) same)

theorem NameChange.trans_view
    {before middle after : State}
    (change : NameChange store call before middle)
    (same : nameView after = nameView middle) :
    NameChange store call before after where
  entries := by
    intro index used
    have sameName := congrFun (congrArg Prod.fst same) index
    change (after.ramFiles index).ramName = (middle.ramFiles index).ramName
      at sameName
    rw [sameName]
    apply change.entries index
    rw [← used]
    exact (congrArg RamName.used sameName).symm
  initialized :=
    (congrArg (fun view => view.2.1) same).trans change.initialized
  cwd := by
    have sameCwd : after.cwd = middle.cwd :=
      congrArg (fun view => view.2.2) same
    rw [sameCwd]
    exact change.cwd

/-! ## Calls that leave the names alone -/

theorem ramName_setRamFile
    {state : State}
    {index : Nat}
    {file : RamFile}
    (same : file.ramName = (state.ramFiles index).ramName) :
    nameView (state.setRamFile index file) = nameView state := by
  unfold nameView
  congr 1
  funext other
  by_cases isSame : other = index
  · subst isSame
    rw [ramFiles_setRamFile_self, same]
  · rw [ramFiles_setRamFile_of_ne isSame]

theorem nameView_setFd
    (state : State)
    (index : Nat)
    (fd : Fd) :
    nameView (state.setFd index fd) = nameView state :=
  rfl

theorem unread_nameView (index : Nat) : Unread index nameView where
  eventFd := fun _ _ _ _ => rfl
  timerFd := fun _ _ _ _ => rfl
  terminal := fun _ _ => rfl
  pending := fun _ _ => rfl
  takePipe := fun _ _ _ => rfl
  position := fun _ _ => rfl

theorem unwritten_nameView (index : Nat) : Unwritten index nameView where
  eventFd := fun _ _ _ _ => rfl
  putPipe := fun _ _ _ _ => rfl
  contents := fun _ _ _ _ => ramName_setRamFile rfl
  position := fun _ _ => rfl

theorem preserves_allocFd (fd : Fd) :
    Prog.Preserves nameView (allocFd fd) := by
  apply Prog.Preserves.bind (.of_readOnly (.gets _))
  intro free
  cases free with
  | none => exact .of_readOnly (.fail _)
  | some index => exact .modify_pure (fun state => nameView_setFd state _ _) _

theorem preserves_fdDuplicate
    (oldFd minFd : Int)
    (cloexec : Bool) :
    Prog.Preserves nameView (fdDuplicate oldFd minFd cloexec) := by
  apply Prog.Preserves.ite (.of_readOnly (.fail _))
  apply Prog.Preserves.bind (.of_readOnly (readOnly_fdSnapshot _))
  intro copied
  apply Prog.Preserves.bind (.of_readOnly (.gets _))
  intro free
  cases free with
  | none => exact .of_readOnly (.fail _)
  | some index => exact .modify_pure (fun state => nameView_setFd state _ _) _

theorem preserves_fdDuplicateExact
    (oldFd newFd : Int)
    (cloexec : Bool) :
    Prog.Preserves nameView (fdDuplicateExact oldFd newFd cloexec) := by
  apply Prog.Preserves.ite (.of_readOnly (.fail _))
  apply Prog.Preserves.ite
    (.ite (.of_readOnly (.fail _)) (.of_readOnly (.pure _)))
  apply Prog.Preserves.ite (.of_readOnly (.fail _))
  apply Prog.Preserves.bind (.of_readOnly (readOnly_fdSnapshot _))
  intro copied
  exact .modify_pure (fun state => nameView_setFd state _ _) _

theorem preserves_fcntl
    (fdNumber : Int)
    (command argument : UInt64) :
    Prog.Preserves nameView (fcntl fdNumber command argument) := by
  have duplicated :
      ∀ minFd cloexec,
        Prog.Preserves nameView
          (fdDuplicate fdNumber minFd cloexec >>= fun number =>
            (pure (.fd number) : Sys FcntlAnswer)) :=
    fun minFd cloexec =>
      .bind (preserves_fdDuplicate _ _ _) fun _ => .of_readOnly (.pure _)
  apply Prog.Preserves.bind (.of_readOnly (readOnly_fdSnapshot _))
  intro fd
  apply Prog.Preserves.ite (duplicated _ _)
  apply Prog.Preserves.ite (duplicated _ _)
  apply Prog.Preserves.ite (.of_readOnly (.pure _))
  apply Prog.Preserves.ite
    (.modify_pure (fun state => nameView_setFd state _ _) _)
  apply Prog.Preserves.ite (.of_readOnly (.pure _))
  apply Prog.Preserves.ite
    (.modify_pure (fun state => nameView_setFd state _ _) _)
  exact .ite (.of_readOnly (.pure _)) (.of_readOnly (.fail _))

theorem preserves_ramFileTruncate
    (path : List UInt8)
    (size : Nat) :
    Prog.Preserves nameView (ramFileTruncate path size) := by
  intro seen
  apply @Prog.Ensures.bind _ _ _ _ _ fun looked state =>
    state = looked ∧ nameView looked = seen
  · exact .gets fun _ same => ⟨rfl, same⟩
  intro looked
  have unchanged :
      ∀ state,
        state = looked ∧ nameView looked = seen → nameView state = seen := by
    rintro state ⟨rfl, same⟩
    exact same
  cases ramFileIndex looked path with
  | none => exact .fail unchanged
  | some index =>
      apply Prog.Ensures.ite (fun _ => .fail unchanged)
      intro _
      apply Prog.Ensures.modify
      rintro state ⟨rfl, same⟩
      exact (ramName_setRamFile (by rfl)).trans same

theorem preserves_ramFileOpenFd
    (index : Nat)
    (flags : UInt64) :
    Prog.Preserves nameView (ramFileOpenFd index flags) :=
  .bind (.of_readOnly (.gets _)) fun _ => preserves_allocFd _

theorem preserves_openRamFile
    (index : Nat)
    (flags : UInt64) :
    Prog.Preserves nameView (openRamFile index flags) := by
  apply Prog.Preserves.ite (.of_readOnly (.fail _))
  apply Prog.Preserves.ite
  · apply Prog.Preserves.bind (.modify fun _ => ramName_setRamFile (by rfl))
    exact fun _ => preserves_ramFileOpenFd _ _
  · exact preserves_ramFileOpenFd _ _

/-! ## Calls that change the names -/

/-- Both ways out of a call lead to a change of the names it may make. -/
def ChangesNames
    {α : Type}
    (store : Store)
    (call : FileCall)
    (before : State)
    (program : Sys α) : Prop :=
  Prog.Ensures (fun state => state = before) program
    (fun _ => NameChange store call before) (NameChange store call before)

section Changes

variable
  {store : Store}
  {call : FileCall}
  {before : State}

theorem ChangesNames.of_preserves
    {α : Type}
    {program : Sys α}
    (preserves : Prog.Preserves nameView program) :
    ChangesNames store call before program := by
  rintro state rfl
  exact
    ⟨fun _ _ ended => .of_view (preserves.of_ok ended), fun _ _ ended =>
      .of_view (preserves.of_err ended)⟩

theorem ChangesNames.bind_preserves
    {α γ : Type}
    {first : Sys α}
    {next : α → Sys γ}
    (changes : ChangesNames store call before first)
    (preserves : ∀ value, Prog.Preserves nameView (next value)) :
    ChangesNames store call before (first >>= next) := by
  apply Prog.Ensures.bind changes
  intro value state change
  exact
    ⟨fun _ _ ended => change.trans_view ((preserves value).of_ok ended),
      fun _ _ ended => change.trans_view ((preserves value).of_err ended)⟩

theorem changesNames_dropResult
    {α : Type}
    {program : Sys α}
    (changes : ChangesNames store call before program) :
    ChangesNames store call before (dropResult program) :=
  changes.bind_preserves fun _ => .of_readOnly (.pure _)

theorem nameChange_setRamFile
    {index : Nat}
    {file : RamFile}
    (comes :
      file.used = true → EntryFrom store call before file.ramName) :
    NameChange store call before (before.setRamFile index file) where
  entries := by
    intro other used
    by_cases same : other = index
    · subst same
      rw [ramFiles_setRamFile_self] at used ⊢
      exact comes used
    · rw [ramFiles_setRamFile_of_ne same]
      exact .kept rfl
  initialized := rfl
  cwd := .inl rfl

theorem isRegular_createMode (flags : UInt64) :
    IsRegular (createMode flags) := by
  unfold createMode IsRegular
  dsimp only
  split
  · decide
  · apply UInt32.toBitVec_inj.mp
    apply BitVec.eq_of_getLsbD_eq
    intro position inside
    simp only [UInt32.toBitVec_and, UInt32.toBitVec_or, BitVec.getLsbD_and,
      BitVec.getLsbD_or]
    interval_cases position <;> simp

theorem Store.contentsOf_of_not_found
    {world : World}
    (serves : store.Serves world)
    (noBinary : world.binary path = none)
    (noText : (world.text path).isSome = false) :
    store.contentsOf path = none := by
  rw [serves.binary_eq, Option.map_eq_none_iff] at noBinary
  rw [serves.text, Option.isSome_eq_false_iff, Option.isNone_iff_eq_none]
    at noText
  unfold find at noBinary
  unfold contentsOf
  cases found : store.binaries.find? fun binary => binary.path == path with
  | none => exact noText
  | some binary =>
      dsimp only at noBinary
      rw [found] at noBinary
      cases noBinary

theorem changesNames_ramFileCreate
    (free : store.contentsOf path = none) :
    ChangesNames store call before
      (ramFileCreate path (createMode flags)) := by
  have unchanged :
      ∀ state, state = before → NameChange store call before state := by
    rintro state rfl
    exact .of_view rfl
  apply Prog.Ensures.ite (fun _ => .fail unchanged)
  intro _
  apply Prog.Ensures.gets_bind
  cases unusedRamFile before with
  | none => exact .fail unchanged
  | some index =>
      apply @Prog.Ensures.bind _ _ _ _ _ fun _ =>
        NameChange store call before
      · apply Prog.Ensures.modify
        rintro state rfl
        exact
          nameChange_setRamFile fun _ =>
            .created (isRegular_createMode flags) free
      · exact fun _ => .pure fun _ change => change

theorem changesNames_createRamFile
    (free : store.contentsOf path = none) :
    ChangesNames store call before (createRamFile path flags) := by
  apply Prog.Ensures.ite
  · intro _
    exact
      (changesNames_ramFileCreate free).bind_preserves fun _ =>
        preserves_ramFileOpenFd _ _
  · exact fun _ => ChangesNames.of_preserves (.of_readOnly (.fail _))

/-- `open_path` creates a RAM file only where nothing else is found. -/
theorem changesNames_openPath
    {world : World}
    (initialized : before.initialized = true)
    (serves : store.Serves world) :
    ChangesNames store call before (openPath world path flags) := by
  have allocates :
      ∀ fd, ChangesNames store call before (allocFd fd) :=
    fun fd => .of_preserves (preserves_allocFd fd)
  have refuses :
      ∀ error, ChangesNames store call before (Prog.fail error : Sys Nat) :=
    fun error => .of_preserves (.of_readOnly (.fail error))
  apply @Prog.Ensures.bind _ _ _ _ _ fun _ state => state = before
  · rintro state rfl
    rw [init_of_initialized initialized]
    constructor <;> intro _ _ ended <;> cases ended
    rfl
  intro _
  apply Prog.Ensures.gets_bind
  apply Prog.Ensures.ite
  · exact fun _ => .ite (fun _ => refuses _) fun _ => allocates _
  intro _
  cases devicePath path with
  | some target => exact allocates _
  | none =>
      cases ramFileIndex (id before) path with
      | some index =>
          exact ChangesNames.of_preserves (preserves_openRamFile index flags)
      | none =>
          dsimp only
          cases noBinary : world.binary path with
          | some binary =>
              exact .ite (fun _ => refuses _) fun _ => allocates _
          | none =>
              apply Prog.Ensures.ite
              · exact fun _ => .ite (fun _ => refuses _) fun _ => allocates _
              · intro noText
                exact
                  changesNames_createRamFile
                    (store.contentsOf_of_not_found serves noBinary
                      (Bool.eq_false_iff.mpr noText))

theorem changesNames_ramFileRemove (path : List UInt8) :
    ChangesNames store call before (ramFileRemove path) := by
  apply Prog.Ensures.gets_bind
  cases ramFileIndex before path with
  | none => exact ChangesNames.of_preserves (.of_readOnly (.fail _))
  | some index =>
      apply Prog.Ensures.modify
      rintro state rfl
      exact nameChange_setRamFile fun used => (Bool.false_ne_true used).elim

theorem ramFiles_removeExisting
    (state : State)
    (path : List UInt8)
    (index : Nat) :
    (state.removeExisting path).ramFiles index = state.ramFiles index ∨
      (state.removeExisting path).ramFiles index = RamFile.empty := by
  unfold State.removeExisting
  split
  · rename_i existing _
    by_cases same : index = existing
    · subst same
      exact .inr (ramFiles_setRamFile_self _ _ _)
    · exact .inl (ramFiles_setRamFile_of_ne same)
  · exact .inl rfl

theorem nameChange_removeExisting (path : List UInt8) :
    NameChange store call before (before.removeExisting path) := by
  unfold State.removeExisting
  split
  · exact nameChange_setRamFile fun used => (Bool.false_ne_true used).elim
  · exact .of_view rfl

theorem changesNames_ramFileRename
    (old new : List UInt8) :
    ChangesNames store (.rename old new) before (ramFileRename old new) := by
  apply Prog.Ensures.ite
    (fun _ => ChangesNames.of_preserves (.of_readOnly (.fail _)))
  intro fits
  apply Prog.Ensures.gets_bind
  cases found : ramFileIndex before old with
  | none => exact ChangesNames.of_preserves (.of_readOnly (.fail _))
  | some index =>
      apply @Prog.Ensures.bind _ _ _ _ _ fun _ state =>
        state = before.removeExisting new
      · apply Prog.Ensures.modify
        rintro state rfl
        rfl
      intro _
      apply Prog.Ensures.modify
      rintro state rfl
      have removed :
          NameChange store (.rename old new) before
            (before.removeExisting new) :=
        nameChange_removeExisting new
      refine ⟨?_, removed.initialized, removed.cwd⟩
      intro other used
      by_cases same : other = index
      · subst same
        rw [ramFiles_setRamFile_self] at used ⊢
        -- a file that is renamed to its own path is removed first
        rcases ramFiles_removeExisting before new other with same | removed
        · exact
            .renamed found rfl (Nat.le_of_not_gt fits)
              (congrArg RamFile.mode same).symm
        · have unused := (congrArg RamFile.used removed).symm.trans used
          exact (Bool.false_ne_true unused).elim
      · rw [ramFiles_setRamFile_of_ne same] at used ⊢
        exact removed.entries other used

theorem isDirectoryPath_root : isDirectoryPath (bytes "/") = true := by
  decide +kernel

theorem nameChange_cwd
    (directory : isDirectoryPath path = true) :
    NameChange store call before { before with cwd := path } where
  entries := fun _ _ => .kept rfl
  initialized := rfl
  cwd := .inr directory

theorem changesNames_chdir (path : List UInt8) :
    ChangesNames store call before (chdir path) := by
  apply Prog.Ensures.ite
  · intro directory
    apply Prog.Ensures.modify
    rintro state rfl
    exact nameChange_cwd directory
  · exact fun _ => ChangesNames.of_preserves (.of_readOnly (.fail _))

theorem isDirectoryPath_normalizeFdPath
    {fd : Fd}
    (directory : fdIsDirectory fd = true) :
    isDirectoryPath (normalizeFdPath fd) = true := by
  unfold fdIsDirectory at directory
  unfold normalizeFdPath
  simp only [Bool.and_eq_true, Bool.or_eq_true, beq_iff_eq] at directory
  split
  · exact isDirectoryPath_root
  · exact directory.2.resolve_left ‹_›

theorem changesNames_fchdir (fdNumber : Int) :
    ChangesNames store call before (fchdir fdNumber) := by
  apply ensures_fdSnapshot_bind (.of_view rfl)
  intro _
  apply Prog.Ensures.ite
  · intro directory
    apply Prog.Ensures.modify
    rintro state rfl
    exact nameChange_cwd (isDirectoryPath_normalizeFdPath directory)
  · exact fun _ => ChangesNames.of_preserves (.of_readOnly (.fail _))

theorem preserves_close (fdNumber : Int) :
    Prog.Preserves nameView (close fdNumber) :=
  .bind (.of_readOnly (readOnly_fdSnapshot _)) fun _ =>
    .modify fun state => nameView_setFd state _ _

theorem preserves_closeRange (first last flags : Nat) :
    Prog.Preserves nameView (closeRange first last flags) :=
  .ite (.of_readOnly (.fail _)) (.modify fun _ => rfl)

theorem preserves_ftruncate
    (fdNumber : Int)
    (size : Nat) :
    Prog.Preserves nameView (ftruncate fdNumber size) := by
  apply Prog.Preserves.bind (.of_readOnly (readOnly_fdSnapshot _))
  intro fd
  exact .ite (preserves_ramFileTruncate _ _) (.of_readOnly (.fail _))

theorem changesNames_run
    (initialized : before.initialized = true)
    (served : ∀ world, call.Finds world → store.Serves world) :
    ChangesNames store call before call.run := by
  have reads := fun world (fdNumber : Int) count =>
    preserves_readFd (unread_nameView fdNumber.toNat) world count
  have writes := fun world (fdNumber : Int) count =>
    preserves_writeFd (unwritten_nameView fdNumber.toNat) world count
  cases call with
  | openPath world path flags =>
      exact
        changesNames_dropResult
          (changesNames_openPath initialized (served world rfl))
  | creat world path mode =>
      exact
        changesNames_dropResult
          (changesNames_openPath initialized (served world rfl))
  | read world fdNumber count =>
      exact changesNames_dropResult (.of_preserves (reads world fdNumber count))
  | write world fdNumber count =>
      exact
        changesNames_dropResult (.of_preserves (writes world fdNumber count))
  | writev fdNumber iov iovCount =>
      exact
        changesNames_dropResult
          (.of_preserves fun seen =>
            keeps_writev (fun world count => writes world fdNumber count seen)
              iov iovCount)
  | pwritev fdNumber iov iovCount =>
      exact
        changesNames_dropResult
          (.of_preserves fun seen =>
            keeps_pwritev (fun world count => writes world fdNumber count seen)
              iov iovCount)
  | splice kernel fdIn fdOut len flags =>
      exact
        changesNames_dropResult
          (.of_preserves fun seen =>
            keeps_splice (fun world count => reads world fdIn count seen)
              (fun world count => writes world fdOut count seen) kernel len
              flags)
  | copyFileRange kernel fdIn fdOut len flags =>
      exact
        changesNames_dropResult
          (.of_preserves fun seen =>
            keeps_copyFileRange (fun world count => reads world fdIn count seen)
              (fun world count => writes world fdOut count seen) kernel len
              flags)
  | lseek world fdNumber offset whence =>
      exact
        changesNames_dropResult
          (.of_preserves (preserves_lseek (fun _ _ => rfl) _ _ _))
  | fcntl fdNumber command argument =>
      exact changesNames_dropResult (.of_preserves (preserves_fcntl _ _ _))
  | dup fdNumber =>
      exact
        changesNames_dropResult (.of_preserves (preserves_fdDuplicate _ _ _))
  | dupExact fdNumber newFd cloexec =>
      exact
        changesNames_dropResult
          (.of_preserves (preserves_fdDuplicateExact _ _ _))
  | close fdNumber => exact .of_preserves (preserves_close _)
  | closeRange first last flags =>
      exact .of_preserves (preserves_closeRange _ _ _)
  | truncate path size => exact .of_preserves (preserves_ramFileTruncate _ _)
  | ftruncate fdNumber size => exact .of_preserves (preserves_ftruncate _ _)
  | rename old new => exact changesNames_ramFileRename old new
  | unlink path => exact changesNames_ramFileRemove path
  | chdir path => exact changesNames_chdir path
  | fchdir fdNumber => exact changesNames_fchdir fdNumber

end Changes

/-! ## What holds in every state -/

/-- The tables are set up, and the names are as `open_path` makes them. -/
structure Settled (state : State) : Prop where
  initialized : state.initialized = true
  cwd : isDirectoryPath state.cwd = true
  regular :
    ∀ index,
      (state.ramFiles index).used = true →
      IsRegular (state.ramFiles index).mode

theorem settled_booted : Settled State.booted where
  initialized := rfl
  cwd := by decide +kernel
  regular := fun _ used => (Bool.false_ne_true used).elim

theorem EntryFrom.regular
    {before : State}
    {name : RamName}
    (used : name.used = true)
    (settled : Settled before)
    (origin : EntryFrom store call before name) :
    IsRegular name.mode := by
  cases origin with
  | kept same =>
      subst same
      exact settled.regular _ used
  | created regular _ => exact regular
  | renamed found _ _ sameMode =>
      rw [← sameMode]
      exact settled.regular _ (ramFileIndex_used found).1

theorem nameChange_of_ended
    {before after : State}
    (settled : Settled before)
    (served : ∀ world, call.Finds world → store.Serves world)
    (ended : (call.run before).final? = some after) :
    NameChange store call before after :=
  (changesNames_run settled.initialized served).final rfl ended

theorem settled_step
    {allowed : State → FileCall → Prop}
    {before after : State}
    (step : FileStep store allowed before after)
    (settled : Settled before) :
    Settled after := by
  cases step with
  | call call served isAllowed ended =>
      have change := nameChange_of_ended settled served ended
      refine ⟨change.initialized.trans settled.initialized, ?_, ?_⟩
      · rcases change.cwd with same | directory
        · rw [same]
          exact settled.cwd
        · exact directory
      · intro index used
        exact (change.entries index used).regular used settled
  | elsewhere names initialized cwd =>
      refine ⟨initialized, cwd, ?_⟩
      intro index used
      have same := congrFun names index
      have wasUsed : (before.ramFiles index).used = true :=
        (congrArg RamName.used same).symm.trans used
      have sameMode :
          (after.ramFiles index).mode = (before.ramFiles index).mode :=
        congrArg RamName.mode same
      rw [sameMode]
      exact settled.regular index wasUsed

end VibuxOS.Files
