import VibuxOS.Files.FileCalls
import VibuxOS.Files.Opening

namespace VibuxOS.Files

open VibuxOS.Lib

/-!
# The calls that open a file

`open`, `openat`, `openat2` and `creat` all end in `open_path`, which has one
argument for flags and modes.  `open` hands it the mode.  What `open_path` has
done to a RAM file stays when there is no descriptor left.
-/

variable
  {index : Nat}
  {path : List UInt8}
  {flags : UInt64}
  {world : World}

/-- `AT_FDCWD`, as the register that holds it -/
def atFdcwd : UInt64 := 0xffffffffffffff9c

/-- The system calls that share the arm of `open`. -/
inductive OpenNumber where
  | open
  | openat
  deriving Repr, DecidableEq

section Calls

variable
  (world : World)
  (readPath : UInt64 → Except Errno (List UInt8))

/--
The arm of `open` and `openat` in the table of system calls; `readPath` is
`read_c_string` into a buffer of 160 bytes.
-/
def openArm
    (number : OpenNumber)
    (rdi rsi rdx : UInt64) :
    Sys Nat :=
  let pathAddress := if number = .open then rdi else rsi
  let flags := if number = .open then rsi else rdx
  match readPath pathAddress with
  | .ok path => openPath world path (if number = .open then rdx else flags)
  | .error code => Prog.fail code

/--
`openat2_impl`; `copyHow` is `copy_user_in` of the 24 bytes of a
`struct open_how`.  The path that it cuts at the first zero byte of its buffer
is the one that `read_c_string` has found.
-/
def openat2
    (copyHow : UInt64 → Except Errno (Nat → UInt8))
    (pathPtr howPtr : UInt64) :
    Sys Nat :=
  match readPath pathPtr with
  | .error _ => Prog.fail .efault
  | .ok path =>
      if howPtr = 0 then
        openPath world path 0
      else
        match copyHow howPtr with
        | .error _ => Prog.fail .efault
        | .ok how => openPath world path (getU64 how 0)

/-- The arm of `creat` in the table of system calls, with its path. -/
def creatArm (rdi rsi : UInt64) : Sys Nat :=
  match readPath rdi with
  | .ok path => creat world path rsi
  | .error code => Prog.fail code

end Calls

/-- The bytes of a `struct open_how`. -/
def openHow (flags mode resolve : UInt64) : Nat → UInt8 :=
  record (fun _ => 0) [⟨0, 8, flags⟩, ⟨8, 8, mode⟩, ⟨16, 8, resolve⟩]

/-! ## What `open_path` refuses -/

def RefusesDirectory (flags : UInt64) : Prop :=
  flags &&& Syscall.oWronly ≠ 0 ∧ flags &&& Syscall.oRdwr = 0

def RefusesExisting (flags : UInt64) : Prop :=
  flags &&& oExcl ≠ 0 ∧ flags &&& oCreat ≠ 0

def Truncates (flags : UInt64) : Prop :=
  flags &&& oTrunc ≠ 0 ∧ opensWritable flags = true

def RefusesBinary (flags : UInt64) : Prop :=
  opensWritable flags = true ∧ flags &&& oTrunc ≠ 0

def RefusesText (flags : UInt64) : Prop :=
  opensWritable flags = true

def RefusesMissing (flags : UInt64) : Prop :=
  flags &&& oCreat = 0

instance (flags : UInt64) : Decidable (RefusesDirectory flags) :=
  inferInstanceAs (Decidable (_ ∧ _))

instance (flags : UInt64) : Decidable (RefusesExisting flags) :=
  inferInstanceAs (Decidable (_ ∧ _))

instance (flags : UInt64) : Decidable (Truncates flags) :=
  inferInstanceAs (Decidable (_ ∧ _))

instance (flags : UInt64) : Decidable (RefusesBinary flags) :=
  inferInstanceAs (Decidable (_ ∧ _))

instance (flags : UInt64) : Decidable (RefusesText flags) :=
  inferInstanceAs (Decidable (_ = _))

instance (flags : UInt64) : Decidable (RefusesMissing flags) :=
  inferInstanceAs (Decidable (_ = _))

/-- No RAM file can be made under a path. -/
def NoRoom (state : State) (path : List UInt8) : Prop :=
  path = [] ∨ path.length > 160 ∨ unusedRamFile state = none

/-- Two words of flags that are both refused, or that both fail later. -/
def BothFail
    (refuses : UInt64 → Prop)
    (later : Prop)
    (first second : UInt64) : Prop :=
  refuses first ∧ refuses second ∨
    later ∧ ¬ refuses first ∧ ¬ refuses second

/--
With two words of flags `open_path` fails in the same way: what it finds under
the path refuses both, or takes both and there is no descriptor left, and then
both have done the same to the RAM files.
-/
def FailAlike
    (world : World)
    (state : State)
    (path : List UInt8)
    (first second : UInt64) : Prop :=
  let noFd := freeFd state.fds = none
  if isDirectory path then
    BothFail RefusesDirectory noFd first second
  else
    match devicePath path with
    | some _ => noFd
    | none =>
        match ramFileIndex state path with
        | some index =>
            BothFail RefusesExisting
              (noFd ∧
                ((Truncates first ↔ Truncates second) ∨
                  (state.ramFiles index).len = 0))
              first second
        | none =>
            match world.binary path with
            | some _ => BothFail RefusesBinary noFd first second
            | none =>
                if (world.text path).isSome then
                  BothFail RefusesText noFd first second
                else
                  BothFail RefusesMissing
                    (NoRoom state path ∨
                      noFd ∧ createMode first = createMode second)
                    first second

/-! ## Branches of `open_path` -/

/-- The state after `init`. -/
def State.started (state : State) : State :=
  if state.initialized then
    state
  else
    { state with
      initialized := true
      fds := fun index => if index < 3 then stdFd index else state.fds index
      cwd := ascii ['/', 'h', 'o', 'm', 'e', '/', 'b', 'o', 'i'] }

section Branches

variable
  {state : State}
  {first second : UInt64}

theorem started_initialized :
    state.started.initialized = true := by
  unfold State.started
  split
  · assumption
  · rfl

theorem ramFiles_started :
    state.started.ramFiles = state.ramFiles := by
  unfold State.started
  split <;> rfl

theorem freeFd_started :
    freeFd state.started.fds = freeFd state.fds := by
  unfold State.started
  split
  · rfl
  · apply List.find?_congr
    intro index inTable
    rw [List.mem_range'_1] at inTable
    have past : ¬ index < 3 := by omega
    dsimp only
    rw [if_neg past]

theorem openPath_started
    (world : World)
    (path : List UInt8)
    (flags : UInt64) :
    openPath world path flags state =
      openPath world path flags state.started := by
  have starts : init state = .ok () state.started := rfl
  unfold openPath
  rw [Prog.bind_of_ok starts,
    Prog.bind_of_ok (init_of_initialized started_initialized)]

theorem guarded_eq_iff
    {refuses : UInt64 → Prop}
    [DecidablePred refuses]
    {error : Errno}
    {opens : UInt64 → Outcome State Errno Nat}
    {later : Prop}
    (otherError : ∀ flags final, opens flags ≠ .err error final)
    (opensAlike : opens first = opens second ↔ first = second ∨ later) :
    (if refuses first then .err error state else opens first) =
        (if refuses second then .err error state else opens second) ↔
      first = second ∨ BothFail refuses later first second := by
  unfold BothFail
  by_cases refusesFirst : refuses first
  · by_cases refusesSecond : refuses second
    · simp [refusesFirst, refusesSecond]
    · rw [if_pos refusesFirst, if_neg refusesSecond]
      constructor
      · intro same
        exact (otherError second state same.symm).elim
      · rintro (rfl | ⟨_, both⟩ | ⟨_, neither, _⟩)
        · exact (refusesSecond refusesFirst).elim
        · exact (refusesSecond both).elim
        · exact (neither refusesFirst).elim
  · by_cases refusesSecond : refuses second
    · rw [if_neg refusesFirst, if_pos refusesSecond]
      constructor
      · intro same
        exact (otherError first state same).elim
      · rintro (rfl | ⟨both, _⟩ | ⟨_, _, neither⟩)
        · exact (refusesFirst refusesSecond).elim
        · exact (refusesFirst both).elim
        · exact (neither refusesSecond).elim
    · simp [refusesFirst, refusesSecond, opensAlike]

theorem allocFd_prepared_eq_iff
    {prepare : UInt64 → State}
    (sameFds : ∀ flags, (prepare flags).fds = state.fds)
    (kind : FileKind)
    (path : List UInt8) :
    allocFd (opened kind first path) (prepare first) =
        allocFd (opened kind second path) (prepare second) ↔
      first = second ∨
        freeFd state.fds = none ∧ prepare first = prepare second := by
  cases free : freeFd state.fds with
  | none =>
      rw [allocFd_of_full (by rw [sameFds, free]),
        allocFd_of_full (by rw [sameFds, free])]
      constructor
      · intro same
        injection same with _ prepared
        exact .inr ⟨rfl, prepared⟩
      · rintro (rfl | ⟨_, prepared⟩)
        · rfl
        · rw [prepared]
  | some index =>
      rw [allocFd_of_free (by rw [sameFds, free]),
        allocFd_of_free (by rw [sameFds, free])]
      constructor
      · intro same
        injection same with _ sameState
        have sameFlags := congrArg (fun state => (state.fds index).flags) sameState
        simp only [fds_setFd_self] at sameFlags
        exact .inl sameFlags
      · rintro (rfl | ⟨full, _⟩)
        · rfl
        · cases full

theorem allocFd_error
    {fd : Fd}
    {error : Errno}
    {final : State}
    (failed : allocFd fd state = .err error final) :
    error = .emfile ∧ final = state ∧ freeFd state.fds = none := by
  cases free : freeFd state.fds with
  | none =>
      rw [allocFd_of_full free] at failed
      cases failed
      exact ⟨rfl, rfl, rfl⟩
  | some index =>
      rw [allocFd_of_free free] at failed
      cases failed

theorem allocFd_opened_eq_iff
    (kind : FileKind)
    (path : List UInt8) :
    allocFd (opened kind first path) state =
        allocFd (opened kind second path) state ↔
      first = second ∨ freeFd state.fds = none := by
  rw [allocFd_prepared_eq_iff (fun _ => rfl)]
  simp

/-! ### RAM files -/

/-- The RAM files once an existing one is opened. -/
def State.cutFor
    (index : Nat)
    (flags : UInt64)
    (state : State) :
    State :=
  if Truncates flags then
    state.setRamFile index { state.ramFiles index with len := 0 }
  else
    state

theorem fds_cutFor
    (index : Nat)
    (flags : UInt64) :
    (state.cutFor index flags).fds = state.fds := by
  unfold State.cutFor
  split <;> rfl

theorem cutFor_eq_iff :
    state.cutFor index first = state.cutFor index second ↔
      (Truncates first ↔ Truncates second) ∨
        (state.ramFiles index).len = 0 := by
  have cutIs :
      state.setRamFile index { state.ramFiles index with len := 0 } = state ↔
        (state.ramFiles index).len = 0 := by
    constructor
    · intro same
      have lens := congrArg (fun state => (state.ramFiles index).len) same
      simp only [ramFiles_setRamFile_self] at lens
      exact lens.symm
    · intro empty
      unfold State.setRamFile
      rw [← empty, Function.update_eq_self]
  unfold State.cutFor
  by_cases cutsFirst : Truncates first
  · by_cases cutsSecond : Truncates second
    · simp [cutsFirst, cutsSecond]
    · simp [cutsFirst, cutsSecond, cutIs]
  · by_cases cutsSecond : Truncates second
    · rw [if_neg cutsFirst, if_pos cutsSecond, eq_comm, cutIs]
      simp [cutsFirst, cutsSecond]
    · simp [cutsFirst, cutsSecond]

theorem openRamFile_eq
    (found : ramFileIndex state path = some index) :
    openRamFile index flags state =
      if RefusesExisting flags then
        .err .eexist state
      else
        allocFd (opened .ramFile flags path) (state.cutFor index flags) := by
  have isPath := (ramFileIndex_used found).2
  unfold openRamFile ramFileOpenFd
  by_cases refused : RefusesExisting flags
  · rw [if_pos refused, if_pos (show _ ∧ _ from refused)]
    rfl
  · rw [if_neg refused, if_neg (show ¬ (_ ∧ _) from refused)]
    unfold State.cutFor
    by_cases cuts : Truncates flags
    · rw [if_pos cuts, if_pos (show _ ∧ _ from cuts), Prog.modify_bind_apply,
        Prog.gets_bind_apply, ramFiles_setRamFile_self, isPath]
    · rw [if_neg cuts, if_neg (show ¬ (_ ∧ _) from cuts), Prog.gets_bind_apply,
        isPath]

theorem openRamFile_eq_iff
    (found : ramFileIndex state path = some index) :
    openRamFile index first state = openRamFile index second state ↔
      first = second ∨
        BothFail RefusesExisting
          (freeFd state.fds = none ∧
            ((Truncates first ↔ Truncates second) ∨
              (state.ramFiles index).len = 0))
          first second := by
  rw [openRamFile_eq found, openRamFile_eq found]
  apply guarded_eq_iff
  · intro flags final failed
    cases (allocFd_error failed).1
  · rw [allocFd_prepared_eq_iff (fds_cutFor index), cutFor_eq_iff]

/-! ### New files -/

/-- The RAM files once one is made at an index. -/
def State.madeFor
    (index : Nat)
    (path : List UInt8)
    (flags : UInt64)
    (state : State) :
    State :=
  state.setRamFile index
    { RamFile.empty with used := true, mode := createMode flags, path := path }

theorem madeFor_eq_iff :
    state.madeFor index path first = state.madeFor index path second ↔
      createMode first = createMode second := by
  unfold State.madeFor
  constructor
  · intro same
    have modes := congrArg (fun state => (state.ramFiles index).mode) same
    simp only [ramFiles_setRamFile_self] at modes
    exact modes
  · intro sameMode
    rw [sameMode]

theorem createRamFile_of_room
    (fit : ¬ (path = [] ∨ path.length > 160))
    (unused : unusedRamFile state = some index) :
    createRamFile path flags state =
      if RefusesMissing flags then
        .err .enoent state
      else
        allocFd (opened .ramFile flags path)
          (state.madeFor index path flags) := by
  have created := ramFileCreate_of_fit fit (createMode flags) state
  rw [unused] at created
  unfold createRamFile
  by_cases refused : RefusesMissing flags
  · rw [if_pos refused, if_neg (show ¬ (_ ≠ _) from not_not.mpr refused)]
    rfl
  · rw [if_neg refused, if_pos (show _ ≠ _ from refused),
      Prog.bind_of_ok created]
    unfold ramFileOpenFd
    rw [Prog.gets_bind_apply, ramFiles_setRamFile_self]
    rfl

theorem createRamFile_of_noRoom
    (noRoom : NoRoom state path) :
    createRamFile path flags state =
      if RefusesMissing flags then
        .err .enoent state
      else
        .err .enospc state := by
  have refused :
      ramFileCreate path (createMode flags) state = .err .enospc state := by
    by_cases unfit : path = [] ∨ path.length > 160
    · unfold ramFileCreate
      rw [if_pos unfit]
      rfl
    · have full : unusedRamFile state = none := by
        unfold NoRoom at noRoom
        tauto
      rw [ramFileCreate_of_fit unfit, full]
  unfold createRamFile
  by_cases unasked : RefusesMissing flags
  · rw [if_pos unasked, if_neg (show ¬ (_ ≠ _) from not_not.mpr unasked)]
    rfl
  · rw [if_neg unasked, if_pos (show _ ≠ _ from unasked),
      Prog.bind_of_err refused]

theorem createRamFile_eq_iff :
    createRamFile path first state = createRamFile path second state ↔
      first = second ∨
        BothFail RefusesMissing
          (NoRoom state path ∨
            freeFd state.fds = none ∧ createMode first = createMode second)
          first second := by
  by_cases noRoom : NoRoom state path
  · rw [createRamFile_of_noRoom noRoom, createRamFile_of_noRoom noRoom]
    apply
      @guarded_eq_iff state first second RefusesMissing _ .enoent
        fun _ => .err .enospc state
    · intro flags final failed
      cases failed
    · simp [noRoom]
  · have fit : ¬ (path = [] ∨ path.length > 160) := by
      unfold NoRoom at noRoom
      tauto
    have room : unusedRamFile state ≠ none := by
      unfold NoRoom at noRoom
      tauto
    obtain ⟨index, unused⟩ := Option.ne_none_iff_exists'.mp room
    rw [createRamFile_of_room fit unused, createRamFile_of_room fit unused]
    apply guarded_eq_iff
    · intro flags final failed
      cases (allocFd_error failed).1
    · have sameFds :
          ∀ flags, (state.madeFor index path flags).fds = state.fds :=
        fun _ => rfl
      rw [allocFd_prepared_eq_iff sameFds, madeFor_eq_iff]
      simp [noRoom]

/-! ### The whole call -/

section

variable (initialized : state.initialized = true)

include initialized

theorem openPath_directory
    (directory : isDirectory path = true) :
    openPath world path flags state =
      if RefusesDirectory flags then
        .err .eisdir state
      else
        allocFd (opened .text flags ((openedDirectory state path).take 160))
          state := by
  unfold openPath
  rw [Prog.bind_of_ok (init_of_initialized initialized), Prog.gets_bind_apply,
    if_pos directory]
  by_cases refused : RefusesDirectory flags
  · rw [if_pos refused, if_pos (show _ ∧ _ from refused)]
    rfl
  · rw [if_neg refused, if_neg (show ¬ (_ ∧ _) from refused)]
    rfl

section

variable
  (noDirectory : isDirectory path = false)
  (noDevice : devicePath path = none)
  (missing : ramFileIndex state path = none)

include noDirectory noDevice missing

theorem openPath_binary
    {binary : Binary}
    (found : world.binary path = some binary) :
    openPath world path flags state =
      if RefusesBinary flags then
        .err .erofs state
      else
        allocFd (opened .binary flags (binary.path.take 160)) state := by
  rw [openPath_of_plain initialized noDirectory noDevice, missing]
  dsimp only
  rw [found]
  dsimp only
  by_cases refused : RefusesBinary flags
  · rw [if_pos refused, if_pos (show _ ∧ _ from refused)]
    rfl
  · rw [if_neg refused, if_neg (show ¬ (_ ∧ _) from refused)]

theorem openPath_text
    (noBinary : world.binary path = none)
    (isText : (world.text path).isSome = true) :
    openPath world path flags state =
      if RefusesText flags then
        .err .erofs state
      else
        allocFd (opened .text flags (path.take 160)) state := by
  rw [openPath_of_plain initialized noDirectory noDevice, missing]
  dsimp only
  rw [noBinary]
  dsimp only
  rw [if_pos isText]
  by_cases refused : RefusesText flags
  · rw [if_pos refused, if_pos (show _ = _ from refused)]
    rfl
  · rw [if_neg refused, if_neg (show ¬ (_ = _) from refused)]

theorem openPath_new
    (noBinary : world.binary path = none)
    (noText : ¬ (world.text path).isSome = true) :
    openPath world path flags state = createRamFile path flags state := by
  rw [openPath_of_plain initialized noDirectory noDevice, missing]
  dsimp only
  rw [noBinary]
  dsimp only
  rw [if_neg noText]

end

theorem openPath_ram
    (noDirectory : isDirectory path = false)
    (noDevice : devicePath path = none)
    (found : ramFileIndex state path = some index) :
    openPath world path flags state = openRamFile index flags state := by
  rw [openPath_of_plain initialized noDirectory noDevice, found]

end

theorem openPath_eq_iff_of_initialized
    (world : World)
    (path : List UInt8)
    (initialized : state.initialized = true) :
    openPath world path first state = openPath world path second state ↔
      first = second ∨ FailAlike world state path first second := by
  have refusedOr
      (error : Errno)
      (other : error ≠ .emfile)
      (kind : FileKind)
      (stored : List UInt8)
      (flags : UInt64)
      (final : State) :
      allocFd (opened kind flags stored) state ≠ .err error final := by
    intro failed
    exact other (allocFd_error failed).1
  unfold FailAlike
  dsimp only
  by_cases directory : isDirectory path = true
  · rw [if_pos directory, openPath_directory initialized directory,
      openPath_directory initialized directory]
    apply guarded_eq_iff
    · exact refusedOr _ (by decide) _ _
    · exact allocFd_opened_eq_iff _ _
  rw [if_neg directory]
  rw [Bool.not_eq_true] at directory
  cases device : devicePath path with
  | some target =>
      obtain ⟨kind, stored⟩ := target
      rw [openPath_of_device initialized directory device,
        openPath_of_device initialized directory device]
      exact allocFd_opened_eq_iff _ _
  | none =>
      dsimp only
      cases found : ramFileIndex state path with
      | some index =>
          rw [openPath_ram initialized directory device found,
            openPath_ram initialized directory device found]
          exact openRamFile_eq_iff found
      | none =>
          dsimp only
          cases isBinary : world.binary path with
          | some binary =>
              rw [openPath_binary initialized directory device found isBinary,
                openPath_binary initialized directory device found isBinary]
              apply guarded_eq_iff
              · exact refusedOr _ (by decide) _ _
              · exact allocFd_opened_eq_iff _ _
          | none =>
              dsimp only
              by_cases isText : (world.text path).isSome = true
              · rw [if_pos isText,
                  openPath_text initialized directory device found isBinary
                    isText,
                  openPath_text initialized directory device found isBinary
                    isText]
                apply guarded_eq_iff
                · exact refusedOr _ (by decide) _ _
                · exact allocFd_opened_eq_iff _ _
              · rw [if_neg isText,
                  openPath_new initialized directory device found isBinary
                    isText,
                  openPath_new initialized directory device found isBinary
                    isText]
                exact createRamFile_eq_iff

theorem ramFileIndex_started
    (path : List UInt8) :
    ramFileIndex state.started path = ramFileIndex state path := by
  unfold ramFileIndex
  rw [ramFiles_started]

theorem failAlike_started
    (world : World)
    (path : List UInt8) :
    FailAlike world state.started path first second ↔
      FailAlike world state path first second := by
  have sameRoom : NoRoom state.started path ↔ NoRoom state path := by
    unfold NoRoom unusedRamFile
    rw [ramFiles_started]
  unfold FailAlike
  rw [freeFd_started, ramFileIndex_started, ramFiles_started]
  simp only [sameRoom]

theorem openPath_eq_iff
    (world : World)
    (path : List UInt8) :
    openPath world path first state = openPath world path second state ↔
      first = second ∨ FailAlike world state path first second := by
  rw [openPath_started, @openPath_started state world path second,
    openPath_eq_iff_of_initialized world path started_initialized,
    failAlike_started]

end Branches

/-! ## The four calls -/

/-- The flags that `creat` opens with. -/
def creatFlags (mode : UInt64) : UInt64 :=
  oCreat ||| Syscall.oWronly ||| oTrunc ||| mode &&& 0o777

/-- The four calls do the same with a path, flags and a mode. -/
structure OpeningsAgree
    (world : World)
    (readPath : UInt64 → Except Errno (List UInt8))
    (copyHow : UInt64 → Except Errno (Nat → UInt8))
    (state : State)
    (address howPtr flags mode : UInt64) : Prop where
  openat :
    openArm world readPath .open address flags mode state =
      openArm world readPath .openat atFdcwd address flags state
  openat2 :
    openat2 world readPath copyHow address howPtr state =
      openArm world readPath .openat atFdcwd address flags state
  creat :
    creatArm world readPath address mode state =
      openArm world readPath .open address
        (oCreat ||| Syscall.oWronly ||| oTrunc) mode state

/--
The path cannot be read because it is not mapped, or the mode can stand for the
flags: it is the same word or fails alike, and so it is for the flags of
`creat`.
-/
def ModeWillDo
    (world : World)
    (state : State)
    (flags mode : UInt64) :
    Except Errno (List UInt8) → Prop
  | .error code => code = .efault
  | .ok path =>
      (mode = flags ∨ FailAlike world state path mode flags) ∧
        (creatFlags mode = mode ∨
          FailAlike world state path (creatFlags mode) mode)

theorem flags_openHow
    (flags mode resolve : UInt64) :
    getU64 (openHow flags mode resolve) 0 = flags :=
  getU64_record (by simp [Field.Apart]) List.mem_cons_self

/-- The four calls agree exactly when the mode can stand for the flags. -/
theorem openings_agree_iff
    {world : World}
    {readPath : UInt64 → Except Errno (List UInt8)}
    {copyHow : UInt64 → Except Errno (Nat → UInt8)}
    {state : State}
    {address howPtr flags mode : UInt64}
    (given : howPtr ≠ 0)
    (how : copyHow howPtr = .ok (openHow flags mode 0)) :
    OpeningsAgree world readPath copyHow state address howPtr flags mode ↔
      ModeWillDo world state flags mode (readPath address) := by
  have opens :
      ∀ path,
        readPath address = .ok path →
        openArm world readPath .open address flags mode =
            openPath world path mode ∧
          openArm world readPath .openat atFdcwd address flags =
            openPath world path flags ∧
          openat2 world readPath copyHow address howPtr =
            openPath world path flags ∧
          creatArm world readPath address mode =
            openPath world path (creatFlags mode) ∧
          openArm world readPath .open address
              (oCreat ||| Syscall.oWronly ||| oTrunc) mode =
            openPath world path mode := by
    intro path isPath
    simp only [openArm, openat2, creatArm, if_true, reduceCtorEq, if_false,
      isPath, given, how, flags_openHow]
    exact ⟨trivial, trivial, trivial, rfl, trivial⟩
  cases isPath : readPath address with
  | error code =>
      have refused :
          openat2 world readPath copyHow address howPtr state =
            .err .efault state := by
        simp only [openat2, isPath, Prog.fail_apply]
      have fails :
          openArm world readPath .openat atFdcwd address flags state =
            .err code state := by
        simp only [openArm, reduceCtorEq, if_false, isPath, Prog.fail_apply]
      constructor
      · intro agree
        have same := agree.openat2
        rw [refused, fails] at same
        injection same with sameCode
        exact sameCode.symm
      · rintro rfl
        refine ⟨?_, refused.trans fails.symm, ?_⟩
        · rw [fails]
          simp only [openArm, if_true, isPath, Prog.fail_apply]
        · simp only [creatArm, openArm, if_true, isPath]
  | ok path =>
      obtain ⟨isOpen, isOpenat, isOpenat2, isCreat, isPlain⟩ :=
        opens path isPath
      unfold ModeWillDo
      dsimp only
      rw [← openPath_eq_iff world path, ← openPath_eq_iff world path]
      constructor
      · intro agree
        have same := agree.openat
        have sameCreat := agree.creat
        rw [isOpen, isOpenat] at same
        rw [isCreat, isPlain] at sameCreat
        exact ⟨same, sameCreat⟩
      · rintro ⟨same, sameCreat⟩
        constructor
        · rw [isOpen, isOpenat, same]
        · rw [isOpenat2, isOpenat]
        · rw [isCreat, isPlain, sameCreat]

/-- A mode that has the bits of the flags. -/
theorem openings_agree_same :
    OpeningsAgree World.idle (fun _ => .ok (bytes "/a"))
      (fun _ => .ok (openHow 0o1101 0o1101 0)) State.new 4096 8192 0o1101
      0o1101 :=
  (openings_agree_iff (by decide) rfl).mpr
    ⟨.inl rfl, .inl (by decide)⟩

/-- `open` takes the mode 0644 for its flags, and finds no `O_CREAT` in it. -/
theorem openings_differ :
    ¬ OpeningsAgree World.idle (fun _ => .ok (bytes "/a"))
      (fun _ => .ok (openHow 0x41 0o644 0)) State.new 4096 8192 0x41
      0o644 := by
  intro agree
  have opens :
      (openArm World.idle (fun _ => .ok (bytes "/a")) .open 4096 0x41 0o644
          State.new).error? =
        some .enoent := by
    decide +kernel
  have creates :
      (openArm World.idle (fun _ => .ok (bytes "/a")) .openat atFdcwd 4096
          0x41 State.new).error? =
        none := by
    decide +kernel
  rw [agree.openat, creates] at opens
  cases opens

/-! ## Failing opens -/

/-- The path, the mode and the content that a used entry of `RAM_FILES` shows. -/
def shownFile
    (state : State)
    (index : Nat) :
    Option (List UInt8 × UInt32 × List UInt8) :=
  if (state.ramFiles index).used then
    some
      ((state.ramFiles index).path, (state.ramFiles index).mode,
        window (state.ramFiles index).data 0 (state.ramFiles index).len)
  else
    none

/-- The descriptors and what the RAM files show are as before. -/
structure Unchanged (state final : State) : Prop where
  fds : final.fds = state.fds
  files : shownFile final = shownFile state

theorem Unchanged.refl (state : State) : Unchanged state state := ⟨rfl, rfl⟩

/--
What `open_path` has done before it finds no descriptor: it has cut a RAM file
that was not empty, or made a new one.
-/
def LeavesTraces
    (world : World)
    (state : State)
    (path : List UInt8)
    (flags : UInt64) : Prop :=
  isDirectory path = false ∧
    devicePath path = none ∧
    freeFd state.fds = none ∧
    ((∃ index,
        ramFileIndex state path = some index ∧
          ¬ RefusesExisting flags ∧
          Truncates flags ∧
          (state.ramFiles index).len ≠ 0) ∨
      ramFileIndex state path = none ∧
        world.binary path = none ∧
        (world.text path).isSome = false ∧
        ¬ RefusesMissing flags ∧
        ¬ NoRoom state path)

section Failing

variable
  {state : State}
  {path : List UInt8}
  {flags : UInt64}

/-- Every failure of a call leaves things as they were. -/
def FailsUnchanged
    (state : State)
    (outcome : Outcome State Errno Nat) : Prop :=
  ∀ error final,
    outcome = .err error final →
    Unchanged state final

theorem FailsUnchanged.err
    (error : Errno) :
    FailsUnchanged state (.err error state) := by
  intro _ _ failed
  cases failed
  exact .refl _

theorem FailsUnchanged.allocFd
    (fd : Fd) :
    FailsUnchanged state (allocFd fd state) := by
  intro _ _ failed
  rw [(allocFd_error failed).2.1]
  exact .refl _

theorem FailsUnchanged.guarded
    {refuses : Prop}
    [Decidable refuses]
    (error : Errno)
    (fd : Fd) :
    FailsUnchanged state
      (if refuses then .err error state else Files.allocFd fd state) := by
  split
  · exact .err error
  · exact .allocFd fd

theorem failsUnchanged_prepared_iff
    {prepared : State}
    (sameFds : prepared.fds = state.fds)
    (fd : Fd) :
    FailsUnchanged state (allocFd fd prepared) ↔
      (freeFd state.fds = none → shownFile prepared = shownFile state) := by
  constructor
  · intro unchanged full
    have failed : allocFd fd prepared = .err .emfile prepared :=
      allocFd_of_full (by rw [sameFds, full]) fd
    exact (unchanged _ _ failed).files
  · intro sameFiles error final failed
    obtain ⟨_, rfl, full⟩ := allocFd_error failed
    rw [sameFds] at full
    exact ⟨sameFds, sameFiles full⟩

theorem shownFile_cutFor_iff
    (used : (state.ramFiles index).used = true) :
    shownFile (state.cutFor index flags) = shownFile state ↔
      ¬ (Truncates flags ∧ (state.ramFiles index).len ≠ 0) := by
  unfold State.cutFor
  by_cases cuts : Truncates flags
  · rw [if_pos cuts]
    constructor
    · rintro same ⟨_, notEmpty⟩
      have shown := congrFun same index
      unfold shownFile at shown
      rw [ramFiles_setRamFile_self, if_pos used, if_pos used] at shown
      have lengths := congrArg (Option.map fun file => file.2.2.length) shown
      simp only [Option.map_some, length_window] at lengths
      exact notEmpty (Option.some.inj lengths).symm
    · intro notBoth
      have empty : (state.ramFiles index).len = 0 := by
        by_contra notEmpty
        exact notBoth ⟨cuts, notEmpty⟩
      have same :
          state.setRamFile index { state.ramFiles index with len := 0 } =
            state := by
        unfold State.setRamFile
        rw [← empty, Function.update_eq_self]
      rw [same]
  · rw [if_neg cuts]
    exact iff_of_true rfl fun both => cuts both.1

theorem shownFile_madeFor
    (unused : (state.ramFiles index).used = false) :
    shownFile (state.madeFor index path flags) ≠ shownFile state := by
  intro same
  have shown := congrFun same index
  unfold shownFile State.madeFor at shown
  rw [ramFiles_setRamFile_self, if_pos rfl, unused] at shown
  cases shown

theorem failsUnchanged_openRamFile_iff
    (found : ramFileIndex state path = some index) :
    FailsUnchanged state (openRamFile index flags state) ↔
      (freeFd state.fds = none →
        ¬ (¬ RefusesExisting flags ∧
          Truncates flags ∧
          (state.ramFiles index).len ≠ 0)) := by
  rw [openRamFile_eq found]
  by_cases refused : RefusesExisting flags
  · rw [if_pos refused]
    exact iff_of_true (.err _) fun _ both => both.1 refused
  · rw [if_neg refused, failsUnchanged_prepared_iff (fds_cutFor index flags),
      shownFile_cutFor_iff (ramFileIndex_used found).1]
    simp only [refused, not_false_eq_true, true_and]

theorem failsUnchanged_createRamFile_iff :
    FailsUnchanged state (createRamFile path flags state) ↔
      (freeFd state.fds = none →
        ¬ (¬ RefusesMissing flags ∧ ¬ NoRoom state path)) := by
  by_cases noRoom : NoRoom state path
  · rw [createRamFile_of_noRoom noRoom]
    refine iff_of_true ?_ fun _ both => both.2 noRoom
    split <;> exact .err _
  · have fit : ¬ (path = [] ∨ path.length > 160) := by
      unfold NoRoom at noRoom
      tauto
    have room : unusedRamFile state ≠ none := by
      unfold NoRoom at noRoom
      tauto
    obtain ⟨index, unused⟩ := Option.ne_none_iff_exists'.mp room
    have isUnused : (state.ramFiles index).used = false := by
      simpa using List.find?_some unused
    rw [createRamFile_of_room fit unused]
    by_cases refused : RefusesMissing flags
    · rw [if_pos refused]
      exact iff_of_true (.err _) fun _ both => both.1 refused
    · have sameFds : (state.madeFor index path flags).fds = state.fds := rfl
      rw [if_neg refused, failsUnchanged_prepared_iff sameFds]
      simp only [shownFile_madeFor isUnused, refused, noRoom,
        not_false_eq_true, and_self, not_true_eq_false]

/--
A failing `open_path` changes nothing exactly when there is a descriptor left,
or nothing to cut or to make before one is taken.  Every system call runs `init`
before anything else.
-/
theorem failing_open_unchanged_iff
    {world : World}
    (initialized : state.initialized = true) :
    FailsUnchanged state (openPath world path flags state) ↔
      ¬ LeavesTraces world state path flags := by
  unfold LeavesTraces
  by_cases directory : isDirectory path = true
  · rw [openPath_directory initialized directory]
    exact iff_of_true (.guarded _ _) fun traces => by simp [directory] at traces
  rw [Bool.not_eq_true] at directory
  cases device : devicePath path with
  | some target =>
      obtain ⟨kind, stored⟩ := target
      rw [openPath_of_device initialized directory device]
      exact iff_of_true (.allocFd _) fun traces => by cases traces.2.1
  | none =>
      cases found : ramFileIndex state path with
      | some index =>
          rw [openPath_ram initialized directory device found,
            failsUnchanged_openRamFile_iff found]
          simp [directory]
      | none =>
          cases isBinary : world.binary path with
          | some binary =>
              rw [openPath_binary initialized directory device found isBinary]
              exact iff_of_true (.guarded _ _) (by simp)
          | none =>
              by_cases isText : (world.text path).isSome = true
              · rw [openPath_text initialized directory device found isBinary
                  isText]
                exact iff_of_true (.guarded _ _) (by simp [isText])
              · rw [openPath_new initialized directory device found isBinary
                  isText, failsUnchanged_createRamFile_iff]
                rw [Bool.not_eq_true] at isText
                simp [directory, isText]

end Failing

/-- A process that has opened `/dev/null` as often as it can. -/
def fullState : State :=
  { State.new with
    initialized := true
    fds := fun _ => opened .null Syscall.oRdwr [] }

theorem failing_open_unchanged_missing :
    FailsUnchanged fullState (openPath World.idle (bytes "/a") 0 fullState) := by
  apply (failing_open_unchanged_iff rfl).mpr
  rintro ⟨_, _, _, ⟨index, found, _⟩ | ⟨_, _, _, asked, _⟩⟩
  · cases found
  · exact asked rfl

/-- There is no descriptor for the new file, and the file is there. -/
theorem failing_open_creates :
    fullState.initialized = true ∧
      ¬ FailsUnchanged fullState
        (openPath World.idle (bytes "/a") oCreat fullState) := by
  refine ⟨rfl, ?_⟩
  intro unchanged
  have files := (unchanged .emfile _ rfl).files
  have isUsed := congrArg Option.isSome (congrFun files 0)
  revert isUsed
  decide +kernel

end VibuxOS.Files
