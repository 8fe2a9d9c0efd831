import VibuxOS.Files.FileViews
import VibuxOS.Files.Opening

namespace VibuxOS.Files

open VibuxOS.Lib

/-!
# What a read-only descriptor can do to its file

`write_fd` looks at the access mode of the descriptor, and `F_SETFL` keeps it,
so no write through a read-only descriptor or one of its duplicates reaches the
file.  `ftruncate` looks at the kind of the descriptor only.
-/

variable
  {path : List UInt8}
  {index : Nat}
  {state : State}
  {fd : Nat}
  {before : State}

/-! ## Calls on a descriptor -/

/-- The calls on a descriptor, without the descriptor. -/
inductive FdCall where
  | read (world : World) (count : Nat)
  | write (world : World) (count : Nat)
  | writev (iov : Nat → Option (World × Nat)) (iovCount : Nat)
  | pwritev (iov : Nat → Option (World × Nat)) (iovCount : Nat)
  | ftruncate (size : Nat)
  | lseek (world : World) (offset : UInt64) (whence : Int)
  | fcntl (command argument : UInt64)
  | dup
  | dupExact (newFd : Int) (cloexec : Bool)
  | splice (kernel : World) (fdIn : Int) (len flags : Nat)
  | copyFileRange (kernel : World) (fdIn : Int) (len flags : Nat)

/-- The descriptor that an answer of `fcntl` gives, if it gives one. -/
def FcntlAnswer.newFd : FcntlAnswer → Option Nat
  | .fd number => some number
  | .word _ => none

namespace FdCall

/-- A call on a descriptor; the descriptor that it makes, if it makes one. -/
def run (fdNumber : Int) : FdCall → Sys (Option Nat)
  | .read world count => do
      let _ ← readFd world fdNumber count
      pure none
  | .write world count => do
      let _ ← writeFd world fdNumber count
      pure none
  | .writev iov iovCount => do
      let _ ← Files.writev fdNumber iov iovCount
      pure none
  | .pwritev iov iovCount => do
      let _ ← Files.pwritev fdNumber iov iovCount
      pure none
  | .ftruncate size => do
      Files.ftruncate fdNumber size
      pure none
  | .lseek world offset whence => do
      let _ ← Files.lseek world fdNumber offset whence
      pure none
  | .fcntl command argument => do
      let answer ← Files.fcntl fdNumber command argument
      pure answer.newFd
  | .dup => do
      let number ← fdDuplicate fdNumber 3 false
      pure (some number)
  | .dupExact newFd cloexec => do
      let number ← fdDuplicateExact fdNumber newFd cloexec
      pure (some number)
  | .splice kernel fdIn len flags => do
      let _ ← Files.splice kernel fdIn fdNumber len flags
      pure none
  | .copyFileRange kernel fdIn len flags => do
      let _ ← Files.copyFileRange kernel fdIn fdNumber len flags
      pure none

/--
The calls that do not give the file at a path another length: the size for
`ftruncate` is the length that the file has, or one that the call refuses.
-/
def LeavesLength (path : List UInt8) (state : State) : FdCall → Prop
  | .ftruncate size =>
      (contentsAt state path).map List.length = some size ∨
        size > ramFileCapacity
  | _ => True

/--
One call on a descriptor of a family.  A descriptor that the call makes joins
the family.
-/
inductive Step
    (allowed : State → FdCall → Prop) :
    State × List Nat →
    State × List Nat →
    Prop
  | returned
      {call : FdCall}
      {fd : Nat}
      {family : List Nat}
      {state after : State}
      {new : Option Nat}
      (isAllowed : allowed state call)
      (member : fd ∈ family)
      (ran : call.run fd state = .ok new after) :
      Step allowed (state, family) (after, new.toList ++ family)
  | failed
      {call : FdCall}
      {fd : Nat}
      {family : List Nat}
      {state after : State}
      {error : Errno}
      (isAllowed : allowed state call)
      (member : fd ∈ family)
      (ran : call.run fd state = .err error after) :
      Step allowed (state, family) (after, family)

end FdCall

/-! ## Read-only descriptors -/

/-- A descriptor of a RAM file with an access mode that does not write. -/
structure ReadOnlyOn (path : List UInt8) (fd : Fd) : Prop where
  used : fd.used = true
  kind : fd.kind = .ramFile
  samePath : fd.path = path
  readMode : fd.flags &&& Syscall.oAccmode = 0

/-- The RAM files, and the descriptors without their positions. -/
def fileView (state : State) : (Nat → RamFile) × (Nat → Fd) :=
  (state.ramFiles, fun index => { state.fds index with position := 0 })

theorem readOnlyOn_of_view
    {before after : State}
    (same : fileView after = fileView before)
    (readOnly : ReadOnlyOn path (before.fds index)) :
    ReadOnlyOn path (after.fds index) := by
  have sameFd := congrFun (congrArg Prod.snd same) index
  obtain ⟨used, kind, samePath, readMode⟩ := readOnly
  constructor
  · exact (congrArg Fd.used sameFd).trans used
  · exact (congrArg Fd.kind sameFd).trans kind
  · exact (congrArg Fd.path sameFd).trans samePath
  · exact
      (congrArg (fun fd => fd.flags &&& Syscall.oAccmode) sameFd).trans
        readMode

theorem fileView_position
    (state : State)
    (index : Nat)
    (position : UInt64) :
    fileView
        (state.setFd index
          { state.fds index with position := position }) =
      fileView state := by
  unfold fileView
  congr 1
  funext other
  by_cases same : other = index
  · subst same
    simp [State.setFd]
  · simp [State.setFd, Function.update_of_ne same]

theorem unread_fileView (index : Nat) : Unread index fileView where
  eventFd := fun _ _ _ _ => rfl
  timerFd := fun _ _ _ _ => rfl
  terminal := fun _ _ => rfl
  pending := fun _ _ => rfl
  takePipe := fun _ _ _ => rfl
  position := fun state => fileView_position state index

theorem contentsAt_of_view
    {before after : State}
    (same : fileView after = fileView before) :
    contentsAt after = contentsAt before := by
  have sameFiles : after.ramFiles = before.ramFiles := congrArg Prod.fst same
  funext path
  unfold contentsAt ramFileIndex
  rw [sameFiles]

theorem writeFd_of_readOnlyOn
    (readOnly : ReadOnlyOn path (state.fds fd))
    (world : World)
    (count : Nat) :
    writeFd world fd count state = .err .ebadf state ∨
      writeFd world fd count state = .ok 0 state := by
  unfold writeFd
  split
  · exact .inl rfl
  · split
    · exact .inr rfl
    · rename_i inside _
      have isOpen : OpenFd state.fds fd :=
        ⟨by omega, by omega, readOnly.used⟩
      left
      rw [Prog.bind_of_ok (fdSnapshot_of_open isOpen), if_pos]
      · rfl
      · constructor
        · change
            ((state.fds fd).flags &&& Syscall.oAccmode != Syscall.oRdonly) =
              false
          rw [readOnly.readMode]
          decide
        · change (state.fds fd).kind ≠ .tty
          rw [readOnly.kind]
          decide

theorem keeps_writeFd_of_readOnlyOn
    {origin : State}
    (readOnly : ReadOnlyOn path (origin.fds fd))
    (world : World)
    (count : Nat) :
    Prog.Keeps (fun state => fileView state = fileView origin)
      (writeFd world fd count) := by
  intro state same
  rcases
      writeFd_of_readOnlyOn (readOnlyOn_of_view same readOnly) world
        count with
      refused | nothing
  · rw [refused]
    constructor <;> intro _ _ ended <;> cases ended
    exact same
  · rw [nothing]
    constructor <;> intro _ _ ended <;> cases ended
    exact same

/-! ## What one call keeps -/

/--
The contents at a path are the same after a call, and what was a read-only
descriptor of that path still is one.
-/
structure Harmless (path : List UInt8) (before after : State) : Prop where
  contents : contentsAt after path = contentsAt before path
  readOnly :
    ∀ index,
      ReadOnlyOn path (before.fds index) →
      ReadOnlyOn path (after.fds index)

theorem harmless_of_view
    {before after : State}
    (same : fileView after = fileView before) :
    Harmless path before after where
  contents := congrFun (contentsAt_of_view same) path
  readOnly := fun _ readOnly => readOnlyOn_of_view same readOnly

theorem harmless_setFd
    {fd : Fd}
    (readOnly : ReadOnlyOn path fd) :
    Harmless path state (state.setFd index fd) where
  contents := rfl
  readOnly := by
    intro other otherReadOnly
    by_cases same : other = index
    · subst same
      simpa [State.setFd] using readOnly
    · simpa [State.setFd, Function.update_of_ne same] using otherReadOnly

/-- Both ways out of a call on a read-only descriptor. -/
def CallHarmless
    (path : List UInt8)
    (before : State)
    (program : Sys (Option Nat)) : Prop :=
  Prog.Ensures (fun state => state = before) program
    (fun new after =>
      Harmless path before after ∧
        ∀ fd ∈ new, ReadOnlyOn path (after.fds fd))
    (Harmless path before)

theorem callHarmless_of_keeps
    {α : Type}
    {program : Sys α}
    (keeps :
      Prog.Keeps (fun state => fileView state = fileView before) program) :
    CallHarmless path before (program >>= fun _ => pure none) := by
  apply @Prog.Ensures.bind _ _ _ _ _ fun _ state => Harmless path before state
  · intro state start
    subst start
    obtain ⟨returns, fails⟩ := keeps state rfl
    exact
      ⟨fun value final ended => harmless_of_view (returns value final ended),
        fun error final ended => harmless_of_view (fails error final ended)⟩
  · exact fun _ => .pure fun state harmless => ⟨harmless, by simp⟩

/-! ### Flags and duplicates -/

theorem readOnlyOn_withCloexec
    {fd : Fd}
    (readOnly : ReadOnlyOn path fd)
    (cloexec : Bool) :
    ReadOnlyOn path (fd.withCloexec cloexec) where
  used := readOnly.used
  kind := readOnly.kind
  samePath := readOnly.samePath
  readMode := by
    change
      (if cloexec then
            fd.flags ||| Syscall.oCloexec
          else
            fd.flags &&& ~~~Syscall.oCloexec) &&&
          Syscall.oAccmode =
        0
    cases cloexec with
    | true =>
        rw [if_pos rfl, or_and_of_disjoint _ (by decide)]
        exact readOnly.readMode
    | false =>
        rw [if_neg Bool.false_ne_true, UInt64.and_assoc,
          not_and_of_disjoint (by decide)]
        exact readOnly.readMode

theorem setFlFlags_accmode
    (flags argument : UInt64) :
    setFlFlags flags argument &&& Syscall.oAccmode =
      flags &&& Syscall.oAccmode := by
  unfold setFlFlags
  rw [or_and, and_not_and, UInt64.or_zero, UInt64.and_assoc, UInt64.and_self]

theorem readOnlyOn_setFl
    {fd : Fd}
    (readOnly : ReadOnlyOn path fd)
    (argument : UInt64) :
    ReadOnlyOn path { fd with flags := setFlFlags fd.flags argument } where
  used := readOnly.used
  kind := readOnly.kind
  samePath := readOnly.samePath
  readMode := (setFlFlags_accmode _ _).trans readOnly.readMode

theorem harmless_refl (path : List UInt8) (state : State) :
    Harmless path state state :=
  harmless_of_view rfl

section Duplicates

variable
  {path : List UInt8}
  {before : State}
  {fd : Nat}

theorem ensures_fdDuplicate
    (readOnly : ReadOnlyOn path (before.fds fd))
    (minFd : Int)
    (cloexec : Bool) :
    Prog.Ensures (fun state => state = before) (fdDuplicate fd minFd cloexec)
      (fun new after =>
        Harmless path before after ∧ ReadOnlyOn path (after.fds new))
      (Harmless path before) := by
  have refused :
      ∀ state, state = before → Harmless path before state := by
    rintro state rfl
    exact harmless_refl path state
  apply Prog.Ensures.ite (fun _ => .fail refused)
  intro _
  apply ensures_fdSnapshot_bind (harmless_refl path before)
  intro _
  apply @Prog.Ensures.bind _ _ _ _ _ fun _ state => state = before
  · exact .gets fun state start => start
  intro free
  cases free with
  | none => exact .fail refused
  | some index =>
      have copied := readOnlyOn_withCloexec readOnly cloexec
      apply @Prog.Ensures.bind _ _ _ _ _ fun _ state =>
        Harmless path before state ∧ ReadOnlyOn path (state.fds index)
      · apply Prog.Ensures.modify
        rintro state rfl
        refine ⟨harmless_setFd copied, ?_⟩
        simpa [State.setFd] using copied
      · exact fun _ => .pure fun state holds => holds

theorem ensures_fdDuplicateExact
    (readOnly : ReadOnlyOn path (before.fds fd))
    (newFd : Int)
    (cloexec : Bool) :
    Prog.Ensures (fun state => state = before)
      (fdDuplicateExact fd newFd cloexec)
      (fun new after =>
        Harmless path before after ∧ ReadOnlyOn path (after.fds new))
      (Harmless path before) := by
  have refused :
      ∀ state, state = before → Harmless path before state := by
    rintro state rfl
    exact harmless_refl path state
  apply Prog.Ensures.ite (fun _ => .fail refused)
  intro _
  apply Prog.Ensures.ite
  · intro same
    apply Prog.Ensures.ite (fun _ => .fail refused)
    intro _
    apply Prog.Ensures.pure
    rintro state rfl
    refine ⟨harmless_refl path state, ?_⟩
    rwa [← same, Int.toNat_natCast]
  intro _
  apply Prog.Ensures.ite (fun _ => .fail refused)
  intro _
  apply ensures_fdSnapshot_bind (harmless_refl path before)
  intro _
  have copied := readOnlyOn_withCloexec readOnly cloexec
  apply @Prog.Ensures.bind _ _ _ _ _ fun _ state =>
    Harmless path before state ∧ ReadOnlyOn path (state.fds newFd.toNat)
  · apply Prog.Ensures.modify
    rintro state rfl
    refine ⟨harmless_setFd copied, ?_⟩
    simpa [State.setFd] using copied
  · exact fun _ => .pure fun state holds => holds

/-- `fcntl` copies the descriptor, or changes flags that are not its mode. -/
theorem ensures_fcntl
    (readOnly : ReadOnlyOn path (before.fds fd))
    (command argument : UInt64) :
    Prog.Ensures (fun state => state = before) (fcntl fd command argument)
      (fun answer after =>
        Harmless path before after ∧
          ∀ new ∈ answer.newFd, ReadOnlyOn path (after.fds new))
      (Harmless path before) := by
  have refused :
      ∀ state, state = before → Harmless path before state := by
    rintro state rfl
    exact harmless_refl path state
  have answered :
      ∀ word,
        Prog.Ensures (fun state => state = before)
          (pure (.word word) : Sys FcntlAnswer)
          (fun answer after =>
            Harmless path before after ∧
              ∀ new ∈ answer.newFd, ReadOnlyOn path (after.fds new))
          (Harmless path before) := by
    intro word
    apply Prog.Ensures.pure
    rintro state rfl
    exact ⟨harmless_refl path state, by simp [FcntlAnswer.newFd]⟩
  have duplicated :
      ∀ minFd cloexec,
        Prog.Ensures (fun state => state = before)
          (fdDuplicate fd minFd cloexec >>= fun number =>
            (pure (.fd number) : Sys FcntlAnswer))
          (fun answer after =>
            Harmless path before after ∧
              ∀ new ∈ answer.newFd, ReadOnlyOn path (after.fds new))
          (Harmless path before) := by
    intro minFd cloexec
    apply Prog.Ensures.bind (ensures_fdDuplicate readOnly minFd cloexec)
    intro number
    apply Prog.Ensures.pure
    rintro state ⟨harmless, copied⟩
    refine ⟨harmless, ?_⟩
    intro new isNew
    cases isNew
    exact copied
  have changed :
      ∀ flags,
        ReadOnlyOn path { before.fds fd with flags := flags } →
        Prog.Ensures (fun state => state = before)
          (Prog.modify (State.setFlags fd flags) >>= fun _ =>
            (pure (.word 0) : Sys FcntlAnswer))
          (fun answer after =>
            Harmless path before after ∧
              ∀ new ∈ answer.newFd, ReadOnlyOn path (after.fds new))
          (Harmless path before) := by
    intro flags stays
    apply @Prog.Ensures.bind _ _ _ _ _ fun _ state =>
      Harmless path before state
    · apply Prog.Ensures.modify
      rintro state rfl
      exact harmless_setFd stays
    · intro _
      apply Prog.Ensures.pure
      intro state harmless
      exact ⟨harmless, by simp [FcntlAnswer.newFd]⟩
  apply ensures_fdSnapshot_bind (harmless_refl path before)
  intro _
  apply Prog.Ensures.ite (fun _ => duplicated _ _)
  intro _
  apply Prog.Ensures.ite (fun _ => duplicated _ _)
  intro _
  apply Prog.Ensures.ite (fun _ => answered _)
  intro _
  apply Prog.Ensures.ite
    (fun _ => changed _ (readOnlyOn_withCloexec readOnly _))
  intro _
  apply Prog.Ensures.ite (fun _ => answered _)
  intro _
  apply Prog.Ensures.ite
    (fun _ => changed _ (readOnlyOn_setFl readOnly argument))
  intro _
  exact .ite (fun _ => answered _) fun _ => .fail refused

end Duplicates

/-! ### Truncation -/

theorem contentsAt_setRamFile_same
    {file : RamFile}
    (found : ramFileIndex state path = some index)
    (used : file.used = (state.ramFiles index).used)
    (samePath : file.path = (state.ramFiles index).path)
    (sameBytes :
      window file.data 0 file.len =
        window (state.ramFiles index).data 0 (state.ramFiles index).len) :
    contentsAt (state.setRamFile index file) path = contentsAt state path := by
  rw [contentsAt_setRamFile found used samePath, Function.update_self,
    sameBytes]
  unfold contentsAt
  rw [found, Option.map_some]

theorem ensures_ramFileTruncate
    {size : Nat}
    (leaves :
      (contentsAt before path).map List.length = some size ∨
        size > ramFileCapacity) :
    Prog.Ensures (fun state => state = before) (ramFileTruncate path size)
      (fun _ => Harmless path before) (Harmless path before) := by
  have refused :
      ∀ state, state = before → Harmless path before state := by
    rintro state rfl
    exact harmless_refl path state
  apply @Prog.Ensures.bind _ _ _ _ _ fun looked state =>
    looked = before ∧ state = before
  · apply Prog.Ensures.gets
    rintro state rfl
    exact ⟨rfl, rfl⟩
  intro looked
  cases found : ramFileIndex looked path with
  | none => exact .fail fun state start => refused state start.2
  | some index =>
      apply Prog.Ensures.ite
        (fun _ => .fail fun state start => refused state start.2)
      intro fits
      apply Prog.Ensures.modify
      rintro state ⟨rfl, rfl⟩
      rcases leaves with sameLength | tooLong
      · unfold contentsAt at sameLength
        rw [found, Option.map_some, Option.map_some, length_window,
          Option.some_inj] at sameLength
        refine ⟨contentsAt_setRamFile_same found rfl rfl ?_, ?_⟩
        · dsimp only
          rw [← sameLength]
          exact window_blit_before (by simp)
        · exact fun _ readOnly => readOnly
      · exact (fits tooLong).elim

/-! ### Any call -/

theorem callHarmless_run
    {call : FdCall}
    (readOnly : ReadOnlyOn path (before.fds fd))
    (leaves : call.LeavesLength path before) :
    CallHarmless path before (call.run fd) := by
  have writes := keeps_writeFd_of_readOnlyOn readOnly
  have reads :
      ∀ world (fdIn : Int) count,
        Prog.Keeps (fun state => fileView state = fileView before)
          (readFd world fdIn count) :=
    fun world fdIn count => preserves_readFd (unread_fileView _) world count _
  cases call with
  | read world count =>
      exact callHarmless_of_keeps (reads world fd count)
  | write world count =>
      exact callHarmless_of_keeps (writes world count)
  | writev iov iovCount =>
      exact callHarmless_of_keeps (keeps_writev writes iov iovCount)
  | pwritev iov iovCount =>
      exact callHarmless_of_keeps (keeps_pwritev writes iov iovCount)
  | ftruncate size =>
      apply @Prog.Ensures.bind _ _ _ _ _ fun _ => Harmless path before
      · apply ensures_fdSnapshot_bind (harmless_refl path before)
        intro _
        rw [Int.toNat_natCast, if_pos readOnly.kind, readOnly.samePath]
        exact ensures_ramFileTruncate leaves
      · exact fun _ => .pure fun state harmless => ⟨harmless, by simp⟩
  | lseek world offset whence =>
      exact
        callHarmless_of_keeps
          (preserves_lseek (fun state => fileView_position state _) world offset
            whence _)
  | fcntl command argument =>
      apply Prog.Ensures.bind (ensures_fcntl readOnly command argument)
      exact fun answer => .pure fun state holds => holds
  | dup =>
      apply Prog.Ensures.bind (ensures_fdDuplicate readOnly 3 false)
      intro number
      apply Prog.Ensures.pure
      rintro state ⟨harmless, copied⟩
      exact ⟨harmless, by simpa using copied⟩
  | dupExact newFd cloexec =>
      apply Prog.Ensures.bind (ensures_fdDuplicateExact readOnly newFd cloexec)
      intro number
      apply Prog.Ensures.pure
      rintro state ⟨harmless, copied⟩
      exact ⟨harmless, by simpa using copied⟩
  | splice kernel fdIn len flags =>
      exact
        callHarmless_of_keeps
          (keeps_splice (fun world => reads world fdIn) writes kernel len flags)
  | copyFileRange kernel fdIn len flags =>
      exact
        callHarmless_of_keeps
          (keeps_copyFileRange (fun world => reads world fdIn) writes kernel len
            flags)

/-! ## Runs -/

/-- The contents are these, and the whole family is read-only. -/
structure Guarded
    (path : List UInt8)
    (contents : Option (List UInt8))
    (system : State × List Nat) : Prop where
  contents : contentsAt system.1 path = contents
  readOnly : ∀ fd ∈ system.2, ReadOnlyOn path (system.1.fds fd)

theorem guarded_step
    {contents : Option (List UInt8)}
    {before after : State × List Nat}
    (step : FdCall.Step (FdCall.LeavesLength path) before after)
    (guarded : Guarded path contents before) :
    Guarded path contents after := by
  cases step with
  | returned isAllowed member ran =>
      obtain ⟨harmless, fresh⟩ :=
        (callHarmless_run (guarded.readOnly _ member) isAllowed _ rfl).1 _ _ ran
      refine ⟨harmless.contents.trans guarded.contents, ?_⟩
      intro fd isMember
      rcases List.mem_append.mp isMember with isNew | old
      · exact fresh fd (Option.mem_toList.mp isNew)
      · exact harmless.readOnly fd (guarded.readOnly fd old)
  | failed isAllowed member ran =>
      have harmless :=
        (callHarmless_run (guarded.readOnly _ member) isAllowed _ rfl).2 _ _ ran
      exact
        ⟨harmless.contents.trans guarded.contents, fun fd old =>
          harmless.readOnly fd (guarded.readOnly fd old)⟩

theorem guarded_opened
    {world : World}
    {flags : UInt64}
    {start first : State}
    (ran : openPath world path flags start = .ok fd first)
    (ramFile : (first.fds fd).kind = .ramFile)
    (readMode : opensWritable flags = false) :
    Guarded path (contentsAt first path) (first, [fd]) := by
  refine ⟨rfl, ?_⟩
  intro other member
  rw [List.mem_singleton.mp member]
  obtain ⟨kind, stored, filled, samePath⟩ :=
    (ensures_openPath world path flags start trivial).1 _ _ ran
  rw [filled] at ramFile ⊢
  exact
    ⟨rfl, ramFile, samePath ramFile, accmode_of_not_opensWritable readMode⟩

/--
A file that is open for reading keeps its contents along every run of calls on
that descriptor and its duplicates in which no `ftruncate` is given another
length that it takes.
-/
theorem contents_unchanged_by_reader
    {world : World}
    {path : List UInt8}
    {flags : UInt64}
    {start first after : State}
    {fd : Nat}
    {family : List Nat}
    (ran : openPath world path flags start = .ok fd first)
    (ramFile : (first.fds fd).kind = .ramFile)
    (readMode : opensWritable flags = false)
    (run :
      Relation.ReflTransGen (FdCall.Step (FdCall.LeavesLength path))
        (first, [fd]) (after, family)) :
    contentsAt after path = contentsAt first path :=
  (invariant_of_run (Guarded path (contentsAt first path))
    (fun _ _ step guarded => guarded_step step guarded) run
    (guarded_opened ran ramFile readMode)).contents

def letterPath : List UInt8 := ascii ['/', 'a']

/-- The state in which the file with one letter is written and closed. -/
def letterState : State :=
  let written : Sys Unit := do
    let fd ← creat World.idle letterPath 0
    let _ ← writeFd World.idle fd 1
    close fd
  (written State.new).final?.getD State.new

/-- That file, open for reading. -/
def readerState : State :=
  (openPath World.idle letterPath 0 letterState).final?.getD letterState

/--
A reader of the letter asks `F_SETFL` for write access, duplicates the
descriptor and writes to the duplicate; the letter is still there.
-/
theorem letter_unchanged :
    ∃ after,
      Relation.ReflTransGen (FdCall.Step (FdCall.LeavesLength letterPath))
          (readerState, [3]) (after, [4, 3]) ∧
        contentsAt after letterPath = contentsAt readerState letterPath ∧
        contentsAt readerState letterPath = some [97] := by
  have setFl :
      FdCall.Step (FdCall.LeavesLength letterPath) (readerState, [3])
        (_, [3]) :=
    @FdCall.Step.returned _ (.fcntl 4 Syscall.oRdwr) 3 [3] _ _ none trivial
      (List.mem_singleton_self 3) rfl
  have duplicated :=
    (Relation.ReflTransGen.single setFl).tail
      (@FdCall.Step.returned _ .dup 3 [3] _ _ (some 4) trivial
        (List.mem_singleton_self 3) rfl)
  have run :=
    duplicated.tail
      (@FdCall.Step.failed _ (.write World.idle 1) 4 [4, 3] _ _ .ebadf trivial
        List.mem_cons_self rfl)
  have ran :
      openPath World.idle letterPath 0 letterState = .ok 3 readerState :=
    rfl
  exact ⟨_, run, contents_unchanged_by_reader ran rfl rfl run, by decide⟩

/-- With any size for `ftruncate`, a reader can empty the file. -/
theorem letter_cut :
    ¬ ∀ (world : World) (path : List UInt8) (flags : UInt64)
        (start first after : State) (fd : Nat) (family : List Nat),
      openPath world path flags start = .ok fd first →
      (first.fds fd).kind = .ramFile →
      opensWritable flags = false →
      Relation.ReflTransGen (FdCall.Step fun _ _ => True)
        (first, [fd]) (after, family) →
      contentsAt after path = contentsAt first path := by
  intro unchanged
  have cut : FdCall.Step (fun _ _ => True) (readerState, [3]) (_, [3]) :=
    @FdCall.Step.returned _ (.ftruncate 0) 3 [3] _ _ none trivial
      (List.mem_singleton_self 3) rfl
  have same :=
    unchanged World.idle letterPath 0 letterState readerState _ 3 [3] rfl rfl
      rfl (.single cut)
  exact absurd same (by decide)

end VibuxOS.Files
