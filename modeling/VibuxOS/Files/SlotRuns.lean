import VibuxOS.Files.FileViews
import VibuxOS.Files.KernelObjects

namespace VibuxOS.Files

open VibuxOS.Lib

/-!
# Which entries of the object tables are in use

An entry is taken together with a descriptor that refers to it.  Closing the
last such descriptor does not give the entry back, and a socket pair that cannot
be handed out keeps its two pipe buffers.  Along the runs in which neither
happens, the entries in use are those that descriptors refer to.
-/

variable
  {fds : Nat → Fd}
  {index : Nat}
  {fd : Fd}
  {fdNumber : Int}

/-! ## Tables and references -/

/-- The tables of kernel objects. -/
inductive Table where
  | eventFd
  | timerFd
  | signalFd
  | epoll
  | socketPair
  deriving Repr, DecidableEq

/-- The entry that a descriptor refers to, if it refers to one. -/
def Fd.slot (fd : Fd) : Option (Table × Nat) :=
  if fd.used = false then
    none
  else
    match fd.kind with
    | .eventFd => some (.eventFd, fd.id)
    | .timerFd => some (.timerFd, fd.id)
    | .signalFd => some (.signalFd, fd.id)
    | .epoll => some (.epoll, fd.id)
    | .socket =>
        if fd.path.length = 2 then
          some (.socketPair, fd.id)
        else
          none
    | _ => none

/-- What the descriptors of a table refer to. -/
def slotsOf (fds : Nat → Fd) (index : Nat) : Option (Table × Nat) :=
  if index < Syscall.fileFdMax then
    (fds index).slot
  else
    none

namespace ObjectState

/-- Whether an entry is marked as used. -/
def marked (state : ObjectState) : Table × Nat → Bool
  | (.eventFd, id) => (state.eventFds id).used
  | (.timerFd, id) => (state.timerFds id).used
  | (.signalFd, id) => (state.signalFds id).used
  | (.epoll, id) => (state.epolls id).used
  | (.socketPair, id) => (state.socketPairs id).used

/-- What the descriptors of the process and of a suspended parent refer to. -/
def references (state : ObjectState) : Nat ⊕ Nat → Option (Table × Nat)
  | .inl index => slotsOf state.fds index
  | .inr index => state.parent.bind fun fds => slotsOf fds index

/-- The tables as they are set up, with the first call about to run. -/
def booted : ObjectState where
  toState := (init State.new).final?.getD State.new
  epolls := fun _ => EpollState.empty

end ObjectState

/-! ## Calls -/

/-- The calls that make, copy and drop descriptors of kernel objects. -/
inductive ObjectCall where
  | eventfd (counter flags : UInt64) (semaphore : Bool)
  | timerfd (clockId flags : UInt64)
  | signalfd (mask flags : UInt64)
  | epoll (flags : UInt64)
  | socketpair (domain address : UInt64) (copied : Bool) (flags : UInt64)
  | dup (fdNumber : Int)
  | dupExact (oldFd newFd : Int) (cloexec : Bool)
  | fcntl (fdNumber : Int) (command argument : UInt64)
  | close (fdNumber : Int)
  | closeRange (first last flags : Nat)
  | exec
  | fork (cloned : Bool)
  | vfork
  | exit

namespace ObjectCall

/-- What a call does; calls that make no descriptor return 0. -/
def run : ObjectCall → ObjectSys Nat
  | .eventfd counter flags semaphore => eventfdAlloc counter flags semaphore
  | .timerfd clockId flags => timerfdAlloc clockId flags
  | .signalfd mask flags => signalfdAlloc mask flags
  | .epoll flags => epollAlloc flags
  | .socketpair domain address copied flags =>
      onFiles (Files.socketpair domain address copied flags)
  | .dup fdNumber => onFiles (fdDuplicate fdNumber 3 false)
  | .dupExact oldFd newFd cloexec =>
      onFiles (fdDuplicateExact oldFd newFd cloexec)
  | .fcntl fdNumber command argument =>
      onFiles do
        let _ ← Files.fcntl fdNumber command argument
        pure 0
  | .close fdNumber =>
      onFiles do
        Files.close fdNumber
        pure 0
  | .closeRange first last flags =>
      onFiles do
        Files.closeRange first last flags
        pure 0
  | .exec =>
      onFiles do
        closeOnExec
        pure 0
  | .fork cloned =>
      onFiles do
        doFork cloned
        pure 0
  | .vfork =>
      onFiles do
        doVfork
        pure 0
  | .exit =>
      onFiles do
        childExit
        pure 0

/-- The table that a call takes an entry of. -/
def creates : ObjectCall → Option Table
  | .eventfd _ _ _ => some .eventFd
  | .timerfd _ _ => some .timerFd
  | .signalfd _ _ => some .signalFd
  | .epoll _ => some .epoll
  | .socketpair _ _ _ _ => some .socketPair
  | _ => none

def Drops (state : ObjectState) : ObjectCall → Nat → Prop
  | .close fdNumber, index => fdNumber = index
  | .closeRange first last flags, index =>
      flags &&& 3 = flags ∧ 3 ≤ index ∧ first ≤ index ∧ index ≤ last
  | .dupExact oldFd newFd _, index =>
      newFd = index ∧ oldFd ≠ newFd ∧ OpenFd state.fds oldFd
  | .exec, index =>
      3 ≤ index ∧ (state.fds index).flags &&& Syscall.oCloexec ≠ 0
  | .exit, _ => True
  | _, _ => False

end ObjectCall

/-- Two descriptor numbers are free. -/
def HasTwoFreeFds (state : State) : Prop :=
  ∃ first second,
    first < second ∧
      3 ≤ first ∧
      second < Syscall.fileFdMax ∧
      (state.fds first).used = false ∧
      (state.fds second).used = false

/-- Two pipe buffers are not in use. -/
def HasTwoBuffers (state : State) : Prop :=
  ∃ first second,
    first < second ∧
      second < Syscall.pipeMax ∧
      (state.pipeBuffers first).used = false ∧
      (state.pipeBuffers second).used = false

namespace ObjectCall

/--
A call that fails does so before it has changed an entry: a counter or a signal
set that is given back was the same before, and a socket pair that is taken can
be handed out.
-/
def FailsEarly (state : ObjectState) : ObjectCall → Prop
  | .eventfd counter flags semaphore =>
      flags &&& ~~~fdFlags = 0 →
      freeFd state.fds = none →
      ∀ id,
        state.unusedEventFd = some id →
        state.eventFds id =
          { used := false, counter := counter, semaphore := semaphore }
  | .signalfd mask flags =>
      flags &&& ~~~fdFlags = 0 →
      freeFd state.fds = none →
      ∀ id,
        state.unusedSignalFd = some id →
        state.signalFds id = { used := false, mask := mask }
  | .socketpair domain address copied _ =>
      domain = 1 →
      address ≠ 0 →
      state.unusedPair.isSome = true →
      HasTwoBuffers state.toState →
      HasTwoFreeFds state.toState ∧ copied = true
  | _ => True

/--
A call that takes no last reference away and, if it fails, leaves nothing
behind.
-/
structure Careful (state : ObjectState) (call : ObjectCall) : Prop where
  shared :
    ∀ index key,
      call.Drops state index →
      slotsOf state.fds index = some key →
      (∃ other,
          ¬ call.Drops state other ∧ slotsOf state.fds other = some key) ∨
        ∃ fds other, state.parent = some fds ∧ slotsOf fds other = some key
  failsEarly : call.FailsEarly state

/-- A call that takes an entry is given valid arguments and free descriptors. -/
def Ready (state : ObjectState) : ObjectCall → Prop
  | .eventfd _ flags _ =>
      flags &&& ~~~fdFlags = 0 ∧ HasFreeFd state.toState
  | .timerfd clockId flags =>
      flags &&& ~~~fdFlags = 0 ∧ clockId ∈ timerClocks ∧
        HasFreeFd state.toState
  | .signalfd _ flags =>
      flags &&& ~~~fdFlags = 0 ∧ HasFreeFd state.toState
  | .epoll flags =>
      flags &&& ~~~Syscall.oCloexec = 0 ∧ HasFreeFd state.toState
  | .socketpair domain address copied _ =>
      domain = 1 ∧ address ≠ 0 ∧ copied = true ∧
        HasTwoFreeFds state.toState ∧ HasTwoBuffers state.toState
  | _ => False

end ObjectCall

/--
One allowed call, or any other call; those leave the references, the marks and
the entries that are not in use alone.
-/
inductive ObjectStep
    (allowed : ObjectState → ObjectCall → Prop) :
    ObjectState →
    ObjectState →
    Prop
  | call
      {before after : ObjectState}
      (call : ObjectCall)
      (isAllowed : allowed before call)
      (ended : (call.run before).final? = some after) :
      ObjectStep allowed before after
  | elsewhere
      {before after : ObjectState}
      (initialized : after.initialized = true)
      (references : after.references = before.references)
      (marks : after.marked = before.marked)
      (timers :
        ∀ id,
          (before.timerFds id).used = false →
          after.timerFds id = before.timerFds id)
      (epolls :
        ∀ id,
          (before.epolls id).used = false →
          after.epolls id = before.epolls id)
      (pairs :
        ∀ id,
          (before.socketPairs id).used = false →
          after.socketPairs id = before.socketPairs id) :
      ObjectStep allowed before after

/-! ## What is to hold -/

/-- Nothing that a failed call should leave alone has changed. -/
structure LeftAlone (before after : ObjectState) : Prop where
  eventFds : after.eventFds = before.eventFds
  timerFds : after.timerFds = before.timerFds
  signalFds : after.signalFds = before.signalFds
  epolls : after.epolls = before.epolls
  socketPairs : after.socketPairs = before.socketPairs
  buffers :
    ∀ id, (after.pipeBuffers id).used = (before.pipeBuffers id).used
  fds : after.fds = before.fds

/--
The marked entries are those that descriptors refer to; when no descriptor
refers to a table, a call that is ready takes an entry of it; and a careful call
that fails leaves everything as it was.
-/
structure Reclaimed (state : ObjectState) : Prop where
  tracked :
    ∀ key, state.marked key = true ↔ Held state.references key
  again :
    ∀ (call : ObjectCall) table,
      call.creates = some table →
      call.Ready state →
      (∀ id, ¬ Held state.references (table, id)) →
      ∃ number final, call.run state = .ok number final
  leftAlone :
    ∀ (call : ObjectCall) table error final,
      call.creates = some table →
      call.Careful state →
      call.run state = .err error final →
      LeftAlone state final

/-! ## Copying and dropping descriptors -/

/--
Descriptors after some were dropped: the others refer to what they referred to,
and no reference is new.
-/
structure Rewired
    (dropped : Nat → Prop)
    (before after : Nat → Fd) : Prop where
  kept :
    ∀ index key,
      ¬ dropped index →
      slotsOf before index = some key →
      slotsOf after index = some key
  origin :
    ∀ index key,
      slotsOf after index = some key →
      ∃ other, slotsOf before other = some key

/-- What the calls on descriptors leave alone. -/
def tableView
    (state : State) :
    Bool × Option (Nat → Fd) × (Nat → EventFdState) × (Nat → TimerFdState) ×
      (Nat → SignalFdState) × (Nat → Syscall.SocketPair) :=
  (state.initialized, state.parent, state.eventFds, state.timerFds,
    state.signalFds, state.socketPairs)

/-- Both ways out of a call that only rewires descriptors. -/
def RewiresOnly
    {α : Type}
    (dropped : Nat → Prop)
    (before : State)
    (program : Sys α) : Prop :=
  Prog.Ensures (fun state => state = before) program
    (fun _ after =>
      tableView after = tableView before ∧
        Rewired dropped before.fds after.fds)
    (fun after =>
      tableView after = tableView before ∧
        Rewired dropped before.fds after.fds)

section Rewiring

variable
  {dropped : Nat → Prop}
  {before : State}

theorem slotsOf_update
    (fds : Nat → Fd)
    (index : Nat)
    (fd : Fd)
    (other : Nat) :
    slotsOf (Function.update fds index fd) other =
      if other = index then
        if index < Syscall.fileFdMax then fd.slot else none
      else
        slotsOf fds other := by
  by_cases same : other = index
  · subst same
    rw [if_pos rfl]
    unfold slotsOf
    rw [Function.update_self]
  · rw [if_neg same]
    unfold slotsOf
    rw [Function.update_of_ne same]

theorem Rewired.refl (fds : Nat → Fd) : Rewired dropped fds fds where
  kept := fun _ _ _ refers => refers
  origin := fun index _ refers => ⟨index, refers⟩

theorem Rewired.put
    (replaced :
      dropped index ∨
        ∀ key,
          slotsOf fds index = some key →
          slotsOf (Function.update fds index fd) index = some key)
    (origin :
      ∀ key, fd.slot = some key → ∃ other, slotsOf fds other = some key) :
    Rewired dropped fds (Function.update fds index fd) where
  kept := by
    intro other key remains refers
    by_cases same : other = index
    · subst same
      rcases replaced with isDropped | stays
      · exact (remains isDropped).elim
      · exact stays key refers
    · rw [slotsOf_update, if_neg same]
      exact refers
  origin := by
    intro other key refers
    rw [slotsOf_update] at refers
    split at refers
    · split at refers
      · exact origin key refers
      · cases refers
    · exact ⟨other, refers⟩

theorem RewiresOnly.of_readOnly
    {α : Type}
    {program : Sys α}
    (reads : Prog.ReadOnly program) :
    RewiresOnly dropped before program := by
  rintro state rfl
  constructor
  · intro value final returned
    rw [reads.1 returned]
    exact ⟨rfl, .refl _⟩
  · intro error final failed
    rw [reads.2 failed]
    exact ⟨rfl, .refl _⟩

theorem RewiresOnly.put
    (replaced :
      dropped index ∨
        ∀ key,
          slotsOf before.fds index = some key →
          slotsOf (Function.update before.fds index fd) index = some key)
    (origin :
      ∀ key,
        fd.slot = some key → ∃ other, slotsOf before.fds other = some key) :
    RewiresOnly dropped before (Prog.modify (State.setFd index fd)) := by
  apply Prog.Ensures.modify
  rintro state rfl
  exact ⟨rfl, .put replaced origin⟩

theorem RewiresOnly.bind_pure
    {α γ : Type}
    {program : Sys α}
    (rewires : RewiresOnly dropped before program)
    (value : α → γ) :
    RewiresOnly dropped before
      (program >>= fun result => pure (value result)) :=
  Prog.Ensures.bind rewires fun _ => .pure fun _ after => after

theorem slotsOf_of_open
    (isOpen : OpenFd before.fds fdNumber) :
    slotsOf before.fds fdNumber.toNat =
      (before.fds fdNumber.toNat).slot := by
  obtain ⟨nonnegative, inTable, _⟩ := isOpen
  unfold slotsOf
  rw [if_pos (by omega)]

theorem slot_of_unused
    (unused : fd.used = false) :
    fd.slot = none := by
  unfold Fd.slot
  rw [if_pos unused]

theorem slotsOf_of_unused
    (unused : (fds index).used = false) :
    slotsOf fds index = none := by
  unfold slotsOf
  rw [slot_of_unused unused, ite_self]

theorem rewiresOnly_fdDuplicate
    (oldFd minFd : Int)
    (cloexec : Bool) :
    RewiresOnly dropped before (fdDuplicate oldFd minFd cloexec) := by
  apply Prog.Ensures.ite (fun _ => RewiresOnly.of_readOnly (.fail _))
  intro _
  apply ensures_fdSnapshot_bind ⟨rfl, .refl _⟩
  intro isOpen
  apply Prog.Ensures.gets_bind
  cases free :
      (List.range' (max minFd.toNat 3)
          (Syscall.fileFdMax - max minFd.toNat 3)).find? fun index =>
        !(before.fds index).used with
  | none => exact RewiresOnly.of_readOnly (.fail _)
  | some index =>
      have unused : (before.fds index).used = false := by
        simpa using List.find?_some free
      apply RewiresOnly.bind_pure
      apply RewiresOnly.put
      · right
        intro key refers
        rw [slotsOf_of_unused unused] at refers
        cases refers
      · intro key refers
        exact ⟨oldFd.toNat, (slotsOf_of_open isOpen).trans refers⟩

theorem rewiresOnly_fdDuplicateExact
    {oldFd newFd : Int}
    (cloexec : Bool)
    (isDropped :
      0 ≤ newFd →
      oldFd ≠ newFd →
      OpenFd before.fds oldFd →
      dropped newFd.toNat) :
    RewiresOnly dropped before (fdDuplicateExact oldFd newFd cloexec) := by
  apply Prog.Ensures.ite (fun _ => RewiresOnly.of_readOnly (.fail _))
  intro nonnegative
  apply Prog.Ensures.ite
  · exact fun _ => RewiresOnly.of_readOnly (.ite (.fail _) (.pure _))
  intro different
  apply Prog.Ensures.ite (fun _ => RewiresOnly.of_readOnly (.fail _))
  intro _
  apply ensures_fdSnapshot_bind ⟨rfl, .refl _⟩
  intro isOpen
  apply RewiresOnly.bind_pure
  apply RewiresOnly.put
  · exact .inl (isDropped (by omega) different isOpen)
  · intro key refers
    exact ⟨oldFd.toNat, (slotsOf_of_open isOpen).trans refers⟩

theorem rewiresOnly_setFlags
    (isOpen : OpenFd before.fds fdNumber)
    (flags : UInt64) :
    RewiresOnly dropped before
      (Prog.modify (State.setFlags fdNumber.toNat flags)) := by
  have same :
      ({ before.fds fdNumber.toNat with flags := flags } : Fd).slot =
        (before.fds fdNumber.toNat).slot :=
    rfl
  apply Prog.Ensures.modify
  rintro state rfl
  refine ⟨rfl, .put (.inr ?_) ?_⟩
  · intro key refers
    obtain ⟨nonnegative, inTable, _⟩ := isOpen
    rw [slotsOf_update, if_pos rfl, if_pos (by omega), same]
    unfold slotsOf at refers
    rw [if_pos (by omega)] at refers
    exact refers
  · intro key refers
    exact ⟨fdNumber.toNat, (slotsOf_of_open isOpen).trans refers⟩

theorem rewiresOnly_fcntl
    (fdNumber : Int)
    (command argument : UInt64) :
    RewiresOnly dropped before (fcntl fdNumber command argument) := by
  have answers :
      ∀ word,
        RewiresOnly dropped before (pure (.word word) : Sys FcntlAnswer) :=
    fun _ => .of_readOnly (.pure _)
  apply ensures_fdSnapshot_bind ⟨rfl, .refl _⟩
  intro isOpen
  apply Prog.Ensures.ite
  · exact fun _ => (rewiresOnly_fdDuplicate _ _ _).bind_pure _
  intro _
  apply Prog.Ensures.ite
  · exact fun _ => (rewiresOnly_fdDuplicate _ _ _).bind_pure _
  intro _
  apply Prog.Ensures.ite (fun _ => answers _)
  intro _
  apply Prog.Ensures.ite
  · exact fun _ => (rewiresOnly_setFlags isOpen _).bind_pure _
  intro _
  apply Prog.Ensures.ite (fun _ => answers _)
  intro _
  apply Prog.Ensures.ite
  · exact fun _ => (rewiresOnly_setFlags isOpen _).bind_pure _
  intro _
  exact
    .ite (fun _ => answers _) fun _ => RewiresOnly.of_readOnly (.fail _)

theorem rewiresOnly_close
    (isDropped : OpenFd before.fds fdNumber → dropped fdNumber.toNat) :
    RewiresOnly dropped before (close fdNumber) := by
  apply ensures_fdSnapshot_bind ⟨rfl, .refl _⟩
  intro isOpen
  apply RewiresOnly.put (.inl (isDropped isOpen))
  intro key refers
  rw [slot_of_unused rfl] at refers
  cases refers

theorem rewiresOnly_clear
    {clears : State → Nat → Prop}
    [∀ state index, Decidable (clears state index)]
    (isDropped : ∀ index, clears before index → dropped index) :
    RewiresOnly dropped before
      (Prog.modify fun state =>
        { state with
          fds := fun index =>
            if clears state index then Fd.empty else state.fds index }) := by
  apply Prog.Ensures.modify
  rintro state rfl
  refine ⟨rfl, ?_, ?_⟩
  · intro index key remains refers
    unfold slotsOf at refers ⊢
    dsimp only
    rwa [if_neg fun cleared => remains (isDropped index cleared)]
  · intro index key refers
    refine ⟨index, ?_⟩
    unfold slotsOf at refers ⊢
    dsimp only at refers
    by_cases cleared : clears state index
    · rw [if_pos cleared, slot_of_unused rfl, ite_self] at refers
      cases refers
    · rwa [if_neg cleared] at refers

end Rewiring

/-! ## What holds along a run -/

/--
The marks are right, and the entries of timers, epoll sets and socket pairs that
are not in use are empty.
-/
structure Sound (state : ObjectState) : Prop where
  initialized : state.initialized = true
  tracked : Tracked state.marked state.references
  timers :
    ∀ id,
      (state.timerFds id).used = false →
      state.timerFds id = TimerFdState.empty
  epolls :
    ∀ id, (state.epolls id).used = false → state.epolls id = EpollState.empty
  pairs :
    ∀ id,
      (state.socketPairs id).used = false →
      state.socketPairs id = Syscall.SocketPair.empty

theorem held_references_iff
    {state : ObjectState}
    {key : Table × Nat} :
    Held state.references key ↔
      (∃ index, slotsOf state.fds index = some key) ∨
        ∃ fds other, state.parent = some fds ∧ slotsOf fds other = some key := by
  constructor
  · rintro ⟨index | other, refers⟩
    · exact .inl ⟨index, refers⟩
    · obtain ⟨fds, isParent, found⟩ := Option.bind_eq_some_iff.mp refers
      exact .inr ⟨fds, other, isParent, found⟩
  · rintro (⟨index, refers⟩ | ⟨fds, other, isParent, refers⟩)
    · exact ⟨.inl index, refers⟩
    · exact ⟨.inr other, Option.bind_eq_some_iff.mpr ⟨fds, isParent, refers⟩⟩

theorem sound_booted : Sound ObjectState.booted where
  initialized := rfl
  tracked := by
    have noSlot : ∀ index, slotsOf ObjectState.booted.fds index = none := by
      intro index
      have standard : ∀ index < 3, (stdFd index).slot = none := by
        decide
      unfold slotsOf
      split
      · change (if index < 3 then stdFd index else Fd.empty).slot = none
        by_cases isStandard : index < 3
        · rw [if_pos isStandard]
          exact standard index isStandard
        · rw [if_neg isStandard]
          rfl
      · rfl
    rintro ⟨table, id⟩
    constructor
    · intro marked
      cases table <;> cases marked
    · rw [held_references_iff]
      rintro (⟨index, refers⟩ | ⟨fds, other, isParent, _⟩)
      · rw [noSlot] at refers
        cases refers
      · cases isParent
  timers := fun _ _ => rfl
  epolls := fun _ _ => rfl
  pairs := fun _ _ => rfl

theorem onFiles_final
    {α : Type}
    {program : Sys α}
    {state after : ObjectState}
    (ended : (onFiles program state).final? = some after) :
    ∃ files,
      (program state.toState).final? = some files ∧
        after = { state with toState := files } := by
  unfold onFiles Prog.onPart at ended
  cases result : program state.toState with
  | ok value files =>
      rw [result] at ended
      cases ended
      exact ⟨files, rfl, rfl⟩
  | err error files =>
      rw [result] at ended
      cases ended
      exact ⟨files, rfl, rfl⟩
  | hang =>
      rw [result] at ended
      cases ended

section Descriptors

variable
  {state : ObjectState}
  {files : State}

theorem sound_of_same_keys
    (sound : Sound state)
    (initialized : files.initialized = state.initialized)
    (eventFds : files.eventFds = state.eventFds)
    (timerFds : files.timerFds = state.timerFds)
    (signalFds : files.signalFds = state.signalFds)
    (socketPairs : files.socketPairs = state.socketPairs)
    (sameKeys :
      ∀ key,
        Held state.references key ↔
          Held ({ state with toState := files } : ObjectState).references
            key) :
    Sound { state with toState := files } where
  initialized := initialized.trans sound.initialized
  tracked := by
    have marks :
        ({ state with toState := files } : ObjectState).marked =
          state.marked := by
      funext ⟨table, id⟩
      cases table
      · exact congrArg (fun entries => (entries id).used) eventFds
      · exact congrArg (fun entries => (entries id).used) timerFds
      · exact congrArg (fun entries => (entries id).used) signalFds
      · rfl
      · exact congrArg (fun entries => (entries id).used) socketPairs
    rw [marks]
    exact
      sound.tracked.of_same_keys (fun key => (sameKeys key).mp)
        (fun key => (sameKeys key).mpr)
  timers := by
    change ∀ id, (files.timerFds id).used = false → files.timerFds id = _
    rw [timerFds]
    exact sound.timers
  epolls := sound.epolls
  pairs := by
    change ∀ id, (files.socketPairs id).used = false → files.socketPairs id = _
    rw [socketPairs]
    exact sound.pairs

theorem sound_of_rewired
    {call : ObjectCall}
    (sound : Sound state)
    (careful : call.Careful state)
    (same : tableView files = tableView state.toState)
    (rewired : Rewired (call.Drops state) state.fds files.fds) :
    Sound { state with toState := files } := by
  have sameParent : files.parent = state.parent :=
    congrArg (fun view => view.2.1) same
  apply sound_of_same_keys sound
  · exact congrArg (fun view => view.1) same
  · exact congrArg (fun view => view.2.2.1) same
  · exact congrArg (fun view => view.2.2.2.1) same
  · exact congrArg (fun view => view.2.2.2.2.1) same
  · exact congrArg (fun view => view.2.2.2.2.2) same
  · intro key
    rw [held_references_iff, held_references_iff]
    change
      _ ↔
        (∃ index, slotsOf files.fds index = some key) ∨
          ∃ fds other, files.parent = some fds ∧ slotsOf fds other = some key
    rw [sameParent]
    constructor
    · rintro (⟨index, refers⟩ | saved)
      · by_cases dropped : call.Drops state index
        · rcases careful.shared index key dropped refers with
              ⟨other, remains, alsoRefers⟩ | saved
          · exact .inl ⟨other, rewired.kept other key remains alsoRefers⟩
          · exact .inr saved
        · exact .inl ⟨index, rewired.kept index key dropped refers⟩
      · exact .inr saved
    · rintro (⟨index, refers⟩ | saved)
      · exact .inl (rewired.origin index key refers)
      · exact .inr saved

theorem sound_of_rewiresOnly
    {α : Type}
    {call : ObjectCall}
    {program : Sys α}
    {after : ObjectState}
    (sound : Sound state)
    (careful : call.Careful state)
    (rewires : RewiresOnly (call.Drops state) state.toState program)
    (ended : (onFiles program state).final? = some after) :
    Sound after := by
  obtain ⟨files, filesEnded, rfl⟩ := onFiles_final ended
  obtain ⟨same, rewired⟩ := Prog.Ensures.final rewires rfl filesEnded
  exact sound_of_rewired sound careful same rewired

theorem sound_of_child
    (sound : Sound state)
    (noParent : state.parent = none) :
    Sound
      { state with
        toState := { state.toState with parent := some state.fds } } := by
  refine
    @sound_of_same_keys state { state.toState with parent := some state.fds }
      sound rfl rfl rfl rfl rfl ?_
  intro key
  rw [held_references_iff, held_references_iff]
  constructor
  · rintro (own | ⟨fds, other, isParent, _⟩)
    · exact .inl own
    · rw [noParent] at isParent
      cases isParent
  · rintro (own | ⟨fds, other, isParent, refers⟩)
    · exact .inl own
    · cases isParent
      exact .inl ⟨other, refers⟩

/-- A child that held nothing alone leaves its parent's descriptors behind. -/
theorem sound_of_exit
    (sound : Sound state)
    (careful : ObjectCall.exit.Careful state)
    (isParent : state.parent = some fds) :
    Sound
      { state with
        toState := { state.toState with fds := fds, parent := none } } := by
  refine
    @sound_of_same_keys state { state.toState with fds := fds, parent := none }
      sound rfl rfl rfl rfl rfl ?_
  intro key
  rw [held_references_iff, held_references_iff]
  have saved :
      (∃ fds other, state.parent = some fds ∧ slotsOf fds other = some key) →
      ∃ index, slotsOf fds index = some key := by
    rintro ⟨fds', other, isParent', refers⟩
    rw [isParent] at isParent'
    cases isParent'
    exact ⟨other, refers⟩
  constructor
  · rintro (⟨index, refers⟩ | inParent)
    · rcases careful.shared index key trivial refers with
          ⟨_, remains, _⟩ | inParent
      · exact (remains trivial).elim
      · exact .inl (saved inParent)
    · exact .inl (saved inParent)
  · rintro (⟨index, refers⟩ | ⟨fds, other, gone, _⟩)
    · exact .inr ⟨fds, index, isParent, refers⟩
    · cases gone

end Descriptors

end VibuxOS.Files
