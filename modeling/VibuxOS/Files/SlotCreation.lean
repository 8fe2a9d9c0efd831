import VibuxOS.Files.SlotRuns

namespace VibuxOS.Files

open VibuxOS.Lib

/-!
# Taking an entry together with a descriptor

The four allocations differ in their tables only, so what they do is said once,
about the allocation that they share.  A socket pair takes two descriptors and
two pipe buffers.
-/

/-! ## Taking an entry -/

/-- An entry is marked, and nothing else of what is tracked changes. -/
structure EntryTaken
    (key : Table × Nat)
    (before after : ObjectState) : Prop where
  initialized : after.initialized = before.initialized
  fds : after.fds = before.fds
  parent : after.parent = before.parent
  marks : after.marked = Function.update before.marked key true
  timers :
    ∀ id,
      (after.timerFds id).used = false →
      after.timerFds id = before.timerFds id
  epolls :
    ∀ id,
      (after.epolls id).used = false →
      after.epolls id = before.epolls id
  pairs :
    ∀ id,
      (after.socketPairs id).used = false →
      after.socketPairs id = before.socketPairs id

/-- What an allocation does to its table. -/
structure TakesFrom
    (table : Table)
    (unused : ObjectState → Option Nat)
    (take : Nat → ObjectState → ObjectState) : Prop where
  free :
    ∀ {state id},
      unused state = some id →
      id < 256 ∧ state.marked (table, id) = false
  found :
    ∀ {state},
      (∀ id, state.marked (table, id) = false) →
      (unused state).isSome = true
  taken :
    ∀ state id, EntryTaken (table, id) state (take id state)

/-- Either way out keeps what holds, and an error leaves everything alone. -/
structure CreatesSafely
    (state : ObjectState)
    (program : ObjectSys Nat) : Prop where
  sound : ∀ final, (program state).final? = some final → Sound final
  leftAlone :
    ∀ error final, program state = .err error final → LeftAlone state final

theorem LeftAlone.refl (state : ObjectState) : LeftAlone state state where
  eventFds := rfl
  timerFds := rfl
  signalFds := rfl
  epolls := rfl
  socketPairs := rfl
  buffers := fun _ => rfl
  fds := rfl

theorem CreatesSafely.of_ok
    {state final : ObjectState}
    {program : ObjectSys Nat}
    {number : Nat}
    (returned : program state = .ok number final)
    (sound : Sound final) :
    CreatesSafely state program where
  sound := by
    intro after ended
    rw [returned] at ended
    cases ended
    exact sound
  leftAlone := by
    intro error after failed
    rw [returned] at failed
    cases failed

theorem CreatesSafely.of_err
    {state final : ObjectState}
    {program : ObjectSys Nat}
    {error : Errno}
    (failed : program state = .err error final)
    (sound : Sound final)
    (leftAlone : LeftAlone state final) :
    CreatesSafely state program where
  sound := by
    intro after ended
    rw [failed] at ended
    cases ended
    exact sound
  leftAlone := by
    intro error after failed'
    rw [failed] at failed'
    cases failed'
    exact leftAlone

theorem firstUnused_free
    {size id : Nat}
    {used : Nat → Bool}
    (found : firstUnused size used = some id) :
    id < size ∧ used id = false := by
  have place := List.mem_range.mp (List.mem_of_find?_eq_some found)
  have unused := List.find?_some found
  exact ⟨place, by simpa using unused⟩

theorem firstUnused_isSome
    {size id : Nat}
    {used : Nat → Bool}
    (inTable : id < size)
    (unused : used id = false) :
    (firstUnused size used).isSome = true := by
  apply List.find?_isSome.mpr
  exact ⟨id, List.mem_range.mpr inTable, by simp [unused]⟩

theorem update_restored
    {α : Type}
    {entries : Nat → α}
    {id : Nat}
    (taken : α)
    {restored : α}
    (same : entries id = restored) :
    Function.update (Function.update entries id taken) id restored =
      entries := by
  rw [Function.update_idem, ← same, Function.update_eq_self]

theorem unused_of_update
    {α : Type}
    {used : α → Bool}
    {entries : Nat → α}
    {id other : Nat}
    {taken : α}
    (marked : used taken = true)
    (unused : used (Function.update entries id taken other) = false) :
    Function.update entries id taken other = entries other := by
  apply Function.update_of_ne
  rintro rfl
  rw [Function.update_self, marked] at unused
  cases unused

section Marks

variable
  (state : ObjectState)
  (id : Nat)

theorem marked_putEventFd (event : EventFdState) :
    (state.putEventFd id event).marked =
      Function.update state.marked (.eventFd, id) event.used := by
  rw [Function.eq_update_iff]
  constructor
  · exact congrArg EventFdState.used (Function.update_self _ _ _)
  · rintro ⟨table, other⟩ apart
    cases table with
    | eventFd =>
        have different : other ≠ id := by
          rintro rfl
          exact apart rfl
        exact congrArg EventFdState.used (Function.update_of_ne different _ _)
    | _ => rfl

theorem marked_putTimerFd (timer : TimerFdState) :
    (state.putTimerFd id timer).marked =
      Function.update state.marked (.timerFd, id) timer.used := by
  rw [Function.eq_update_iff]
  constructor
  · exact congrArg TimerFdState.used (Function.update_self _ _ _)
  · rintro ⟨table, other⟩ apart
    cases table with
    | timerFd =>
        have different : other ≠ id := by
          rintro rfl
          exact apart rfl
        exact congrArg TimerFdState.used (Function.update_of_ne different _ _)
    | _ => rfl

theorem marked_putSignalFd (signal : SignalFdState) :
    (state.putSignalFd id signal).marked =
      Function.update state.marked (.signalFd, id) signal.used := by
  rw [Function.eq_update_iff]
  constructor
  · exact congrArg SignalFdState.used (Function.update_self _ _ _)
  · rintro ⟨table, other⟩ apart
    cases table with
    | signalFd =>
        have different : other ≠ id := by
          rintro rfl
          exact apart rfl
        exact congrArg SignalFdState.used (Function.update_of_ne different _ _)
    | _ => rfl

theorem marked_putEpoll (epoll : EpollState) :
    (state.putEpoll id epoll).marked =
      Function.update state.marked (.epoll, id) epoll.used := by
  rw [Function.eq_update_iff]
  constructor
  · exact congrArg EpollState.used (Function.update_self _ _ _)
  · rintro ⟨table, other⟩ apart
    cases table with
    | epoll =>
        have different : other ≠ id := by
          rintro rfl
          exact apart rfl
        exact congrArg EpollState.used (Function.update_of_ne different _ _)
    | _ => rfl

/-! An entry that goes back as it was before leaves the tables as they were. -/

theorem giveBack_eventFd
    {event : EventFdState}
    (same : state.eventFds id = { event with used := false }) :
    (state.putEventFd id event).putEventFd id
        { (state.putEventFd id event).eventFds id with used := false } =
      state := by
  have self : (state.putEventFd id event).eventFds id = event :=
    Function.update_self _ _ _
  rw [self]
  exact
    congrArg (fun entries => { state with eventFds := entries })
      (update_restored event same)

theorem giveBack_timerFd
    {timer : TimerFdState}
    (same : state.timerFds id = { timer with used := false }) :
    (state.putTimerFd id timer).putTimerFd id
        { (state.putTimerFd id timer).timerFds id with used := false } =
      state := by
  have self : (state.putTimerFd id timer).timerFds id = timer :=
    Function.update_self _ _ _
  rw [self]
  exact
    congrArg (fun entries => { state with timerFds := entries })
      (update_restored timer same)

theorem giveBack_signalFd
    {signal : SignalFdState}
    (same : state.signalFds id = { signal with used := false }) :
    (state.putSignalFd id signal).putSignalFd id
        { (state.putSignalFd id signal).signalFds id with used := false } =
      state := by
  have self : (state.putSignalFd id signal).signalFds id = signal :=
    Function.update_self _ _ _
  rw [self]
  exact
    congrArg (fun entries => { state with signalFds := entries })
      (update_restored signal same)

theorem giveBack_epoll
    {epoll : EpollState}
    (same : state.epolls id = { epoll with used := false }) :
    (state.putEpoll id epoll).putEpoll id
        { (state.putEpoll id epoll).epolls id with used := false } =
      state := by
  have self : (state.putEpoll id epoll).epolls id = epoll :=
    Function.update_self _ _ _
  rw [self]
  exact
    congrArg (fun entries => { state with epolls := entries })
      (update_restored epoll same)

end Marks

/-! ## The tables of the four allocations -/

theorem takesFrom_eventFds
    (counter : UInt64)
    (semaphore : Bool) :
    TakesFrom .eventFd ObjectState.unusedEventFd fun id =>
      ObjectState.putEventFd id
        { used := true, counter := counter, semaphore := semaphore } where
  free := by
    intro state id found
    obtain ⟨inTable, unused⟩ := firstUnused_free found
    exact ⟨Nat.lt_of_lt_of_le inTable (by decide), unused⟩
  found := fun unused => firstUnused_isSome (by decide) (unused 0)
  taken := fun state id =>
    { initialized := rfl
      fds := rfl
      parent := rfl
      marks := marked_putEventFd state id _
      timers := fun _ _ => rfl
      epolls := fun _ _ => rfl
      pairs := fun _ _ => rfl }

theorem takesFrom_timerFds :
    TakesFrom .timerFd ObjectState.unusedTimerFd fun id =>
      ObjectState.putTimerFd id { TimerFdState.empty with used := true } where
  free := by
    intro state id found
    obtain ⟨inTable, unused⟩ := firstUnused_free found
    exact ⟨Nat.lt_of_lt_of_le inTable (by decide), unused⟩
  found := fun unused => firstUnused_isSome (by decide) (unused 0)
  taken := fun state id =>
    { initialized := rfl
      fds := rfl
      parent := rfl
      marks := marked_putTimerFd state id _
      timers := fun _ unused => unused_of_update rfl unused
      epolls := fun _ _ => rfl
      pairs := fun _ _ => rfl }

theorem takesFrom_signalFds (mask : UInt64) :
    TakesFrom .signalFd ObjectState.unusedSignalFd fun id =>
      ObjectState.putSignalFd id { used := true, mask := mask } where
  free := by
    intro state id found
    obtain ⟨inTable, unused⟩ := firstUnused_free found
    exact ⟨Nat.lt_of_lt_of_le inTable (by decide), unused⟩
  found := fun unused => firstUnused_isSome (by decide) (unused 0)
  taken := fun state id =>
    { initialized := rfl
      fds := rfl
      parent := rfl
      marks := marked_putSignalFd state id _
      timers := fun _ _ => rfl
      epolls := fun _ _ => rfl
      pairs := fun _ _ => rfl }

theorem takesFrom_epolls :
    TakesFrom .epoll ObjectState.unusedEpoll fun id =>
      ObjectState.putEpoll id { EpollState.empty with used := true } where
  free := by
    intro state id found
    obtain ⟨inTable, unused⟩ := firstUnused_free found
    exact ⟨Nat.lt_of_lt_of_le inTable (by decide), unused⟩
  found := fun unused => firstUnused_isSome (by decide) (unused 0)
  taken := fun state id =>
    { initialized := rfl
      fds := rfl
      parent := rfl
      marks := marked_putEpoll state id _
      timers := fun _ _ => rfl
      epolls := fun _ unused => unused_of_update rfl unused
      pairs := fun _ _ => rfl }

/-! ## The allocation that they share -/

theorem objectFd_slot
    {table : Table}
    {kind : FileKind}
    {id : Nat}
    (small : id < 256)
    (ofKind :
      ∀ fd : Fd,
        fd.used = true →
        fd.kind = kind →
        fd.slot = some (table, fd.id))
    (flags : UInt64) :
    (objectFd kind flags id).slot = some (table, id) := by
  have sameId : (objectFd kind flags id).id = id := by
    change (UInt8.ofNat id).toNat = id
    rw [UInt8.toNat_ofNat']
    exact Nat.mod_eq_of_lt small
  rw [ofKind _ rfl rfl, sameId]

section Allocation

variable
  {state : ObjectState}
  {number : Nat}
  {fd : Fd}
  {key : Table × Nat}

theorem references_setFd
    (inTable : number < Syscall.fileFdMax)
    (refers : fd.slot = some key) :
    ({ state with toState := state.toState.setFd number fd } :
        ObjectState).references =
      Function.update state.references (.inl number) (some key) := by
  rw [Function.eq_update_iff]
  constructor
  · change slotsOf (Function.update state.fds number fd) number = _
    rw [slotsOf_update, if_pos rfl, if_pos inTable, refers]
  · rintro (other | other) apart
    · change slotsOf (Function.update state.fds number fd) other = _
      rw [slotsOf_update, if_neg]
      · rfl
      · rintro rfl
        exact apart rfl
    · rfl

theorem sound_of_taken
    {taken : ObjectState}
    (sound : Sound state)
    (took : EntryTaken key state taken)
    (inTable : number < Syscall.fileFdMax)
    (unused : (state.fds number).used = false)
    (refers : fd.slot = some key) :
    Sound { taken with toState := taken.toState.setFd number fd } where
  initialized := took.initialized.trans sound.initialized
  tracked := by
    have sameReferences : taken.references = state.references := by
      funext holder
      cases holder with
      | inl index => exact congrArg (fun fds => slotsOf fds index) took.fds
      | inr index =>
          exact
            congrArg (fun parent => parent.bind fun fds => slotsOf fds index)
              took.parent
    rw [references_setFd inTable refers, sameReferences]
    change Tracked taken.marked _
    rw [took.marks]
    exact sound.tracked.take (slotsOf_of_unused unused)
  timers := by
    intro id isFree
    have same := took.timers id isFree
    change taken.timerFds id = _
    rw [same]
    apply sound.timers
    rw [← same]
    exact isFree
  epolls := by
    intro id isFree
    have same := took.epolls id isFree
    change taken.epolls id = _
    rw [same]
    apply sound.epolls
    rw [← same]
    exact isFree
  pairs := by
    intro id isFree
    have same := took.pairs id isFree
    change taken.socketPairs id = _
    rw [same]
    apply sound.pairs
    rw [← same]
    exact isFree

end Allocation

section AllocObject

variable
  {table : Table}
  {unused : ObjectState → Option Nat}
  {take giveBack : Nat → ObjectState → ObjectState}
  {descriptor : Nat → Fd}
  {state : ObjectState}

theorem onFiles_of_ok
    {α : Type}
    {program : Sys α}
    {value : α}
    {files : State}
    (returned : program state.toState = .ok value files) :
    onFiles program state = .ok value { state with toState := files } := by
  unfold onFiles Prog.onPart
  rw [returned]

theorem onFiles_of_err
    {α : Type}
    {program : Sys α}
    {error : Errno}
    {files : State}
    (failed : program state.toState = .err error files) :
    onFiles program state = .err error { state with toState := files } := by
  unfold onFiles Prog.onPart
  rw [failed]

theorem allocObject_of_full
    (initialized : state.initialized = true)
    (full : unused state = none) :
    allocObject unused take giveBack descriptor state = .err .eperm state := by
  unfold allocObject
  rw [Prog.bind_of_ok (onFiles_of_ok (init_of_initialized initialized)),
    Prog.gets_bind_apply, full]
  rfl

theorem allocObject_of_free
    {id number : Nat}
    (initialized : state.initialized = true)
    (found : unused state = some id)
    (free : freeFd (take id state).fds = some number) :
    allocObject unused take giveBack descriptor state =
      .ok number
        { take id state with
          toState := (take id state).toState.setFd number (descriptor id) } := by
  unfold allocObject
  rw [Prog.bind_of_ok (onFiles_of_ok (init_of_initialized initialized)),
    Prog.gets_bind_apply, found]
  dsimp only
  rw [Prog.modify_bind_apply,
    Prog.bind_of_ok
      (Prog.attempt_of_ok (onFiles_of_ok (allocFd_of_free free _)))]
  rfl

theorem allocObject_of_noFd
    {id : Nat}
    (initialized : state.initialized = true)
    (found : unused state = some id)
    (noFd : freeFd (take id state).fds = none) :
    allocObject unused take giveBack descriptor state =
      .err .eperm (giveBack id (take id state)) := by
  unfold allocObject
  rw [Prog.bind_of_ok (onFiles_of_ok (init_of_initialized initialized)),
    Prog.gets_bind_apply, found]
  dsimp only
  rw [Prog.modify_bind_apply,
    Prog.bind_of_ok
      (Prog.attempt_of_err (onFiles_of_err (allocFd_of_full noFd _)))]
  rfl

theorem createsSafely_allocObject
    (sound : Sound state)
    (takes : TakesFrom table unused take)
    (refers : ∀ id < 256, (descriptor id).slot = some (table, id))
    (restores :
      freeFd state.fds = none →
      ∀ id, unused state = some id → giveBack id (take id state) = state) :
    CreatesSafely state (allocObject unused take giveBack descriptor) := by
  cases found : unused state with
  | none =>
      exact
        .of_err (allocObject_of_full sound.initialized found) sound (.refl _)
  | some id =>
      obtain ⟨small, _⟩ := takes.free found
      have took := takes.taken state id
      cases free : freeFd state.fds with
      | none =>
          have fails :=
            @allocObject_of_noFd unused take giveBack descriptor state id
              sound.initialized found (by rw [took.fds, free])
          rw [restores free id found] at fails
          exact .of_err fails sound (.refl _)
      | some number =>
          obtain ⟨_, inTable, noFd⟩ := freeFd_unused free
          have returns :=
            @allocObject_of_free unused take giveBack descriptor state id
              number sound.initialized found (by rw [took.fds, free])
          exact
            .of_ok returns
              (sound_of_taken sound took inTable noFd (refers id small))

theorem allocObject_returns
    (initialized : state.initialized = true)
    (takes : TakesFrom table unused take)
    (unmarked : ∀ id, state.marked (table, id) = false)
    (free : HasFreeFd state.toState) :
    ∃ number final,
      allocObject unused take giveBack descriptor state =
        .ok number final := by
  obtain ⟨id, found⟩ := Option.isSome_iff_exists.mp (takes.found unmarked)
  obtain ⟨number, isFree, _, _⟩ := freeFd_of_hasFreeFd free
  rw [← (takes.taken state id).fds] at isFree
  exact ⟨number, _, allocObject_of_free initialized found isFree⟩

end AllocObject

/-! ## The four allocations -/

section Allocations

variable {state : ObjectState}

theorem CreatesSafely.fail
    (sound : Sound state)
    (error : Errno) :
    CreatesSafely state (Prog.fail error) :=
  .of_err rfl sound (.refl _)

theorem CreatesSafely.ite
    {condition : Prop}
    [Decidable condition]
    {yes no : ObjectSys Nat}
    (whenTrue : condition → CreatesSafely state yes)
    (whenFalse : ¬ condition → CreatesSafely state no) :
    CreatesSafely state (if condition then yes else no) := by
  by_cases holds : condition
  · rw [if_pos holds]
    exact whenTrue holds
  · rw [if_neg holds]
    exact whenFalse holds

theorem createsSafely_eventfdAlloc
    {counter flags : UInt64}
    {semaphore : Bool}
    (sound : Sound state)
    (failsEarly :
      (ObjectCall.eventfd counter flags semaphore).FailsEarly state) :
    CreatesSafely state (eventfdAlloc counter flags semaphore) := by
  apply CreatesSafely.ite (fun _ => .fail sound _)
  intro known
  apply createsSafely_allocObject sound (takesFrom_eventFds counter semaphore)
  · intro id small
    apply objectFd_slot small
    intro fd used isEvent
    simp [Fd.slot, used, isEvent]
  · intro noFd id found
    exact giveBack_eventFd state id (failsEarly (not_not.mp known) noFd id found)

theorem createsSafely_timerfdAlloc
    (sound : Sound state)
    (clockId flags : UInt64) :
    CreatesSafely state (timerfdAlloc clockId flags) := by
  apply CreatesSafely.ite (fun _ => .fail sound _)
  intro _
  apply CreatesSafely.ite (fun _ => .fail sound _)
  intro _
  apply createsSafely_allocObject sound takesFrom_timerFds
  · intro id small
    apply objectFd_slot small
    intro fd used isTimer
    simp [Fd.slot, used, isTimer]
  · intro _ id found
    have same := sound.timers id (firstUnused_free found).2
    exact giveBack_timerFd state id same

theorem createsSafely_signalfdAlloc
    {mask flags : UInt64}
    (sound : Sound state)
    (failsEarly : (ObjectCall.signalfd mask flags).FailsEarly state) :
    CreatesSafely state (signalfdAlloc mask flags) := by
  apply CreatesSafely.ite (fun _ => .fail sound _)
  intro known
  apply createsSafely_allocObject sound (takesFrom_signalFds mask)
  · intro id small
    apply objectFd_slot small
    intro fd used isSignal
    simp [Fd.slot, used, isSignal]
  · intro noFd id found
    exact giveBack_signalFd state id (failsEarly (not_not.mp known) noFd id found)

theorem createsSafely_epollAlloc
    (sound : Sound state)
    (flags : UInt64) :
    CreatesSafely state (epollAlloc flags) := by
  apply CreatesSafely.ite (fun _ => .fail sound _)
  intro _
  apply createsSafely_allocObject sound takesFrom_epolls
  · intro id small
    apply objectFd_slot small
    intro fd used isEpoll
    simp [Fd.slot, used, isEpoll]
  · intro _ id found
    have same := sound.epolls id (firstUnused_free found).2
    exact giveBack_epoll state id same

end Allocations

/-! ## Socket pairs -/

/-- A pair over two fresh buffers. -/
def State.takePair (pair aToB bToA : Nat) (state : State) : State :=
  State.putPair pair ⟨true, UInt8.ofNat aToB, UInt8.ofNat bToA⟩
    (State.putBuffer bToA Syscall.PipeBuffer.fresh
      (State.putBuffer aToB Syscall.PipeBuffer.fresh state))

section SocketPairs

variable {files : State}

theorem pipeBuffers_putBuffer_self
    (id : Nat)
    (pipe : Syscall.PipeBuffer) :
    (files.putBuffer id pipe).pipeBuffers id = pipe :=
  Function.update_self _ _ _

theorem pipeBuffers_putBuffer_of_ne
    {id other : Nat}
    {pipe : Syscall.PipeBuffer}
    (apart : other ≠ id) :
    (files.putBuffer id pipe).pipeBuffers other = files.pipeBuffers other :=
  Function.update_of_ne apart _ _

theorem unusedBuffer_second
    {first second : Nat}
    (found :
      (files.putBuffer first Syscall.PipeBuffer.fresh).unusedBuffer =
        some second) :
    second ≠ first ∧ (files.pipeBuffers second).used = false := by
  have unused := (firstUnused_free found).2
  have apart : second ≠ first := by
    rintro rfl
    rw [pipeBuffers_putBuffer_self] at unused
    cases unused
  rw [pipeBuffers_putBuffer_of_ne apart] at unused
  exact ⟨apart, unused⟩

theorem hasTwoBuffers_iff :
    HasTwoBuffers files ↔
      ∃ first second,
        files.unusedBuffer = some first ∧
          (files.putBuffer first Syscall.PipeBuffer.fresh).unusedBuffer =
            some second := by
  constructor
  · rintro ⟨low, high, ordered, inTable, lowUnused, highUnused⟩
    have isFound : files.unusedBuffer.isSome = true :=
      firstUnused_isSome (Nat.lt_trans ordered inTable) lowUnused
    obtain ⟨first, found⟩ := Option.isSome_iff_exists.mp isFound
    have another :
        ∃ other,
          other < Syscall.pipeMax ∧
            other ≠ first ∧
            (files.pipeBuffers other).used = false := by
      by_cases same : low = first
      · exact ⟨high, inTable, by omega, highUnused⟩
      · exact ⟨low, by omega, same, lowUnused⟩
    obtain ⟨other, otherInTable, apart, unused⟩ := another
    rw [← @pipeBuffers_putBuffer_of_ne files first other
      Syscall.PipeBuffer.fresh apart] at unused
    have isAlsoFound :
        (files.putBuffer first Syscall.PipeBuffer.fresh).unusedBuffer.isSome =
          true :=
      firstUnused_isSome otherInTable unused
    obtain ⟨second, alsoFound⟩ := Option.isSome_iff_exists.mp isAlsoFound
    exact ⟨first, second, found, alsoFound⟩
  · rintro ⟨first, second, found, alsoFound⟩
    obtain ⟨firstInTable, firstUnused⟩ := firstUnused_free found
    obtain ⟨apart, secondUnused⟩ := unusedBuffer_second alsoFound
    have secondInTable := (firstUnused_free alsoFound).1
    rcases Nat.lt_or_gt_of_ne apart with before | behind
    · exact ⟨second, first, before, firstInTable, secondUnused, firstUnused⟩
    · exact ⟨first, second, behind, secondInTable, firstUnused, secondUnused⟩

theorem socketPairAlloc_of_found
    {pair first second : Nat}
    (foundPair : files.unusedPair = some pair)
    (found : files.unusedBuffer = some first)
    (alsoFound :
      (files.putBuffer first Syscall.PipeBuffer.fresh).unusedBuffer =
        some second) :
    socketPairAlloc files =
      .ok (some pair) (files.takePair pair first second) := by
  unfold socketPairAlloc
  rw [Prog.gets_bind_apply, foundPair]
  dsimp only
  rw [Prog.gets_bind_apply, found]
  dsimp only
  rw [Prog.modify_bind_apply, Prog.gets_bind_apply, alsoFound]
  rfl

theorem socketPairAlloc_of_not_found
    (notFound : files.unusedPair = none ∨ ¬ HasTwoBuffers files) :
    ∃ buffers,
      socketPairAlloc files =
          .ok none { files with pipeBuffers := buffers } ∧
        ∀ id, (buffers id).used = (files.pipeBuffers id).used := by
  unfold socketPairAlloc
  rw [Prog.gets_bind_apply]
  cases foundPair : files.unusedPair with
  | none => exact ⟨files.pipeBuffers, rfl, fun _ => rfl⟩
  | some pair =>
      have few : ¬ HasTwoBuffers files := by
        rcases notFound with noPair | few
        · rw [foundPair] at noPair
          cases noPair
        · exact few
      dsimp only
      rw [Prog.gets_bind_apply]
      cases found : files.unusedBuffer with
      | none => exact ⟨files.pipeBuffers, rfl, fun _ => rfl⟩
      | some first =>
          dsimp only
          rw [Prog.modify_bind_apply, Prog.gets_bind_apply]
          cases alsoFound :
              (files.putBuffer first Syscall.PipeBuffer.fresh).unusedBuffer with
          | some second =>
              exact (few (hasTwoBuffers_iff.mpr ⟨_, _, found, alsoFound⟩)).elim
          | none =>
              refine
                ⟨Function.update files.pipeBuffers first
                  Syscall.PipeBuffer.empty, ?_, ?_⟩
              · dsimp only
                rw [Prog.modify_bind_apply]
                change
                  Outcome.ok none
                      { files with
                        pipeBuffers :=
                          Function.update
                            (Function.update files.pipeBuffers first _) first
                            _ } =
                    _
                rw [Function.update_idem]
              · intro id
                by_cases same : id = first
                · subst same
                  rw [Function.update_self, (firstUnused_free found).2]
                  rfl
                · rw [Function.update_of_ne same]

theorem setPath_setFd
    (index : Nat)
    (fd : Fd)
    (path : List UInt8) :
    (files.setFd index fd).setPath index path =
      files.setFd index { fd with path := path } := by
  unfold State.setPath
  rw [fds_setFd_self]
  exact
    congrArg (fun fds => { files with fds := fds }) (Function.update_idem _ _ _)

theorem setFd_comm
    {index other : Nat}
    (apart : index ≠ other)
    (fd otherFd : Fd) :
    (files.setFd index fd).setFd other otherFd =
      (files.setFd other otherFd).setFd index fd :=
  congrArg (fun fds => { files with fds := fds })
    (Function.update_comm apart _ _ _)

theorem freeFd_second
    {first : Nat}
    {fd : Fd}
    (free : HasTwoFreeFds files)
    (used : fd.used = true) :
    ∃ second,
      freeFd (files.setFd first fd).fds = some second ∧ first ≠ second := by
  obtain ⟨low, high, ordered, behind, inTable, lowUnused, highUnused⟩ := free
  have another : HasFreeFd (files.setFd first fd) := by
    by_cases same : low = first
    · refine ⟨high, by omega, inTable, ?_⟩
      rw [fds_setFd_of_ne (by omega)]
      exact highUnused
    · refine ⟨low, behind, by omega, ?_⟩
      rw [fds_setFd_of_ne same]
      exact lowUnused
  obtain ⟨second, isSecond, _, _⟩ := freeFd_of_hasFreeFd another
  refine ⟨second, isSecond, ?_⟩
  rintro rfl
  have unused := (freeFd_unused isSecond).2.2
  rw [fds_setFd_self, used] at unused
  cases unused

theorem socketPairFromUser_of_found
    {address flags : UInt64}
    {pair aToB bToA first second : Nat}
    (someAddress : address ≠ 0)
    (allocated :
      socketPairAlloc files = .ok (some pair) (files.takePair pair aToB bToA))
    (isFirst : freeFd files.fds = some first)
    (isSecond :
      freeFd (files.setFd first (socketFd flags [0, 0])).fds = some second)
    (apart : first ≠ second) :
    socketPairFromUser address true flags files =
      .ok 0
        (((files.takePair pair aToB bToA).setFd first
            (socketFd flags [UInt8.ofNat pair, 0])).setFd second
          (socketFd flags [UInt8.ofNat pair, 1])) := by
  have makesFirst :=
    @allocFd_of_free (files.takePair pair aToB bToA) first isFirst
      (socketFd flags [0, 0])
  have makesSecond :=
    @allocFd_of_free
      ((files.takePair pair aToB bToA).setFd first (socketFd flags [0, 0]))
      second isSecond (socketFd flags [0, 0])
  unfold socketPairFromUser
  rw [if_neg someAddress, Prog.bind_of_ok allocated]
  dsimp only
  rw [Prog.bind_of_ok (Prog.attempt_of_ok makesFirst),
    Prog.bind_of_ok (Prog.attempt_of_ok makesSecond)]
  dsimp only
  rw [Prog.modify_bind_apply, Prog.modify_bind_apply, if_pos rfl,
    setFd_comm apart, setPath_setFd, setFd_comm apart.symm, setPath_setFd]
  rfl

theorem socketPairFromUser_of_not_found
    {address flags : UInt64}
    {copied : Bool}
    {after : State}
    (someAddress : address ≠ 0)
    (notAllocated : socketPairAlloc files = .ok none after) :
    socketPairFromUser address copied flags files = .err .emfile after := by
  unfold socketPairFromUser
  rw [if_neg someAddress, Prog.bind_of_ok notAllocated]
  rfl

end SocketPairs

section Pairs

variable
  {state : ObjectState}
  {files : State}

theorem EntryTaken.of_marked
    {key : Table × Nat}
    (marked : state.marked key = true) :
    EntryTaken key state state where
  initialized := rfl
  fds := rfl
  parent := rfl
  marks := by
    rw [← marked, Function.update_eq_self]
  timers := fun _ _ => rfl
  epolls := fun _ _ => rfl
  pairs := fun _ _ => rfl

theorem entryTaken_takePair (pair aToB bToA : Nat) :
    EntryTaken (.socketPair, pair) state
      { state with toState := state.toState.takePair pair aToB bToA } where
  initialized := rfl
  fds := rfl
  parent := rfl
  marks := by
    rw [Function.eq_update_iff]
    constructor
    · change (Function.update state.socketPairs pair _ pair).used = true
      rw [Function.update_self]
    · rintro ⟨table, other⟩ apart
      cases table with
      | socketPair =>
          have different : other ≠ pair := by
            rintro rfl
            exact apart rfl
          exact
            congrArg Syscall.SocketPair.used
              (Function.update_of_ne different _ _)
      | _ => rfl
  timers := fun _ _ => rfl
  epolls := fun _ _ => rfl
  pairs := by
    intro id unused
    exact
      @unused_of_update _ Syscall.SocketPair.used state.socketPairs pair id _
        rfl unused

theorem socketFd_slot
    {pair : Nat}
    (inTable : pair < Syscall.socketMax)
    (flags : UInt64)
    (side : UInt8) :
    (socketFd flags [UInt8.ofNat pair, side]).slot =
      some (.socketPair, pair) := by
  have sameId : (UInt8.ofNat pair).toNat = pair := by
    rw [UInt8.toNat_ofNat']
    exact Nat.mod_eq_of_lt (Nat.lt_trans inTable (by decide))
  change some (Table.socketPair, (UInt8.ofNat pair).toNat) = _
  rw [sameId]

theorem sound_of_buffers
    (sound : Sound state)
    (buffers : Nat → Syscall.PipeBuffer) :
    Sound
      { state with
        toState := { state.toState with pipeBuffers := buffers } } :=
  @sound_of_same_keys state { state.toState with pipeBuffers := buffers } sound
    rfl rfl rfl rfl rfl fun _ => Iff.rfl

theorem LeftAlone.of_buffers
    {buffers : Nat → Syscall.PipeBuffer}
    (usage : ∀ id, (buffers id).used = (state.pipeBuffers id).used) :
    LeftAlone state
      { state with
        toState := { state.toState with pipeBuffers := buffers } } where
  eventFds := rfl
  timerFds := rfl
  signalFds := rfl
  epolls := rfl
  socketPairs := rfl
  buffers := usage
  fds := rfl

theorem sound_of_pair
    {pair aToB bToA first second : Nat}
    {flags : UInt64}
    (sound : Sound state)
    (foundPair : state.unusedPair = some pair)
    (isFirst : freeFd state.fds = some first)
    (isSecond :
      freeFd (state.toState.setFd first (socketFd flags [0, 0])).fds =
        some second)
    (apart : first ≠ second) :
    Sound
      { state with
        toState :=
          ((state.toState.takePair pair aToB bToA).setFd first
              (socketFd flags [UInt8.ofNat pair, 0])).setFd second
            (socketFd flags [UInt8.ofNat pair, 1]) } := by
  have inTable := (firstUnused_free foundPair).1
  obtain ⟨_, firstInTable, firstUnused⟩ := freeFd_unused isFirst
  obtain ⟨_, secondInTable, secondUnused⟩ := freeFd_unused isSecond
  have taken := @entryTaken_takePair state pair aToB bToA
  have withFirst :=
    sound_of_taken sound taken firstInTable firstUnused
      (socketFd_slot inTable flags 0)
  have marked :
      (state.toState.takePair pair aToB bToA).socketPairs pair =
        ⟨true, UInt8.ofNat aToB, UInt8.ofNat bToA⟩ :=
    Function.update_self _ _ _
  rw [fds_setFd_of_ne apart.symm] at secondUnused
  refine
    sound_of_taken withFirst (@EntryTaken.of_marked _ (.socketPair, pair) ?_)
      secondInTable ?_ (socketFd_slot inTable flags 1)
  · exact congrArg Syscall.SocketPair.used marked
  · exact (congrArg Fd.used (fds_setFd_of_ne apart.symm)).trans secondUnused

theorem socketPairFromUser_returns
    {address flags : UInt64}
    {pair : Nat}
    (someAddress : address ≠ 0)
    (foundPair : files.unusedPair = some pair)
    (buffers : HasTwoBuffers files)
    (free : HasTwoFreeFds files) :
    ∃ aToB bToA first second,
      freeFd files.fds = some first ∧
        freeFd (files.setFd first (socketFd flags [0, 0])).fds = some second ∧
        first ≠ second ∧
        socketPairFromUser address true flags files =
          .ok 0
            (((files.takePair pair aToB bToA).setFd first
                (socketFd flags [UInt8.ofNat pair, 0])).setFd second
              (socketFd flags [UInt8.ofNat pair, 1])) := by
  obtain ⟨aToB, bToA, found, alsoFound⟩ := hasTwoBuffers_iff.mp buffers
  have one : HasFreeFd files := by
    obtain ⟨low, _, ordered, behind, inTable, unused, _⟩ := free
    exact ⟨low, behind, Nat.lt_trans ordered inTable, unused⟩
  obtain ⟨first, isFirst, _⟩ := freeFd_of_hasFreeFd one
  obtain ⟨second, isSecond, apart⟩ :=
    @freeFd_second files first (socketFd flags [0, 0]) free rfl
  exact
    ⟨aToB, bToA, first, second, isFirst, isSecond, apart,
      socketPairFromUser_of_found someAddress
        (socketPairAlloc_of_found foundPair found alsoFound) isFirst isSecond
        apart⟩

theorem createsSafely_socketpair
    {domain address flags : UInt64}
    {copied : Bool}
    (sound : Sound state)
    (failsEarly :
      (ObjectCall.socketpair domain address copied flags).FailsEarly state) :
    CreatesSafely state (onFiles (socketpair domain address copied flags)) := by
  unfold socketpair
  by_cases isUnix : domain = 1
  · rw [if_pos isUnix]
    by_cases noAddress : address = 0
    · unfold socketPairFromUser
      rw [if_pos noAddress]
      exact .fail sound _
    by_cases available :
        state.unusedPair.isSome = true ∧ HasTwoBuffers state.toState
    · obtain ⟨isFound, buffers⟩ := available
      obtain ⟨free, rfl⟩ := failsEarly isUnix noAddress isFound buffers
      obtain ⟨pair, foundPair⟩ := Option.isSome_iff_exists.mp isFound
      obtain ⟨aToB, bToA, first, second, isFirst, isSecond, apart, returns⟩ :=
        @socketPairFromUser_returns state.toState address flags pair noAddress
          foundPair buffers free
      exact
        .of_ok (onFiles_of_ok returns)
          (sound_of_pair sound foundPair isFirst isSecond apart)
    · have notFound :
          state.unusedPair = none ∨ ¬ HasTwoBuffers state.toState := by
        rw [← Option.not_isSome_iff_eq_none]
        exact not_and_or.mp available
      obtain ⟨buffers, notAllocated, usage⟩ :=
        socketPairAlloc_of_not_found notFound
      have fails :=
        @socketPairFromUser_of_not_found state.toState address flags copied _
          noAddress notAllocated
      exact
        .of_err (onFiles_of_err fails) (sound_of_buffers sound buffers)
          (.of_buffers usage)
  · rw [if_neg isUnix]
    exact .fail sound _

end Pairs

end VibuxOS.Files
