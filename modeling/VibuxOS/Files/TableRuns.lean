import VibuxOS.Files.FileViews
import VibuxOS.Files.TableCalls

namespace VibuxOS.Files

open VibuxOS.Lib

/-!
# The descriptor table along runs

What a call may do to the table is said once: entries stay, are cleared, become
copies of open ones, or are made with a marked entry behind them.  That keeps
what holds of the table, and every call does no more than that.
-/

variable
  {fd : Fd}
  {files : State}
  {fdNumber : Int}
  {call : TableCall}

/-! ## What a call may do -/

/-- What holds of the table between two calls. -/
structure Orderly (state : ObjectState) : Prop where
  initialized : state.initialized = true
  empty :
    ∀ index < Syscall.fileFdMax,
      (state.fds index).used = false →
      state.fds index = Fd.empty
  named :
    ∀ index < Syscall.fileFdMax,
      (state.fds index).used = true →
      (state.fds index).Names state

/-- Where an entry of the table after a call comes from. -/
inductive EntryOf (before after : ObjectState) (fd : Fd) : Prop
  | cleared
      (isEmpty : fd = Fd.empty)
  | copied
      (other : Nat)
      (inTable : other < Syscall.fileFdMax)
      (used : (before.fds other).used = true)
      (flags position : UInt64)
      (isCopy :
        fd = { before.fds other with flags := flags, position := position })
  | made
      (used : fd.used = true)
      (names : fd.Names after)

/-- What a call may do to the table and the marks. -/
structure Moved (before after : ObjectState) : Prop where
  initialized : after.initialized = true
  buffers :
    ∀ index < Syscall.fileFdMax,
      ∀ id,
        (before.fds index).isPipeEnd id = true →
        (before.pipeBuffers id).used = true →
        (after.pipeBuffers id).used = true
  marks : ∀ key, before.marked key = true → after.marked key = true
  entries :
    ∀ index < Syscall.fileFdMax,
      after.fds index = before.fds index ∨
        EntryOf before after (after.fds index)

section Moves

variable {before after : ObjectState}

theorem Fd.isPipeEnd_iff
    {id : Nat} :
    fd.isPipeEnd id = true ↔
      (fd.kind = .pipeRead ∨ fd.kind = .pipeWrite) ∧
        fd.path.length = 1 ∧ fd.id = id := by
  simp [Fd.isPipeEnd, and_assoc]

theorem Moved.names
    (moved : Moved before after)
    {index : Nat}
    (inTable : index < Syscall.fileFdMax)
    (names : (before.fds index).Names before) :
    (before.fds index).Names after where
  pipe := by
    intro isPipe
    obtain ⟨length, inside, used⟩ := names.pipe isPipe
    have isEnd := Fd.isPipeEnd_iff.mpr ⟨isPipe, length, rfl⟩
    exact ⟨length, inside, moved.buffers index inTable _ isEnd used⟩
  object := by
    intro key refers
    obtain ⟨inside, marked⟩ := names.object key refers
    exact ⟨inside, moved.marks key marked⟩

theorem Moved.orderly
    (moved : Moved before after)
    (orderly : Orderly before) :
    Orderly after where
  initialized := moved.initialized
  empty := by
    intro index inTable unused
    rcases moved.entries index inTable with same | entry
    · rw [same] at unused ⊢
      exact orderly.empty index inTable unused
    · cases entry with
      | cleared isEmpty => exact isEmpty
      | copied other _ used _ _ isCopy =>
          rw [isCopy] at unused
          change (before.fds other).used = false at unused
          rw [used] at unused
          cases unused
      | made used =>
          rw [used] at unused
          cases unused
  named := by
    intro index inTable used
    rcases moved.entries index inTable with same | entry
    · rw [same] at used ⊢
      exact moved.names inTable (orderly.named index inTable used)
    · cases entry with
      | cleared isEmpty =>
          rw [isEmpty] at used
          cases used
      | copied other otherInTable otherUsed flags position isCopy =>
          have names :=
            moved.names otherInTable
              (orderly.named other otherInTable otherUsed)
          rw [isCopy]
          exact ⟨names.pipe, names.object⟩
      | made _ names => exact names

theorem Moved.refl
    (orderly : Orderly before) :
    Moved before before :=
  ⟨orderly.initialized, fun _ _ _ _ used => used, fun _ marked => marked,
    fun _ _ => .inl rfl⟩

/-- What the marks and the other flags of a process are. -/
def usage
    (files : State) :
    Bool × (Nat → Bool) × (Nat → Bool) × (Nat → Bool) × (Nat → Bool) ×
      (Nat → Bool) :=
  (files.initialized, fun id => (files.pipeBuffers id).used,
    fun id => (files.eventFds id).used, fun id => (files.timerFds id).used,
    fun id => (files.signalFds id).used,
    fun id => (files.socketPairs id).used)

theorem Moved.of_usage
    (orderly : Orderly before)
    (same : usage files = usage before.toState)
    (entries :
      ∀ index < Syscall.fileFdMax,
        files.fds index = before.fds index ∨
          EntryOf before { before with toState := files } (files.fds index)) :
    Moved before { before with toState := files } := by
  simp only [usage, Prod.mk.injEq] at same
  obtain ⟨initialized, buffers, events, timers, signals, pairs⟩ := same
  refine ⟨initialized.trans orderly.initialized, ?_, ?_, entries⟩
  · intro _ _ id _ used
    exact (congrFun buffers id).trans used
  · rintro ⟨table, id⟩ marked
    cases table with
    | eventFd => exact (congrFun events id).trans marked
    | timerFd => exact (congrFun timers id).trans marked
    | signalFd => exact (congrFun signals id).trans marked
    | epoll => exact marked
    | socketPair => exact (congrFun pairs id).trans marked

theorem ensures_onFiles
    {α : Type}
    {state : ObjectState}
    {program : Sys α}
    {after : α → ObjectState → Prop}
    {failed : ObjectState → Prop}
    (ensures :
      Prog.Ensures (fun files => files = state.toState) program
        (fun value files => after value { state with toState := files })
        (fun files => failed { state with toState := files })) :
    Prog.Ensures (fun current => current = state) (onFiles program) after
      failed := by
  apply Prog.Ensures.onPart
  · rintro _ value files rfl returned
    exact (ensures _ rfl).1 value files returned
  · rintro _ error files rfl failed
    exact (ensures _ rfl).2 error files failed

/-- What a program does from one state; a failing one only moves the table. -/
def Does
    {α : Type}
    (state : ObjectState)
    (program : Sys α)
    (after : α → ObjectState → Prop) : Prop :=
  Prog.Ensures (fun files => files = state.toState) program
    (fun value files => after value { state with toState := files })
    (fun files => Moved state { state with toState := files })

/-- A program that moves the table whichever way it ends. -/
def MovesOnly
    {α : Type}
    (state : ObjectState)
    (program : Sys α) : Prop :=
  Does state program fun _ => Moved state

theorem does_refused
    {α : Type}
    {after : α → ObjectState → Prop}
    (orderly : Orderly before)
    (error : Errno) :
    Does before (Prog.fail error) after := by
  apply Prog.Ensures.fail
  rintro _ rfl
  exact .refl orderly

end Moves

/-! ## New descriptors -/

section New

variable
  {state taken : ObjectState}
  {fd : Fd}
  {number : Nat}

theorem names_of_plain
    (plain : fd.kind.slotted = false) :
    fd.Names state := by
  constructor
  · rintro (isPipe | isPipe) <;> rw [isPipe] at plain <;> cases plain
  · intro key refers
    unfold Fd.slot at refers
    cases kind : fd.kind <;> rw [kind] at plain refers <;> cases plain <;>
      simp at refers

theorem names_of_socket
    (flags : UInt64) :
    (socketFd flags []).Names state := by
  constructor
  · rintro (isPipe | isPipe) <;> cases isPipe
  · intro key refers
    cases refers

theorem names_of_object
    {key : Table × Nat}
    (noPipe : fd.kind ≠ .pipeRead ∧ fd.kind ≠ .pipeWrite)
    (refers : fd.slot = some key)
    (inside : key.2 < key.1.size)
    (marked : state.marked key = true) :
    fd.Names state := by
  constructor
  · rintro (isPipe | isPipe)
    · exact (noPipe.1 isPipe).elim
    · exact (noPipe.2 isPipe).elim
  · intro other alsoRefers
    rw [refers] at alsoRefers
    cases alsoRefers
    exact ⟨inside, marked⟩

theorem Moved.setFd
    (moved : Moved state taken)
    (entry : EntryOf state taken fd) :
    Moved state
      { taken with toState := taken.toState.setFd number fd } where
  initialized := moved.initialized
  buffers := moved.buffers
  marks := moved.marks
  entries := by
    have again :
        ∀ {other : Fd},
          EntryOf state taken other →
          EntryOf state
            { taken with toState := taken.toState.setFd number fd } other := by
      intro other origin
      cases origin with
      | cleared isEmpty => exact .cleared isEmpty
      | copied index inTable used flags position isCopy =>
          exact .copied index inTable used flags position isCopy
      | made used names => exact .made used ⟨names.pipe, names.object⟩
    intro index inTable
    by_cases same : index = number
    · subst same
      right
      rw [fds_setFd_self]
      exact again entry
    · rw [fds_setFd_of_ne same]
      exact (moved.entries index inTable).imp id again

theorem allocFd_cases
    (fd : Fd)
    (files : State) :
    (∃ number,
        LowestFree files.fds 3 number ∧
          allocFd fd files = .ok number (files.setFd number fd)) ∨
      allocFd fd files = .err .emfile files := by
  cases free : freeFd files.fds with
  | none => exact .inr (allocFd_of_full free fd)
  | some number =>
      exact .inl ⟨number, find_free_iff.mp free, allocFd_of_free free fd⟩

theorem LowestFree.congr
    {left right : Nat → Fd}
    {least : Nat}
    (isLowest : LowestFree left least number)
    (same : ∀ index, (left index).used = (right index).used) :
    LowestFree right least number := by
  unfold LowestFree at *
  simpa only [same] using isLowest

theorem used_update
    (fds : Nat → Fd)
    (number : Nat)
    (fd other : Fd)
    (same : fd.used = other.used)
    (index : Nat) :
    (Function.update fds number fd index).used =
      (Function.update fds number other index).used := by
  rw [Function.update_apply, Function.update_apply]
  split
  · exact same
  · rfl

/-- The table and the marks are as they were. -/
def Intact (state : ObjectState) (files : State) : Prop :=
  files.fds = state.fds ∧ usage files = usage state.toState

theorem Intact.moved
    (intact : Intact state files)
    (orderly : Orderly state) :
    Moved state { state with toState := files } :=
  .of_usage orderly intact.2 fun index _ =>
    .inl (congrFun intact.1 index)

/-- One descriptor is made, or two, at the lowest numbers. -/
def Chosen
    (two : Bool)
    (least : Nat)
    (state : ObjectState)
    (number : Nat)
    (final : ObjectState) : Prop :=
  Moved state final ∧
    ∃ numbers,
      (if two then numbers.length = 2 else numbers = [number]) ∧
        Made least state.fds numbers final.fds

/-- A program that makes one descriptor, or leaves the table alone. -/
def MakesOne (state : ObjectState) (program : Sys Nat) : Prop :=
  Prog.Ensures (Intact state) program
    (fun number files =>
      Chosen false 3 state number { state with toState := files })
    (fun files => Moved state { state with toState := files })

variable (orderly : Orderly state)

include orderly

theorem makesOne_allocFd
    (used : fd.used = true)
    (names : ∀ other, fd.Names other) :
    MakesOne state (allocFd fd) := by
  intro files intact
  have moved := intact.moved orderly
  rcases allocFd_cases fd files with ⟨number, isLowest, made⟩ | full
  · refine
      Prog.ends_ok made ⟨moved.setFd (.made used (names _)), [number], rfl, ?_⟩
    change Made 3 _ _ (Function.update files.fds number fd)
    rw [intact.1] at isLowest ⊢
    exact .more isLowest used (.nothing _)
  · exact Prog.ends_err full moved

theorem makesOne_refused
    (error : Errno) :
    MakesOne state (Prog.fail error) :=
  .fail fun _ intact => intact.moved orderly

theorem keeps_init :
    Prog.Ensures (Intact state) init (fun _ => Intact state)
      (fun files => Moved state { state with toState := files }) := by
  intro files intact
  have initialized : files.initialized = true :=
    (congrArg Prod.fst intact.2).trans orderly.initialized
  exact Prog.ends_ok (init_of_initialized initialized) intact

theorem makesOne_openPath
    (world : World)
    (path : List UInt8)
    (flags : UInt64) :
    MakesOne state (openPath world path flags) := by
  apply OpensWith.ensures_openPath
  exact
    { refused := fun _ intact => intact.moved orderly
      started := keeps_init orderly
      ramFile := fun _ _ _ intact => intact
      allocates := fun kind stored plain _ =>
        makesOne_allocFd orderly rfl fun _ => names_of_plain plain }

theorem makesOne_socketAlloc
    (domain kind flags : UInt64) :
    MakesOne state (socketAlloc domain kind flags) :=
  .ite (fun _ => makesOne_refused orderly _) fun _ =>
    makesOne_allocFd orderly rfl fun _ => names_of_socket flags

theorem makesOne_memfdCreate
    (name : Option (List UInt8))
    (flags : UInt64) :
    MakesOne state (memfdCreate name flags) := by
  cases name with
  | none => exact makesOne_refused orderly _
  | some name =>
      apply Prog.Ensures.ite fun _ => makesOne_refused orderly _
      intro _
      exact
        .bind (keeps_init orderly) fun _ =>
          makesOne_allocFd orderly rfl fun _ => names_of_plain rfl

theorem makesOne_pidfd
    (targetPid : UInt64) :
    MakesOne state (pidfd targetPid) :=
  .bind (keeps_init orderly) fun _ =>
    makesOne_allocFd orderly rfl fun _ => names_of_plain rfl

end New

/-! ## Entries of the tables of objects -/

section Objects

variable
  {state : ObjectState}
  {table : Table}
  {unused : ObjectState → Option Nat}
  {take giveBack : Nat → ObjectState → ObjectState}
  {kind : FileKind}
  {flags : UInt64}

/-- A program that makes one descriptor for an entry of a table. -/
def MakesObject (state : ObjectState) (program : ObjectSys Nat) : Prop :=
  Prog.Ensures (fun current => current = state) program
    (Chosen false 3 state) (Moved state)

/-- A change of a table that does not touch the descriptors and the pipes. -/
structure OnTable (before after : ObjectState) : Prop where
  initialized : after.initialized = before.initialized
  fds : after.fds = before.fds
  buffers : after.pipeBuffers = before.pipeBuffers

theorem OnTable.moved
    {before after : ObjectState}
    (onTable : OnTable before after)
    (orderly : Orderly before)
    (marks : ∀ key, before.marked key = true → after.marked key = true) :
    Moved before after where
  initialized := onTable.initialized.trans orderly.initialized
  buffers := by
    intro _ _ _ _ used
    rwa [onTable.buffers]
  marks := marks
  entries := fun index _ => .inl (congrFun onTable.fds index)

variable (orderly : Orderly state)

include orderly

theorem makesObject_allocObject
    (takes : TakesFrom table unused take)
    (inside : ∀ id, unused state = some id → id < table.size)
    (noPipe : kind ≠ .pipeRead ∧ kind ≠ .pipeWrite)
    (ofKind :
      ∀ fd : Fd,
        fd.used = true →
        fd.kind = kind →
        fd.slot = some (table, fd.id))
    (onTable :
      ∀ id current,
        OnTable current (take id current) ∧
          OnTable current (giveBack id current))
    (givesBack :
      ∀ id current,
        (giveBack id current).marked =
          Function.update current.marked (table, id) false) :
    MakesObject state
      (allocObject unused take giveBack (objectFd kind flags)) := by
  rintro state rfl
  have initialized := orderly.initialized
  cases found : unused state with
  | none =>
      exact Prog.ends_err (allocObject_of_full initialized found) (.refl orderly)
  | some id =>
      obtain ⟨small, unmarked⟩ := takes.free found
      have took := takes.taken state id
      obtain ⟨isTaken, _⟩ := onTable id state
      have moved : Moved state (take id state) := by
        apply isTaken.moved orderly
        intro key marked
        rw [took.marks, Function.update_apply]
        split
        · rfl
        · exact marked
      cases free : freeFd (take id state).fds with
      | some number =>
          have names : (objectFd kind flags id).Names (take id state) := by
            apply names_of_object noPipe (objectFd_slot small ofKind flags)
              (inside id found)
            rw [took.marks, Function.update_self]
          refine
            Prog.ends_ok (allocObject_of_free initialized found free)
              ⟨moved.setFd (.made rfl names), [number], rfl, ?_⟩
          change Made 3 _ _ (Function.update (take id state).fds number _)
          rw [took.fds] at free ⊢
          exact .more (find_free_iff.mp free) rfl (.nothing _)
      | none =>
          obtain ⟨_, isGiven⟩ := onTable id (take id state)
          have restored : OnTable state (giveBack id (take id state)) :=
            ⟨isGiven.initialized.trans isTaken.initialized,
              isGiven.fds.trans isTaken.fds,
              isGiven.buffers.trans isTaken.buffers⟩
          apply Prog.ends_err (allocObject_of_noFd initialized found free)
          apply restored.moved orderly
          intro key marked
          rw [givesBack, took.marks, Function.update_idem, ← unmarked,
            Function.update_eq_self]
          exact marked

theorem makesObject_refused
    (error : Errno) :
    MakesObject state (Prog.fail error) := by
  apply Prog.Ensures.fail
  rintro _ rfl
  exact .refl orderly

theorem makesObject_eventfdAlloc
    (counter flags : UInt64)
    (semaphore : Bool) :
    MakesObject state (eventfdAlloc counter flags semaphore) := by
  apply Prog.Ensures.ite fun _ => makesObject_refused orderly _
  intro _
  apply
    makesObject_allocObject orderly (takesFrom_eventFds _ _)
      (fun _ found => (firstUnused_free found).1)
  · exact ⟨nofun, nofun⟩
  · intro fd used kind
    simp [Fd.slot, used, kind]
  · exact fun _ _ => ⟨⟨rfl, rfl, rfl⟩, ⟨rfl, rfl, rfl⟩⟩
  · exact fun _ _ => marked_putEventFd _ _ _

theorem makesObject_timerfdAlloc
    (clockId flags : UInt64) :
    MakesObject state (timerfdAlloc clockId flags) := by
  apply Prog.Ensures.ite fun _ => makesObject_refused orderly _
  intro _
  apply Prog.Ensures.ite fun _ => makesObject_refused orderly _
  intro _
  apply
    makesObject_allocObject orderly takesFrom_timerFds
      (fun _ found => (firstUnused_free found).1)
  · exact ⟨nofun, nofun⟩
  · intro fd used kind
    simp [Fd.slot, used, kind]
  · exact fun _ _ => ⟨⟨rfl, rfl, rfl⟩, ⟨rfl, rfl, rfl⟩⟩
  · exact fun _ _ => marked_putTimerFd _ _ _

theorem makesObject_signalfdAlloc
    (mask flags : UInt64) :
    MakesObject state (signalfdAlloc mask flags) := by
  apply Prog.Ensures.ite fun _ => makesObject_refused orderly _
  intro _
  apply
    makesObject_allocObject orderly (takesFrom_signalFds _)
      (fun _ found => (firstUnused_free found).1)
  · exact ⟨nofun, nofun⟩
  · intro fd used kind
    simp [Fd.slot, used, kind]
  · exact fun _ _ => ⟨⟨rfl, rfl, rfl⟩, ⟨rfl, rfl, rfl⟩⟩
  · exact fun _ _ => marked_putSignalFd _ _ _

theorem makesObject_epollAlloc
    (flags : UInt64) :
    MakesObject state (epollAlloc flags) := by
  apply Prog.Ensures.ite fun _ => makesObject_refused orderly _
  intro _
  apply
    makesObject_allocObject orderly takesFrom_epolls
      (fun _ found => (firstUnused_free found).1)
  · exact ⟨nofun, nofun⟩
  · intro fd used kind
    simp [Fd.slot, used, kind]
  · exact fun _ _ => ⟨⟨rfl, rfl, rfl⟩, ⟨rfl, rfl, rfl⟩⟩
  · exact fun _ _ => marked_putEpoll _ _ _

end Objects

/-! ## Two descriptors at once -/

section Two

variable {state : ObjectState}

/-- A program that makes two descriptors, or leaves the table alone. -/
def MakesTwo (state : ObjectState) (program : Sys Nat) : Prop :=
  Does state program (Chosen true 3 state)

theorem fds_dropped
    {index number : Nat}
    (others :
      index ≠ number → files.fds index = fd ∨ files.fds index = Fd.empty) :
    (files.setFd number Fd.empty).fds index = fd ∨
      (files.setFd number Fd.empty).fds index = Fd.empty := by
  by_cases same : index = number
  · subst same
    exact .inr (fds_setFd_self _ _ _)
  · rw [fds_setFd_of_ne same]
    exact others same

theorem names_of_pipe
    {taken : ObjectState}
    {kind : FileKind}
    {id : Nat}
    (inside : id < Syscall.pipeMax)
    (noTable : ∀ flags, (objectFd kind flags id).slot = none)
    (used : (taken.pipeBuffers id).used = true)
    (flags : UInt64) :
    (objectFd kind flags id).Names taken := by
  have sameId : (objectFd kind flags id).id = id := by
    change (UInt8.ofNat id).toNat = id
    rw [UInt8.toNat_ofNat']
    exact Nat.mod_eq_of_lt (Nat.lt_trans inside (by decide))
  constructor
  · rw [sameId]
    exact fun _ => ⟨rfl, inside, used⟩
  · intro key refers
    rw [noTable flags] at refers
    cases refers

theorem names_of_socketEnd
    {taken : ObjectState}
    {pair : Nat}
    (inside : pair < Syscall.socketMax)
    (marked : taken.marked (.socketPair, pair) = true)
    (flags : UInt64)
    (side : UInt8) :
    (socketFd flags [UInt8.ofNat pair, side]).Names taken :=
  names_of_object ⟨nofun, nofun⟩ (socketFd_slot inside flags side) inside
    marked

variable (orderly : Orderly state)

include orderly

theorem moved_of_dropped
    (initialized : files.initialized = state.initialized)
    (fds :
      ∀ index,
        files.fds index = state.fds index ∨ files.fds index = Fd.empty)
    (buffers :
      ∀ index < Syscall.fileFdMax,
        ∀ id,
          (state.fds index).isPipeEnd id = true →
          (state.pipeBuffers id).used = true →
          (files.pipeBuffers id).used = true)
    (marks :
      ∀ key,
        state.marked key = true →
        ({ state with toState := files } : ObjectState).marked key = true) :
    Moved state { state with toState := files } :=
  ⟨initialized.trans orderly.initialized, buffers, marks,
    fun index _ => (fds index).imp id .cleared⟩

theorem pipeAllocSlot_cases :
    (∃ id < Syscall.pipeMax,
        pipeSlotReferenced state.toState id = false ∧
          pipeAllocSlot state.toState =
            .ok (some id)
              (state.toState.putBuffer id Syscall.PipeBuffer.fresh)) ∨
      pipeAllocSlot state.toState = .ok none state.toState := by
  unfold pipeAllocSlot
  rw [Prog.bind_of_ok (init_of_initialized orderly.initialized),
    Prog.gets_bind_apply]
  cases found : firstUnused Syscall.pipeMax (pipeSlotReferenced state.toState)
      with
  | none => exact .inr rfl
  | some id =>
      obtain ⟨inside, unreferenced⟩ := firstUnused_free found
      exact .inl ⟨id, inside, unreferenced, rfl⟩

theorem makesTwo_createPipe
    (copied : Bool)
    (flags : UInt64) :
    MakesTwo state (createPipe copied flags) := by
  apply Prog.Ensures.ite fun _ => does_refused orderly _
  intro _
  rintro _ rfl
  rcases pipeAllocSlot_cases orderly with
    ⟨id, inside, unreferenced, allocated⟩ | full
  swap
  · exact Prog.ends_err (Prog.bind_of_ok full) (.refl orderly)
  rw [Prog.bind_of_ok allocated]
  dsimp only
  have fresh :
      ((state.toState.putBuffer id Syscall.PipeBuffer.fresh).pipeBuffers
          id).used = true := by
    rw [pipeBuffers_putBuffer_self]
    rfl
  have grown :
      ∀ other,
        (state.pipeBuffers other).used = true →
        ((state.toState.putBuffer id Syscall.PipeBuffer.fresh).pipeBuffers
            other).used = true := by
    intro other used
    by_cases same : other = id
    · rw [same]
      exact fresh
    · rwa [pipeBuffers_putBuffer_of_ne same]
  -- no descriptor names the buffer that is given back
  have released :
      ∀ index < Syscall.fileFdMax,
        ∀ other,
          (state.fds index).isPipeEnd other = true →
          (state.pipeBuffers other).used = true →
          (((state.toState.putBuffer id
              Syscall.PipeBuffer.fresh).releaseBuffer id).pipeBuffers
            other).used = true := by
    intro index inTable other isEnd used
    have apart : other ≠ id := by
      rintro rfl
      rw [pipeSlotReferenced, List.any_eq_false] at unreferenced
      exact unreferenced index (List.mem_range.mpr inTable) isEnd
    unfold State.releaseBuffer
    rw [pipeBuffers_putBuffer_of_ne apart]
    exact grown other used
  have moved :
      Moved state
        { state with
          toState :=
            state.toState.putBuffer id Syscall.PipeBuffer.fresh } :=
    ⟨orderly.initialized, fun _ _ other _ => grown other,
      fun _ marked => marked, fun _ _ => .inl rfl⟩
  rcases allocFd_cases (objectFd .pipeRead flags id)
      (state.toState.putBuffer id Syscall.PipeBuffer.fresh) with
    ⟨first, isFirst, makesFirst⟩ | noFirst
  swap
  · rw [Prog.bind_of_ok (Prog.attempt_of_err noFirst)]
    apply Prog.ends_err rfl
    exact
      moved_of_dropped orderly rfl (fun _ => .inl rfl) released
        fun _ marked => marked
  rw [Prog.bind_of_ok (Prog.attempt_of_ok makesFirst)]
  dsimp only
  have movedFirst :=
    @Moved.setFd _ _ _ first moved
      (.made rfl
        (@names_of_pipe _ .pipeRead _ inside (fun _ => rfl) fresh flags))
  rcases allocFd_cases (objectFd .pipeWrite (flags ||| Syscall.oWronly) id)
      ((state.toState.putBuffer id Syscall.PipeBuffer.fresh).setFd first
        (objectFd .pipeRead flags id)) with
    ⟨second, isSecond, makesSecond⟩ | noSecond
  swap
  · rw [Prog.bind_of_ok (Prog.attempt_of_err noSecond)]
    apply Prog.ends_err rfl
    refine moved_of_dropped orderly rfl ?_ released fun _ marked => marked
    exact fun _ => fds_dropped fun apart => .inl (fds_setFd_of_ne apart)
  rw [Prog.bind_of_ok (Prog.attempt_of_ok makesSecond)]
  cases copied with
  | true =>
      refine
        Prog.ends_ok rfl
          ⟨movedFirst.setFd
              (.made rfl
                (@names_of_pipe _ .pipeWrite _ inside (fun _ => rfl) fresh _)),
            [first, second], rfl, ?_⟩
      exact .more isFirst rfl (.more isSecond rfl (.nothing _))
  | false =>
      apply Prog.ends_err rfl
      refine moved_of_dropped orderly rfl ?_ released fun _ marked => marked
      intro index
      apply fds_dropped
      intro apart
      apply fds_dropped
      intro alsoApart
      left
      rw [fds_setFd_of_ne apart, fds_setFd_of_ne alsoApart]
      rfl

theorem moved_of_takePair
    (pair aToB bToA : Nat) :
    Moved state
      { state with toState := state.toState.takePair pair aToB bToA } where
  initialized := orderly.initialized
  buffers := by
    intro _ _ id _ used
    change
      (Function.update (Function.update state.pipeBuffers aToB _) bToA _
        id).used = true
    rw [Function.update_apply, Function.update_apply]
    split
    · rfl
    · split
      · rfl
      · exact used
  marks := by
    intro key marked
    rw [(entryTaken_takePair pair aToB bToA).marks, Function.update_apply]
    split
    · rfl
    · exact marked
  entries := fun _ _ => .inl rfl

theorem moved_of_pair_dropped
    {pair aToB bToA : Nat}
    (unused : (state.socketPairs pair).used = false)
    (fds :
      ∀ index,
        files.fds index = state.fds index ∨ files.fds index = Fd.empty) :
    Moved state
      { state with
        toState :=
          State.putPair pair Syscall.SocketPair.empty
            { state.toState.takePair pair aToB bToA with
              fds := files.fds } } := by
  have taken := moved_of_takePair orderly pair aToB bToA
  refine moved_of_dropped orderly rfl fds taken.buffers ?_
  rintro ⟨table, id⟩ marked
  have still := taken.marks (table, id) marked
  cases table with
  | socketPair =>
      have apart : id ≠ pair := by
        rintro rfl
        change (state.socketPairs id).used = true at marked
        rw [unused] at marked
        cases marked
      change
        (Function.update (state.toState.takePair pair aToB bToA).socketPairs
          pair _ id).used = true
      rw [Function.update_of_ne apart]
      exact still
  | _ => exact still

theorem makesTwo_socketpair
    (domain address : UInt64)
    (copied : Bool)
    (flags : UInt64) :
    MakesTwo state (socketpair domain address copied flags) := by
  apply Prog.Ensures.ite _ fun _ => does_refused orderly _
  intro _
  apply Prog.Ensures.ite fun _ => does_refused orderly _
  intro _
  rintro _ rfl
  by_cases available :
      state.unusedPair.isSome = true ∧ HasTwoBuffers state.toState
  swap
  · have notFound :
        state.unusedPair = none ∨ ¬ HasTwoBuffers state.toState := by
      rw [← Option.not_isSome_iff_eq_none]
      exact not_and_or.mp available
    obtain ⟨buffers, notAllocated, used⟩ :=
      socketPairAlloc_of_not_found notFound
    rw [Prog.bind_of_ok notAllocated]
    apply Prog.ends_err rfl
    refine .of_usage orderly ?_ fun _ _ => .inl rfl
    unfold usage
    dsimp only
    rw [funext used]
  obtain ⟨isFound, hasBuffers⟩ := available
  obtain ⟨pair, foundPair⟩ := Option.isSome_iff_exists.mp isFound
  obtain ⟨aToB, bToA, foundFirst, foundSecond⟩ :=
    hasTwoBuffers_iff.mp hasBuffers
  obtain ⟨inside, unused⟩ := firstUnused_free foundPair
  have dropped :=
    fun files => @moved_of_pair_dropped files state orderly pair aToB bToA unused
  rw [Prog.bind_of_ok
    (socketPairAlloc_of_found foundPair foundFirst foundSecond)]
  dsimp only
  rcases allocFd_cases (socketFd flags [0, 0])
      (state.toState.takePair pair aToB bToA) with
    ⟨first, isFirst, makesFirst⟩ | full
  swap
  · rw [Prog.bind_of_ok (Prog.attempt_of_err full),
      Prog.bind_of_ok (Prog.attempt_of_err full)]
    exact Prog.ends_err rfl (dropped state.toState fun _ => .inl rfl)
  rw [Prog.bind_of_ok (Prog.attempt_of_ok makesFirst)]
  rcases allocFd_cases (socketFd flags [0, 0])
      ((state.toState.takePair pair aToB bToA).setFd first
        (socketFd flags [0, 0])) with
    ⟨second, isSecond, makesSecond⟩ | full
  swap
  · rw [Prog.bind_of_ok (Prog.attempt_of_err full)]
    apply Prog.ends_err rfl
    apply
      dropped
        ((state.toState.setFd first (socketFd flags [0, 0])).setFd first
          Fd.empty)
    exact fun _ => fds_dropped fun apart => .inl (fds_setFd_of_ne apart)
  have apart : first ≠ second := by
    rintro rfl
    have free := isSecond.1.2.2
    rw [fds_setFd_self] at free
    cases free
  rw [Prog.bind_of_ok (Prog.attempt_of_ok makesSecond)]
  dsimp only
  rw [Prog.modify_bind_apply, Prog.modify_bind_apply, setFd_comm apart,
    setPath_setFd, setFd_comm apart.symm, setPath_setFd]
  cases copied with
  | true =>
      have marked :
          ({ state with
              toState := state.toState.takePair pair aToB bToA } :
            ObjectState).marked (.socketPair, pair) = true := by
        rw [(entryTaken_takePair pair aToB bToA).marks, Function.update_self]
      have names := names_of_socketEnd inside marked flags
      have taken := moved_of_takePair orderly pair aToB bToA
      refine
        Prog.ends_ok rfl
          ⟨(taken.setFd (.made rfl (names 0))).setFd
              (.made rfl ⟨(names 1).pipe, (names 1).object⟩),
            [first, second], rfl, ?_⟩
      have alsoSecond :=
        isSecond.congr
          (used_update state.fds first (socketFd flags [0, 0])
            (socketFd flags [UInt8.ofNat pair, 0]) rfl)
      exact
        @Made.more _ _ _ _ _ (socketFd flags [UInt8.ofNat pair, 0]) isFirst
          rfl
          (@Made.more _ _ _ _ _ (socketFd flags [UInt8.ofNat pair, 1])
            alsoSecond rfl (.nothing _))
  | false =>
      apply Prog.ends_err rfl
      apply
        dropped
          ((((state.toState.setFd first
                (socketFd flags [UInt8.ofNat pair, 0])).setFd second
              (socketFd flags [UInt8.ofNat pair, 1])).setFd first
            Fd.empty).setFd second Fd.empty)
      intro index
      apply fds_dropped
      intro notSecond
      apply fds_dropped
      intro notFirst
      left
      rw [fds_setFd_of_ne notSecond, fds_setFd_of_ne notFirst]

end Two

/-! ## Copies, and entries that are cleared -/

section Copies

variable {state : ObjectState}

theorem entryOf_open
    (isOpen : OpenFd state.fds fdNumber)
    (flags : UInt64) :
    EntryOf state state { state.fds fdNumber.toNat with flags := flags } :=
  .copied fdNumber.toNat ((Int.toNat_lt isOpen.1).mpr isOpen.2.1) isOpen.2.2
    flags _ rfl

variable (orderly : Orderly state)

include orderly

theorem movesOnly_of_readOnly
    {α : Type}
    {program : Sys α}
    (reads : Prog.ReadOnly program) :
    MovesOnly state program := by
  rintro _ rfl
  constructor
  · intro _ _ returned
    rw [reads.1 returned]
    exact .refl orderly
  · intro _ _ failed
    rw [reads.2 failed]
    exact .refl orderly

theorem movesOnly_setFd
    (number : Nat)
    (entry : EntryOf state state fd) :
    MovesOnly state (Prog.modify (State.setFd number fd)) := by
  apply Prog.Ensures.modify
  rintro _ rfl
  exact (Moved.refl orderly).setFd entry

theorem movesOnly_snapshot
    {α : Type}
    {next : Fd → Sys α}
    (moves :
      OpenFd state.fds fdNumber →
      MovesOnly state (next (state.fds fdNumber.toNat))) :
    MovesOnly state (fdSnapshot fdNumber >>= next) :=
  ensures_fdSnapshot_bind (.refl orderly) moves

theorem movesOnly_fdDuplicateExact
    (oldFd newFd : Int)
    (cloexec : Bool) :
    MovesOnly state (fdDuplicateExact oldFd newFd cloexec) := by
  have same := @movesOnly_of_readOnly state orderly Nat
  apply Prog.Ensures.ite fun _ => same (.fail _)
  intro _
  apply Prog.Ensures.ite fun _ => same (.ite (.fail _) (.pure _))
  intro _
  apply Prog.Ensures.ite fun _ => same (.fail _)
  intro _
  apply movesOnly_snapshot orderly
  intro isOpen
  apply Prog.Ensures.bind (movesOnly_setFd orderly _ (entryOf_open isOpen _))
  exact fun _ => .pure fun _ moved => moved

theorem movesOnly_close
    (fdNumber : Int) :
    MovesOnly state (close fdNumber) :=
  movesOnly_snapshot orderly fun _ => movesOnly_setFd orderly _ (.cleared rfl)

theorem moved_of_cleared
    {fds : Nat → Fd}
    (cleared :
      ∀ index, fds index = state.fds index ∨ fds index = Fd.empty) :
    Moved state
      { state with toState := { state.toState with fds := fds } } :=
  .of_usage orderly rfl fun index _ => (cleared index).imp id .cleared

theorem movesOnly_closeRange
    (first last flags : Nat) :
    MovesOnly state (closeRange first last flags) := by
  apply Prog.Ensures.ite fun _ => movesOnly_of_readOnly orderly (.fail _)
  intro _
  apply Prog.Ensures.modify
  rintro _ rfl
  apply moved_of_cleared orderly
  intro index
  split
  · exact .inr rfl
  · exact .inl rfl

theorem movesOnly_closeOnExec :
    MovesOnly state closeOnExec := by
  apply Prog.Ensures.modify
  rintro _ rfl
  apply moved_of_cleared orderly
  intro index
  split
  · exact .inr rfl
  · exact .inl rfl

theorem ensures_copy_made
    (oldFd minFd : Int)
    (cloexec : Bool) :
    Does state (fdDuplicate oldFd minFd cloexec)
      (Chosen false (max 3 minFd.toNat) state) := by
  rintro _ rfl
  rcases fdDuplicate_cases oldFd minFd cloexec state.toState with
    ⟨error, failed, _⟩ | ⟨number, isOpen, _, isLowest, made⟩
  · exact Prog.ends_err failed (.refl orderly)
  · refine
      Prog.ends_ok made
        ⟨(Moved.refl orderly).setFd (entryOf_open isOpen _), [number], rfl, ?_⟩
    rw [Nat.max_comm]
    exact
      @Made.more _ _ _ _ _ ((state.fds oldFd.toNat).withCloexec cloexec)
        isLowest isOpen.2.2 (.nothing _)

theorem movesOnly_setFlags
    (isOpen : OpenFd state.fds fdNumber)
    (flags : UInt64)
    (answer : FcntlAnswer) :
    MovesOnly state
      (Prog.modify (State.setFlags fdNumber.toNat flags) >>= fun _ =>
        pure answer) := by
  rintro _ rfl
  exact
    Prog.ends_ok rfl ((Moved.refl orderly).setFd (entryOf_open isOpen flags))

end Copies

/-! ## Reads and writes -/

section Transfers

variable
  {state : ObjectState}
  {fdNumber : Int}

/-- What holds of the table with other files. -/
def OrderlyWith (state : ObjectState) (files : State) : Prop :=
  Orderly { state with toState := files }

/-- The table without the position of a descriptor, and what is in use. -/
def entryView (number : Nat) (files : State) :=
  (fun index =>
      if index = number then
        { files.fds index with position := 0 }
      else
        files.fds index,
    usage files)

theorem used_replaced
    {α : Type}
    (used : α → Bool)
    (entries : Nat → α)
    (id : Nat)
    (entry : α)
    (same : used entry = used (entries id)) :
    (fun other => used (Function.update entries id entry other)) =
      fun other => used (entries other) := by
  funext other
  rw [Function.update_apply]
  split
  · rw [same, ‹other = id›]
  · rfl

theorem unread_entryView (number : Nat) :
    Unread number (entryView number) where
  eventFd := by
    intro files id event used
    have same := used_replaced _ files.eventFds id event used
    unfold entryView usage State.setEventFd
    dsimp only
    rw [same]
  timerFd := by
    intro files id timer used
    have same := used_replaced _ files.timerFds id timer used
    unfold entryView usage State.setTimerFd
    dsimp only
    rw [same]
  terminal := fun _ _ => rfl
  pending := fun _ _ => rfl
  takePipe := by
    intro files id amount
    have same :=
      used_replaced Syscall.PipeBuffer.used files.pipeBuffers id
        ((files.pipeBuffers id).take amount) rfl
    unfold entryView usage State.takePipe
    dsimp only
    rw [same]
  position := by
    intro files position
    unfold entryView
    congr 1
    funext index
    by_cases isNumber : index = number
    · rw [if_pos isNumber, if_pos isNumber, isNumber, fds_setFd_self]
    · rw [if_neg isNumber, if_neg isNumber, fds_setFd_of_ne isNumber]

theorem unwritten_entryView (number : Nat) :
    Unwritten number (entryView number) where
  eventFd := (unread_entryView number).eventFd
  contents := fun _ _ _ _ => rfl
  putPipe := by
    intro files id source amount
    have same :=
      used_replaced Syscall.PipeBuffer.used files.pipeBuffers id
        ((files.pipeBuffers id).put source amount) rfl
    unfold entryView usage State.putPipe
    dsimp only
    rw [same]
  position := (unread_entryView number).position

theorem eq_with_position
    {left right : Fd}
    (same :
      { left with position := 0 } = { right with position := 0 }) :
    left = { right with position := left.position } := by
  simp only [Fd.mk.injEq] at same
  obtain ⟨used, kind, flags, _, path⟩ := same
  rw [← used, ← kind, ← flags, ← path]

/-- A call on a descriptor that changes no more than its position. -/
theorem keeps_of_view
    {α : Type}
    {program : Sys α}
    (preserves : Prog.Preserves (entryView fdNumber.toNat) program)
    (closed :
      ∀ files,
        ¬ OpenFd files.fds fdNumber →
        (program files).final? = some files) :
    Prog.Keeps (OrderlyWith state) program := by
  intro files orderly
  have keeps :
      ∀ final,
        (program files).final? = some final →
        entryView fdNumber.toNat final = entryView fdNumber.toNat files →
        OrderlyWith state final := by
    intro final ended same
    by_cases isOpen : OpenFd files.fds fdNumber
    · have moved :
          Moved { state with toState := files }
            { state with toState := final } := by
        refine
          @Moved.of_usage final { state with toState := files } orderly
            (congrArg Prod.snd same) fun index inTable => ?_
        have sameEntry := congrFun (congrArg Prod.fst same) index
        unfold entryView at sameEntry
        dsimp only at sameEntry
        by_cases isNumber : index = fdNumber.toNat
        · rw [if_pos isNumber, if_pos isNumber] at sameEntry
          subst isNumber
          exact
            .inr
              (.copied _ inTable isOpen.2.2 _ _
                (eq_with_position sameEntry))
        · rw [if_neg isNumber, if_neg isNumber] at sameEntry
          exact .inl sameEntry
      exact moved.orderly orderly
    · rw [closed files isOpen] at ended
      cases ended
      exact orderly
  constructor
  · intro value final returned
    exact
      keeps final (by rw [returned]; rfl) (preserves.of_ok returned)
  · intro error final failed
    exact
      keeps final (by rw [failed]; rfl) (preserves.of_err failed)

theorem keeps_readFd
    (world : World)
    (count : Nat) :
    Prog.Keeps (OrderlyWith state) (readFd world fdNumber count) := by
  apply keeps_of_view (preserves_readFd (unread_entryView _) _ _)
  intro files isClosed
  unfold readFd
  split
  · rfl
  · split
    · rfl
    · rw [Prog.bind_of_err (fdSnapshot_of_not_open isClosed)]
      rfl

theorem keeps_writeFd
    (world : World)
    (count : Nat) :
    Prog.Keeps (OrderlyWith state) (writeFd world fdNumber count) := by
  apply keeps_of_view (preserves_writeFd (unwritten_entryView _) _ _)
  intro files isClosed
  unfold writeFd
  split
  · rfl
  · split
    · rfl
    · rw [Prog.bind_of_err (fdSnapshot_of_not_open isClosed)]
      rfl

theorem keeps_lseek
    (world : World)
    (offset : UInt64)
    (whence : Int) :
    Prog.Keeps (OrderlyWith state) (lseek world fdNumber offset whence) := by
  apply
    keeps_of_view (preserves_lseek (unread_entryView _).position _ _ _)
  intro files isClosed
  unfold lseek
  rw [Prog.bind_of_err (fdSnapshot_of_not_open isClosed)]
  rfl

end Transfers

/-! ## Every call -/

section Calls

variable {state : ObjectState}

/-- A call keeps what holds of the table and chooses the lowest numbers. -/
def Behaves (state : ObjectState) (call : TableCall) : Prop :=
  Prog.Ensures (fun current => current = state) call.run
    (fun number final => Orderly final ∧ call.Chooses 3 state number final)
    Orderly

/-- A program that keeps what holds of the table. -/
def KeepsOrder
    {α : Type}
    (state : ObjectState)
    (program : Sys α) : Prop :=
  Prog.Ensures (fun files => files = state.toState) program
    (fun _ => OrderlyWith state) (OrderlyWith state)

theorem behaves_of_ensures
    {α : Type}
    {program : Sys α}
    {answer : α → Nat}
    (chooses : call.lowest = none)
    (isCall : call.run = onFiles (program >>= fun value => pure (answer value)))
    (keepsOrder : KeepsOrder state program) :
    Behaves state call := by
  unfold Behaves
  rw [isCall]
  apply ensures_onFiles
  apply keepsOrder.bind
  intro _
  apply Prog.Ensures.pure
  intro _ orderly
  refine ⟨orderly, ?_⟩
  intro least isLeast
  rw [chooses] at isLeast
  cases isLeast

theorem bind_pure_self (program : Sys Nat) :
    program = program >>= fun value => pure (id value) := by
  funext files
  cases result : program files with
  | ok value final => rw [Prog.bind_of_ok result]; rfl
  | err error final => rw [Prog.bind_of_err result]
  | hang => rw [Prog.bind_of_hang result]

/-- What an answer of `fcntl` stands for. -/
def Answered
    (state : ObjectState)
    (command argument : UInt64)
    (answer : FcntlAnswer)
    (final : ObjectState) : Prop :=
  Moved state final ∧
    (command = 0 ∨ command = 1030 →
      Chosen false (max 3 (minimum argument).toNat) state answer.number final)

variable (orderly : Orderly state)

include orderly

theorem behaves_of_makes
    {minFd : Nat}
    (isLeast : call.lowest = some minFd)
    (makes :
      Prog.Ensures (fun current => current = state) call.run
        (Chosen call.makesTwo (max 3 minFd) state) (Moved state)) :
    Behaves state call := by
  rintro state rfl
  obtain ⟨returns, fails⟩ := makes _ rfl
  refine ⟨?_, fun error final failed => (fails error final failed).orderly orderly⟩
  intro number final returned
  obtain ⟨moved, chosen⟩ := returns number final returned
  refine ⟨moved.orderly orderly, ?_⟩
  intro least alsoLeast
  rw [isLeast] at alsoLeast
  cases alsoLeast
  exact chosen

theorem behaves_of_makesOne
    {program : Sys Nat}
    (isCall : call.run = onFiles program)
    (isLeast : call.lowest = some 3)
    (isOne : call.makesTwo = false)
    (makes : MakesOne state program) :
    Behaves state call := by
  apply behaves_of_makes orderly isLeast
  rw [isCall, isOne]
  apply ensures_onFiles
  apply makes.weaken
  rintro _ rfl
  exact ⟨rfl, rfl⟩

theorem MovesOnly.keepsOrder
    {α : Type}
    {program : Sys α}
    (moves : MovesOnly state program) :
    KeepsOrder state program := by
  intro files start
  obtain ⟨returns, fails⟩ := moves files start
  exact
    ⟨fun value final returned => (returns value final returned).orderly orderly,
      fun error final failed => (fails error final failed).orderly orderly⟩

theorem keepsOrder_of_keeps
    {α : Type}
    {program : Sys α}
    (keeps : Prog.Keeps (OrderlyWith state) program) :
    KeepsOrder state program := by
  rintro _ rfl
  exact keeps _ orderly

theorem ensures_fcntl_answered
    (fdNumber : Int)
    (command argument : UInt64) :
    Does state (fcntl fdNumber command argument)
      (Answered state command argument) := by
  have copies :
      ∀ cloexec,
        Does state
          (fdDuplicate fdNumber (minimum argument) cloexec >>= fun number =>
            pure (FcntlAnswer.fd number))
          (Answered state command argument) := by
    intro cloexec
    apply (ensures_copy_made orderly fdNumber (minimum argument) cloexec).bind
    intro number
    exact .pure fun _ chosen => ⟨chosen.1, fun _ => chosen⟩
  apply ensures_fdSnapshot_bind (.refl orderly)
  intro isOpen
  by_cases zero : command = 0
  · rw [if_pos zero]
    exact copies false
  rw [if_neg zero]
  by_cases cloexec : command = 1030
  · rw [if_pos cloexec]
    exact copies true
  rw [if_neg cloexec]
  have others :
      ∀ program,
        MovesOnly state program →
        Does state program (Answered state command argument) :=
    fun _ moves =>
      moves.consequence fun _ _ moved =>
        ⟨moved, fun copies => absurd copies (not_or.mpr ⟨zero, cloexec⟩)⟩
  have same := @movesOnly_of_readOnly state orderly FcntlAnswer
  apply others
  apply Prog.Ensures.ite fun _ => same (.pure _)
  intro _
  apply Prog.Ensures.ite fun _ => movesOnly_setFlags orderly isOpen _ _
  intro _
  apply Prog.Ensures.ite fun _ => same (.pure _)
  intro _
  apply Prog.Ensures.ite fun _ => movesOnly_setFlags orderly isOpen _ _
  intro _
  exact same (.ite (.pure _) (.fail _))

theorem behaves
    (call : TableCall) :
    Behaves state call := by
  have reads := fun world (fdNumber : Int) count =>
    @keeps_readFd state fdNumber world count
  have writes := fun world (fdNumber : Int) count =>
    @keeps_writeFd state fdNumber world count
  have transfers :
      ∀ (call : TableCall) (program : Sys Nat),
        call.lowest = none →
        call.run = onFiles program →
        Prog.Keeps (OrderlyWith state) program →
        Behaves state call := by
    intro call program chooses isCall keeps
    rw [bind_pure_self program] at isCall
    exact behaves_of_ensures chooses isCall (keepsOrder_of_keeps orderly keeps)
  cases call with
  | openPath world path flags =>
      exact
        behaves_of_makesOne orderly rfl rfl rfl (makesOne_openPath orderly _ _ _)
  | creat world path mode =>
      exact
        behaves_of_makesOne orderly rfl rfl rfl (makesOne_openPath orderly _ _ _)
  | pipe copied flags =>
      exact
        behaves_of_makes orderly rfl
          (ensures_onFiles (makesTwo_createPipe orderly _ _))
  | socket domain kind =>
      exact
        behaves_of_makesOne orderly rfl rfl rfl (makesOne_socketAlloc orderly _ _ _)
  | socketpair domain address copied flags =>
      exact
        behaves_of_makes orderly rfl
          (ensures_onFiles (makesTwo_socketpair orderly _ _ _ _))
  | memfd name flags =>
      exact
        behaves_of_makesOne orderly rfl rfl rfl (makesOne_memfdCreate orderly _ _)
  | pidfd targetPid =>
      exact
        behaves_of_makesOne orderly rfl rfl rfl (makesOne_pidfd orderly _)
  | inotify flags =>
      exact
        behaves_of_makesOne orderly rfl rfl rfl
          (makesOne_allocFd orderly rfl fun _ => names_of_plain rfl)
  | eventfd counter flags semaphore =>
      exact
        behaves_of_makes orderly rfl (makesObject_eventfdAlloc orderly _ _ _)
  | timerfd clockId flags =>
      exact behaves_of_makes orderly rfl (makesObject_timerfdAlloc orderly _ _)
  | signalfd mask flags =>
      exact
        behaves_of_makes orderly rfl (makesObject_signalfdAlloc orderly _ _)
  | epoll flags =>
      exact behaves_of_makes orderly rfl (makesObject_epollAlloc orderly _)
  | dup fdNumber =>
      exact
        behaves_of_makes orderly rfl
          (ensures_onFiles (ensures_copy_made orderly fdNumber 3 false))
  | dupExact oldFd newFd cloexec =>
      exact
        behaves_of_ensures rfl
          (congrArg onFiles (bind_pure_self _))
          ((movesOnly_fdDuplicateExact orderly _ _ _).keepsOrder orderly)
  | fcntl fdNumber command argument =>
      have ensures := ensures_fcntl_answered orderly fdNumber command argument
      by_cases copies : command = 0 ∨ command = 1030
      · have isLeast :
            (TableCall.fcntl fdNumber command argument).lowest =
              some (minimum argument).toNat :=
          if_pos copies
        apply behaves_of_makes orderly isLeast
        apply ensures_onFiles
        exact ensures.bind fun answer => .pure fun _ holds => holds.2 copies
      · have moves : MovesOnly state (fcntl fdNumber command argument) :=
          ensures.consequence fun _ _ holds => holds.1
        exact behaves_of_ensures (if_neg copies) rfl (moves.keepsOrder orderly)
  | close fdNumber =>
      exact
        @behaves_of_ensures _ _ _ _ (fun _ => 0) rfl rfl
          ((movesOnly_close orderly _).keepsOrder orderly)
  | closeRange first last flags =>
      exact
        @behaves_of_ensures _ _ _ _ (fun _ => 0) rfl rfl
          ((movesOnly_closeRange orderly _ _ _).keepsOrder orderly)
  | exec =>
      exact
        @behaves_of_ensures _ _ _ _ (fun _ => 0) rfl rfl
          ((movesOnly_closeOnExec orderly).keepsOrder orderly)
  | read world fdNumber count =>
      exact
        @behaves_of_ensures _ _ _ _ (fun _ => 0) rfl rfl
          (keepsOrder_of_keeps orderly (reads _ _ _))
  | write world fdNumber count =>
      exact transfers _ _ rfl rfl (writes _ _ _)
  | writev fdNumber iov iovCount =>
      exact
        transfers _ _ rfl rfl
          (keeps_writev (fun world count => writes world fdNumber count) _ _)
  | pwritev fdNumber iov iovCount =>
      exact
        transfers _ _ rfl rfl
          (keeps_pwritev (fun world count => writes world fdNumber count) _ _)
  | splice kernel fdIn fdOut len flags =>
      exact
        transfers _ _ rfl rfl
          (keeps_splice (fun world count => reads world fdIn count)
            (fun world count => writes world fdOut count) _ _ _)
  | copyFileRange kernel fdIn fdOut len flags =>
      exact
        transfers _ _ rfl rfl
          (keeps_copyFileRange (fun world count => reads world fdIn count)
            (fun world count => writes world fdOut count) _ _ _)
  | lseek world fdNumber offset whence =>
      exact
        @behaves_of_ensures _ _ _ _ (fun _ => 0) rfl rfl
          (keepsOrder_of_keeps orderly (keeps_lseek _ _ _))

end Calls

/-! ## Runs -/

section Runs

variable {before after state : ObjectState}

theorem orderly_step
    (step : TableStep before after)
    (orderly : Orderly before) :
    Orderly after := by
  cases step with
  | call call ended =>
      exact
        ((behaves orderly call).consequence fun _ _ holds => holds.1).final rfl
          ended
  | elsewhere initialized fds buffers marks =>
      have moved : Moved before after := by
        refine ⟨initialized.trans orderly.initialized, ?_, ?_, ?_⟩
        · intro _ _ id _ used
          exact (buffers id).trans used
        · intro key marked
          rw [marks]
          exact marked
        · intro index inTable
          refine (fds index).imp id ?_
          rintro ⟨used, position, same⟩
          exact .copied index inTable used _ position same
      exact moved.orderly orderly

theorem orderly_booted : Orderly ObjectState.booted := by
  have entry :
      ∀ index,
        ObjectState.booted.fds index =
          if index < 3 then stdFd index else Fd.empty :=
    fun _ => rfl
  refine ⟨rfl, ?_, ?_⟩
  · intro index _ unused
    rw [entry] at unused ⊢
    split at unused
    · cases unused
    · exact if_neg ‹_›
  · intro index _ used
    rw [entry] at used ⊢
    split <;> exact names_of_plain rfl

theorem Orderly.counted
    (orderly : Orderly state)
    (test : Fd → Bool)
    (notEmpty : test Fd.empty = false) :
    ((List.range Syscall.fileFdMax).any fun index =>
          test (state.fds index)) = true ↔
      ∃ index < Syscall.fileFdMax,
        (state.fds index).used = true ∧ test (state.fds index) = true := by
  rw [List.any_eq_true]
  constructor
  · rintro ⟨index, member, passes⟩
    have inTable := List.mem_range.mp member
    refine ⟨index, inTable, ?_, passes⟩
    by_contra unused
    rw [orderly.empty index inTable (Bool.eq_false_iff.mpr unused),
      notEmpty] at passes
    cases passes
  · rintro ⟨index, inTable, _, passes⟩
    exact ⟨index, List.mem_range.mpr inTable, passes⟩

/--
Along every run, unused entries are empty, open descriptors name marked entries,
and a new descriptor gets the lowest free number that is neither below its
minimum nor below 3.
-/
theorem table_holds
    (run : Relation.ReflTransGen TableStep ObjectState.booted state) :
    TableHolds 3 state := by
  have orderly :=
    invariant_of_run Orderly (fun _ _ => orderly_step) run orderly_booted
  refine ⟨fun index _ => orderly.empty index, orderly.counted, orderly.named, ?_⟩
  intro call number final returned
  exact ((behaves orderly call _ rfl).1 number final returned).2

def inputClosed : ObjectState :=
  ((TableCall.close 0).run ObjectState.booted).final?.getD ObjectState.booted

/-- What holds of the table holds with the standard input closed, too. -/
theorem table_holds_input_closed :
    TableHolds 3 inputClosed :=
  table_holds (.single (.call (.close 0) rfl))

/-- `F_DUPFD` with the minimum 0 passes over the descriptor 0. -/
theorem input_passed_over :
    ¬ ∀ state,
        Relation.ReflTransGen TableStep ObjectState.booted state →
        TableHolds 0 state := by
  intro always
  have holds := always inputClosed (.single (.call (.close 0) rfl))
  obtain ⟨numbers, same, made⟩ :=
    holds.lowest (.fcntl 1 0 0) 3 _ rfl 0 rfl
  change numbers = [3] at same
  subst same
  cases made with
  | more isLowest used others =>
      have atMost : 3 ≤ 0 := isLowest.2 ⟨Nat.le_refl 0, by decide, rfl⟩
      omega

end Runs

end VibuxOS.Files
