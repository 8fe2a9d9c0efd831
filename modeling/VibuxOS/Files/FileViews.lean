import VibuxOS.Files.FileCalls
import VibuxOS.Files.TerminalReads

namespace VibuxOS.Files

open VibuxOS.Lib

/-!
# What reads and writes leave alone

A read changes events, timers, signals, pipes, the terminal and the position of
its descriptor; a write changes events, pipes, the contents of a RAM file and
the position.  A view of the state that shows none of this, or only whether an
event or a timer is in use, is the same after the call, however it ends.
-/

variable {β : Type}

variable {fdNumber : Int}

/--
A view that does not show what reads of the descriptor at an index change, pipes
and sockets apart.
-/
structure UnreadKinds (index : Nat) (view : State → β) : Prop where
  eventFd :
    ∀ (state : State) id event,
      event.used = (state.eventFds id).used →
      view (state.setEventFd id event) = view state
  timerFd :
    ∀ (state : State) id timer,
      timer.used = (state.timerFds id).used →
      view (state.setTimerFd id timer) = view state
  terminal :
    ∀ (state : State) terminal,
      view { state with terminal := terminal } = view state
  pending :
    ∀ (state : State) pending,
      view { state with pending := pending } = view state
  position :
    ∀ (state : State) position,
      view
          (state.setFd index
            { state.fds index with position := position }) =
        view state

/-- A view that does not show what reads change. -/
structure Unread (index : Nat) (view : State → β) : Prop
    extends UnreadKinds index view where
  takePipe :
    ∀ state id amount, view (state.takePipe id amount) = view state

/--
A view that does not show what writes to the descriptor at an index change,
pipes and sockets apart.
-/
structure UnwrittenKinds (index : Nat) (view : State → β) : Prop where
  eventFd :
    ∀ (state : State) id event,
      event.used = (state.eventFds id).used →
      view (state.setEventFd id event) = view state
  contents :
    ∀ (state : State) index data len,
      view
          (state.setRamFile index
            { state.ramFiles index with
              data := data
              len := len }) =
        view state
  position :
    ∀ (state : State) position,
      view
          (state.setFd index
            { state.fds index with position := position }) =
        view state

/-- A view that does not show what writes change. -/
structure Unwritten (index : Nat) (view : State → β) : Prop
    extends UnwrittenKinds index view where
  putPipe :
    ∀ state id source amount,
      view (state.putPipe id source amount) = view state

section Reads

variable
  {index : Nat}
  {view : State → β}

theorem preserves_of_takes
    {α : Type}
    {program : Sys α}
    (takes : ∀ seen, Takes (fun state => view state = seen) program) :
    Prog.Preserves view program := by
  intro seen state same
  refine ⟨(takes seen state same).1, ?_⟩
  intro error final failed
  exact ((takes seen state same).2 error final failed).elim

theorem UnreadKinds.keptByInput
    (unread : UnreadKinds index view)
    (seen : β) :
    KeptByInput fun state => view state = seen where
  terminal := fun state terminal _ same =>
    (unread.terminal state terminal).trans same
  pending := fun state pending same =>
    (unread.pending state pending).trans same

theorem preserves_eventFdRead
    (unread : UnreadKinds index view)
    (world : World)
    (fd : Fd)
    (count : Nat) :
    Prog.Preserves view (eventFdRead world fd count) := by
  apply Prog.Preserves.ite (.of_readOnly .hang)
  apply Prog.Preserves.gets_bind
  intro looked
  apply Prog.Ensures.ite fun _ => .fail fun _ => congrArg view
  intro _
  apply Prog.Ensures.ite
  · exact fun _ =>
      .ite (fun _ => .fail fun _ => congrArg view) fun _ =>
        .pure fun _ => congrArg view
  · intro _
    refine Prog.Preserves.change (unread.eventFd looked _ _ ?_) ?_
    · rfl
    apply Prog.Preserves.ite (.of_readOnly (.fail _))
    exact .of_readOnly (.bind (readOnly_copyUserOut _ _ _) fun _ => .pure _)

theorem TimerFdState.used_fired
    (timer : TimerFdState)
    (nowNs : UInt64) :
    (timer.fired nowNs).used = timer.used := by
  unfold TimerFdState.fired
  split <;> rfl

section

variable
  (unread : UnreadKinds index view)
  (world : World)
  (fd : Fd)

include unread

theorem preserves_timerFdRead
    (count : Nat) :
    Prog.Preserves view (timerFdRead world fd count) := by
  apply Prog.Preserves.ite (.of_readOnly .hang)
  apply Prog.Preserves.gets_bind
  intro looked
  apply Prog.Ensures.ite fun _ => .fail fun _ => congrArg view
  intro _
  apply Prog.Ensures.ite
  · exact fun _ =>
      .ite (fun _ => .fail fun _ => congrArg view) fun _ =>
        .pure fun _ => congrArg view
  · intro _
    apply Prog.Ensures.ite fun _ => .fail fun _ => congrArg view
    intro _
    refine Prog.Preserves.change (unread.timerFd looked _ _ ?_) ?_
    · exact TimerFdState.used_fired _ _
    apply Prog.Preserves.ite (.of_readOnly (.fail _))
    exact .of_readOnly (.bind (readOnly_copyUserOut _ _ _) fun _ => .pure _)

theorem preserves_signalFdRead
    (count : Nat) :
    Prog.Preserves view (signalFdRead world fd count) := by
  apply Prog.Preserves.ite (.of_readOnly .hang)
  apply Prog.Preserves.bind (.of_readOnly (.gets _))
  intro state
  apply Prog.Preserves.ite (.of_readOnly (.fail _))
  split
  · exact .ite (.of_readOnly (.fail _)) (.of_readOnly (.pure _))
  · apply Prog.Preserves.bind (.modify fun state => unread.pending state _)
    intro _
    apply Prog.Preserves.ite (.of_readOnly (.fail _))
    exact .of_readOnly (.bind (readOnly_copyUserOut _ _ _) fun _ => .pure _)

theorem preserves_ttyRead :
    Prog.Preserves view (ttyRead world fd) := by
  apply Prog.Preserves.ite (.of_readOnly (.fail _))
  apply Prog.Preserves.bind
  · exact
      preserves_of_takes fun seen => takes_readByte (unread.keptByInput seen)
  · intro byte
    apply Prog.Preserves.ite
    · apply Prog.Preserves.bind
      · exact
          preserves_of_takes fun seen =>
            takes_signalPendingUnblocked (unread.keptByInput seen)
      · exact fun _ => .ite (.of_readOnly (.fail _)) (.of_readOnly (.pure _))
    · exact
        .of_readOnly (.bind (readOnly_copyUserOut _ _ _) fun _ => .pure _)

end

theorem preserves_pipeReadFd
    (unread : Unread fdNumber.toNat view)
    (world : World)
    (count : Nat) :
    Prog.Preserves view (pipeReadFd world fdNumber count) := by
  apply Prog.Preserves.ite (.of_readOnly (.pure _))
  apply Prog.Preserves.bind (.of_readOnly (readOnly_fdSnapshot _))
  intro fd
  apply Prog.Preserves.ite (.of_readOnly (.fail _))
  apply Prog.Preserves.bind (.of_readOnly (.gets _))
  intro state
  split
  · exact .of_readOnly (.fail _)
  · apply Prog.Preserves.ite
    · exact .ite (.of_readOnly (.fail _)) (.of_readOnly (.pure _))
    · apply Prog.Preserves.bind (.of_readOnly (readOnly_copyUserOut _ _ _))
      intro _
      exact .modify_pure (fun state => unread.takePipe state _ _) _

theorem preserves_socketReadFd
    (unread : Unread fdNumber.toNat view)
    (world : World)
    (count : Nat) :
    Prog.Preserves view (socketReadFd world fdNumber count) := by
  apply Prog.Preserves.bind (.of_readOnly (readOnly_fdSnapshot _))
  intro fd
  apply Prog.Preserves.ite (.of_readOnly (.fail _))
  apply Prog.Preserves.bind (.of_readOnly (.gets _))
  intro state
  split
  · exact .of_readOnly (.fail _)
  · apply Prog.Preserves.ite
    · exact .ite (.of_readOnly (.fail _)) (.of_readOnly (.pure _))
    · apply Prog.Preserves.bind (.of_readOnly (readOnly_copyUserOut _ _ _))
      intro _
      exact .modify_pure (fun state => unread.takePipe state _ _) _

section

variable (unread : UnreadKinds fdNumber.toNat view)

include unread

theorem preserves_ramFileRead
    (world : World)
    (count : Nat) :
    Prog.Preserves view (ramFileRead world fdNumber count) := by
  apply Prog.Preserves.bind (.of_readOnly (readOnly_fdSnapshot _))
  intro fd
  apply Prog.Preserves.bind (.of_readOnly (.gets _))
  intro state
  split
  · exact .of_readOnly (.fail _)
  · apply Prog.Preserves.ite (.of_readOnly (.pure _))
    apply Prog.Preserves.ite
    · exact .ite (.of_readOnly (.fail _)) (.of_readOnly (.pure _))
    · exact .modify_pure (fun state => unread.position state _) _

theorem preserves_fixedRead
    (world : World)
    (fd : Fd)
    (contents : Option (List UInt8))
    (count : Nat) :
    Prog.Preserves view (fixedRead world fdNumber fd contents count) := by
  cases contents with
  | none =>
      exact .of_readOnly (.fail _)
  | some data =>
      apply Prog.Preserves.ite
      · exact .modify_pure (fun state => unread.position state _) _
      · exact .of_readOnly (.fail _)

theorem preserves_blockRead
    (world : World)
    (fd : Fd)
    (count : Nat) :
    Prog.Preserves view (blockRead world fdNumber fd count) := by
  apply Prog.Preserves.bind
    (.of_readOnly (readOnly_blockReadLoop _ _ _ _ _))
  intro _
  exact .modify_pure (fun state => unread.position state _) _

theorem preserves_readKind
    {world : World}
    {fd : Fd}
    {count : Nat}
    (pipe :
      fd.kind = .pipeRead →
      Prog.Preserves view (pipeReadFd world fdNumber count))
    (socket :
      fd.kind = .socket →
      Prog.Preserves view (socketReadFd world fdNumber count)) :
    Prog.Preserves view (readKind world fdNumber fd count) := by
  unfold readKind
  cases kind : fd.kind with
  | pipeRead => exact pipe kind
  | eventFd => exact preserves_eventFdRead unread _ _ _
  | timerFd => exact preserves_timerFdRead unread _ _ _
  | socket => exact socket kind
  | ramFile => exact preserves_ramFileRead unread _ _
  | signalFd => exact preserves_signalFdRead unread _ _ _
  | tty => exact preserves_ttyRead unread _ _
  | zero =>
      exact .of_readOnly (.bind (readOnly_copyUserOut _ _ _) fun _ => .pure _)
  | null => exact .of_readOnly (.pure _)
  | binary => exact preserves_fixedRead unread _ _ _ _
  | text => exact preserves_fixedRead unread _ _ _ _
  | block => exact preserves_blockRead unread _ _ _
  | _ => exact .of_readOnly (.fail _)

end

theorem preserves_readFd
    (unread : Unread fdNumber.toNat view)
    (world : World)
    (count : Nat) :
    Prog.Preserves view (readFd world fdNumber count) := by
  apply Prog.Preserves.ite (.of_readOnly (.fail _))
  apply Prog.Preserves.ite (.of_readOnly (.pure _))
  apply Prog.Preserves.bind (.of_readOnly (readOnly_fdSnapshot _))
  intro fd
  apply Prog.Preserves.ite (.of_readOnly (.fail _))
  exact
    preserves_readKind unread.toUnreadKinds
      (fun _ => preserves_pipeReadFd unread _ _)
      (fun _ => preserves_socketReadFd unread _ _)

end Reads

section Writes

variable
  {index : Nat}
  {view : State → β}

theorem readOnly_copyUserIn
    (world : World)
    (offset len : Nat) :
    Prog.ReadOnly (copyUserIn world offset len) :=
  Prog.ReadOnly.ite (.pure _) (.fail _)

theorem preserves_eventFdWrite
    (unwritten : UnwrittenKinds index view)
    (world : World)
    (fd : Fd)
    (count : Nat) :
    Prog.Preserves view (eventFdWrite world fd count) := by
  apply Prog.Preserves.ite (.of_readOnly .hang)
  apply Prog.Preserves.gets_bind
  intro looked
  apply Prog.Ensures.ite fun _ => .fail fun _ => congrArg view
  intro _
  apply Prog.Ensures.ite fun _ => .fail fun _ => congrArg view
  intro _
  apply @Prog.Ensures.bind _ _ _ _ _ fun _ state => state = looked
  · exact
      .ite (fun _ => .pure fun _ same => same) fun _ =>
        .fail fun _ => congrArg view
  intro _
  apply Prog.Ensures.ite fun _ => .fail fun _ => congrArg view
  intro _
  apply Prog.Ensures.ite fun _ => .fail fun _ => congrArg view
  intro _
  refine Prog.Preserves.change (unwritten.eventFd looked _ _ ?_) ?_
  · rfl
  exact .of_readOnly (.pure _)

theorem preserves_pipeWriteFd
    (unwritten : Unwritten fdNumber.toNat view)
    (world : World)
    (count : Nat) :
    Prog.Preserves view (pipeWriteFd world fdNumber count) := by
  apply Prog.Preserves.bind (.of_readOnly (readOnly_fdSnapshot _))
  intro fd
  apply Prog.Preserves.ite (.of_readOnly (.fail _))
  apply Prog.Preserves.bind (.of_readOnly (.gets _))
  intro state
  split
  · exact .of_readOnly (.fail _)
  · apply Prog.Preserves.ite (.of_readOnly (.fail _))
    apply Prog.Preserves.ite (.of_readOnly (.fail _))
    apply Prog.Preserves.bind (.of_readOnly (readOnly_copyUserIn _ _ _))
    intro _
    exact .modify_pure (fun state => unwritten.putPipe state _ _ _) _

theorem preserves_socketWriteFd
    (unwritten : Unwritten fdNumber.toNat view)
    (world : World)
    (count : Nat) :
    Prog.Preserves view (socketWriteFd world fdNumber count) := by
  apply Prog.Preserves.bind (.of_readOnly (readOnly_fdSnapshot _))
  intro fd
  apply Prog.Preserves.ite (.of_readOnly (.fail _))
  apply Prog.Preserves.bind (.of_readOnly (.gets _))
  intro state
  split
  · exact .of_readOnly (.fail _)
  · apply Prog.Preserves.ite (.of_readOnly (.fail _))
    apply Prog.Preserves.bind (.of_readOnly (readOnly_copyUserIn _ _ _))
    intro _
    exact .modify_pure (fun state => unwritten.putPipe state _ _ _) _

theorem preserves_ramFileWrite
    (unwritten : UnwrittenKinds fdNumber.toNat view)
    (world : World)
    (count : Nat) :
    Prog.Preserves view (ramFileWrite world fdNumber count) := by
  intro seen
  apply Prog.Ensures.bind
    ((Prog.Preserves.of_readOnly (readOnly_fdSnapshot fdNumber)) seen)
  intro fd
  -- the file is the one of the state as it is looked at here
  apply @Prog.Ensures.bind _ _ _ _ _
    fun looked state => state = looked ∧ view looked = seen
  · exact .gets fun state same => ⟨rfl, same⟩
  intro looked
  have unchanged :
      ∀ state, state = looked ∧ view looked = seen → view state = seen := by
    rintro state ⟨rfl, same⟩
    exact same
  have written :
      ∀ index data len state,
        state = looked ∧ view looked = seen →
        view
            (state.setRamFile index
              { looked.ramFiles index with
                data := data
                len := len }) =
          seen := by
    rintro index data len state ⟨rfl, same⟩
    exact (unwritten.contents state index data len).trans same
  cases ramFileIndex looked fd.path with
  | none => exact .fail unchanged
  | some index =>
      apply Prog.Ensures.ite (fun _ => .fail unchanged)
      intro _
      apply Prog.Ensures.ite (fun _ => .pure unchanged)
      intro _
      apply Prog.Ensures.ite
      · intro _
        apply @Prog.Ensures.bind _ _ _ _ _ fun _ state => view state = seen
        · exact .modify (written index _ _)
        · intro _
          exact
            .ite (fun _ => .fail fun _ same => same) fun _ =>
              .pure fun _ same => same
      · intro _
        apply @Prog.Ensures.bind _ _ _ _ _ fun _ state => view state = seen
        · exact .modify (written index _ _)
        · intro _
          exact
            (Prog.Preserves.modify_pure
              (fun state => unwritten.position state _) _) seen

theorem preserves_writeKind
    (unwritten : UnwrittenKinds fdNumber.toNat view)
    {world : World}
    {fd : Fd}
    {count : Nat}
    (pipe :
      fd.kind = .pipeWrite →
      Prog.Preserves view (pipeWriteFd world fdNumber count))
    (socket :
      fd.kind = .socket →
      Prog.Preserves view (socketWriteFd world fdNumber count)) :
    Prog.Preserves view (writeKind world fdNumber fd count) := by
  unfold writeKind
  cases kind : fd.kind with
  | pipeWrite => exact pipe kind
  | socket => exact socket kind
  | ramFile => exact preserves_ramFileWrite unwritten _ _
  | eventFd => exact preserves_eventFdWrite unwritten _ _ _
  | tty =>
      exact .of_readOnly (.ite (.fail _) (.pure _))
  | null => exact .of_readOnly (.pure _)
  | _ => exact .of_readOnly (.fail _)

theorem preserves_writeFd
    (unwritten : Unwritten fdNumber.toNat view)
    (world : World)
    (count : Nat) :
    Prog.Preserves view (writeFd world fdNumber count) := by
  apply Prog.Preserves.ite (.of_readOnly (.fail _))
  apply Prog.Preserves.ite (.of_readOnly (.pure _))
  apply Prog.Preserves.bind (.of_readOnly (readOnly_fdSnapshot _))
  intro fd
  apply Prog.Preserves.ite (.of_readOnly (.fail _))
  exact
    preserves_writeKind unwritten.toUnwrittenKinds
      (fun _ => preserves_pipeWriteFd unwritten _ _)
      (fun _ => preserves_socketWriteFd unwritten _ _)

theorem preserves_lseek
    (moved :
      ∀ (state : State) position,
        view
            (state.setFd fdNumber.toNat
              { state.fds fdNumber.toNat with position := position }) =
          view state)
    (world : World)
    (offset : UInt64)
    (whence : Int) :
    Prog.Preserves view (lseek world fdNumber offset whence) := by
  apply Prog.Preserves.bind (.of_readOnly (readOnly_fdSnapshot _))
  intro fd
  apply Prog.Preserves.ite (.of_readOnly (.fail _))
  apply Prog.Preserves.bind (.of_readOnly (.gets _))
  intro state
  split
  · exact .of_readOnly (.fail _)
  · exact
      .ite (.of_readOnly (.fail _))
        (.modify_pure (fun state => moved state _) _)

end Writes

theorem ensures_fdSnapshot_bind
    {α : Type}
    {before : State}
    {next : Fd → Sys α}
    {after : α → State → Prop}
    {failed : State → Prop}
    (onError : failed before)
    (onFd :
      OpenFd before.fds fdNumber →
      Prog.Ensures (fun state => state = before)
        (next (before.fds fdNumber.toNat)) after failed) :
    Prog.Ensures (fun state => state = before) (fdSnapshot fdNumber >>= next)
      after failed := by
  intro state start
  subst start
  by_cases isOpen : OpenFd state.fds fdNumber
  · rw [Prog.bind_of_ok (fdSnapshot_of_open isOpen)]
    exact onFd isOpen state rfl
  · rw [Prog.bind_of_err (fdSnapshot_of_not_open isOpen)]
    constructor <;> intro _ _ ended <;> cases ended
    exact onError

/-! ## Loops of reads and writes -/

section Loops

variable {invariant : State → Prop}

section

variable
  (kept :
    ∀ world count, Prog.Keeps invariant (writeFd world fdNumber count))
  (iov : Nat → Option (World × Nat))

include kept

theorem keeps_writevLoop
    (left index total : Nat) :
    Prog.Keeps invariant (writevLoop fdNumber iov left index total) := by
  induction left generalizing index total with
  | zero =>
      exact .of_readOnly (.pure _)
  | succ left inductionHypothesis =>
      unfold writevLoop
      split
      · exact .of_readOnly (.ite (.fail _) (.pure _))
      · apply Prog.Keeps.bind (.attempt (kept _ _))
        intro written
        cases written with
        | error error => exact inductionHypothesis _ _
        | ok amount =>
            exact .ite (inductionHypothesis _ _) (.of_readOnly (.pure _))

theorem keeps_writev
    (iovCount : Nat) :
    Prog.Keeps invariant (writev fdNumber iov iovCount) :=
  .ite (.of_readOnly (.fail _)) (keeps_writevLoop kept iov _ _ _)

theorem keeps_pwritev
    (iovCount : Nat) :
    Prog.Keeps invariant (pwritev fdNumber iov iovCount) := by
  apply Prog.Keeps.ite (.of_readOnly (.fail _))
  apply Prog.Keeps.bind (.of_readOnly (readOnly_fdSnapshot _))
  intro fd
  exact .ite (.of_readOnly (.fail _)) (keeps_writevLoop kept iov _ _ _)

end

section

variable
  {fdIn fdOut : Int}
  (reads :
    ∀ world count, Prog.Keeps invariant (readFd world fdIn count))
  (writes :
    ∀ world count, Prog.Keeps invariant (writeFd world fdOut count))
  (kernel : World)

include reads writes

theorem keeps_transferLoop
    (len fuel total : Nat) :
    Prog.Keeps invariant (transferLoop kernel fdIn fdOut len fuel total) := by
  induction fuel generalizing total with
  | zero =>
      exact .of_readOnly .hang
  | succ fuel inductionHypothesis =>
      unfold transferLoop
      apply Prog.Keeps.ite
      · apply Prog.Keeps.bind (.attempt (reads _ _))
        intro taken
        cases taken with
        | error error =>
            exact .of_readOnly (.ite (.fail _) (.pure _))
        | ok buffer =>
            apply Prog.Keeps.ite (.of_readOnly (.pure _))
            apply Prog.Keeps.bind (.attempt (writes _ _))
            intro written
            cases written with
            | error error =>
                exact .of_readOnly (.ite (.fail _) (.pure _))
            | ok _ =>
                exact inductionHypothesis _
      · exact .of_readOnly (.pure _)

theorem keeps_splice
    (len flags : Nat) :
    Prog.Keeps invariant (splice kernel fdIn fdOut len flags) := by
  apply Prog.Keeps.bind (.of_readOnly (readOnly_fdSnapshot _))
  intro _
  apply Prog.Keeps.bind (.of_readOnly (readOnly_fdSnapshot _))
  intro _
  exact
    .ite (.of_readOnly (.fail _))
      (keeps_transferLoop reads writes kernel len _ _)

theorem keeps_copyFileRange
    (len flags : Nat) :
    Prog.Keeps invariant (copyFileRange kernel fdIn fdOut len flags) := by
  apply Prog.Keeps.ite (.of_readOnly (.fail _))
  apply Prog.Keeps.bind (.of_readOnly (readOnly_fdSnapshot _))
  intro _
  apply Prog.Keeps.bind (.of_readOnly (readOnly_fdSnapshot _))
  intro _
  exact keeps_transferLoop reads writes kernel len _ _

end

end Loops

end VibuxOS.Files
