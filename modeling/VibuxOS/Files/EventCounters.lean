import VibuxOS.Files.Polling
import VibuxOS.Files.SlotCreation

namespace VibuxOS.Files

open VibuxOS.Lib

/-!
# Event counters

`eventfd_alloc` puts the flags that it is given into the descriptor, and among
them is no access mode.  The descriptor is one for reading, and `write_fd`
refuses it before it looks at the counter.
-/

/-- A transfer of eight bytes through the descriptor of an event counter. -/
inductive CounterCall where
  | read (world : World)
  | write (world : World)

/-- What a transfer returns. -/
inductive CounterAnswer where
  | taken (bytes : List UInt8)
  | wrote (amount : Nat)
  deriving Repr, DecidableEq

/-- The event counter of a descriptor. -/
def State.eventOf (state : State) (fdNumber : Int) : EventFdState :=
  state.eventFds (state.fds fdNumber.toNat).id

/-- What a read takes from a counter: all of it, or 1. -/
def EventFdState.portion (event : EventFdState) : UInt64 :=
  if event.semaphore then 1 else event.counter

namespace CounterCall

def world : CounterCall → World
  | .read world => world
  | .write world => world

def run (fdNumber : Int) : CounterCall → Sys CounterAnswer
  | .read world => do
      let bytes ← readFd world fdNumber 8
      pure (.taken bytes)
  | .write world => do
      let amount ← writeFd world fdNumber 8
      pure (.wrote amount)

/-- A write that is to succeed: its value is allowed, and there is room for it. -/
def Due (fdNumber : Int) (state : State) : CounterCall → Prop
  | .read _ => False
  | .write world =>
      getU64 world.source 0 ≠ 0xffffffffffffffff ∧
        (state.eventOf fdNumber).counter.toNat +
            (getU64 world.source 0).toNat <
          2 ^ 64

/--
A write that is to succeed returns 8 and adds its value; a read of a counter
that is not zero returns 8 bytes and takes away what they say.
-/
def Lawful (fdNumber : Int) (state : State) : CounterCall → Prop
  | .read world =>
      (state.eventOf fdNumber).counter ≠ 0 →
      ∃ final,
        readFd world fdNumber 8 state =
            .ok (leBytes (state.eventOf fdNumber).portion 8) final ∧
          (final.eventOf fdNumber).counter.toNat +
              (state.eventOf fdNumber).portion.toNat =
            (state.eventOf fdNumber).counter.toNat
  | .write world =>
      Due fdNumber state (.write world) →
      ∃ final,
        writeFd world fdNumber 8 state = .ok 8 final ∧
          (final.eventOf fdNumber).counter.toNat =
            (state.eventOf fdNumber).counter.toNat +
              (getU64 world.source 0).toNat

/-- What a transfer that has returned has written. -/
def written : CounterCall → Outcome State Errno CounterAnswer → Nat
  | .write world, .ok _ _ => (getU64 world.source 0).toNat
  | _, _ => 0

/-- What a transfer that has returned has read. -/
def taken : Outcome State Errno CounterAnswer → Nat
  | .ok (.taken bytes) _ =>
      leValue (fun index => bytes.getD index 0) bytes.length
  | _ => 0

end CounterCall

/--
Every transfer of a run is lawful, and before and after each of them the counter
is its initial value, and what was written, without what was read.
-/
def Conserves
    (fdNumber : Int)
    (initial : UInt64) :
    List CounterCall →
    State →
    Nat →
    Nat →
    Prop
  | [], state, written, taken =>
      (state.eventOf fdNumber).counter.toNat + taken = initial.toNat + written
  | call :: rest, state, written, taken =>
      (state.eventOf fdNumber).counter.toNat + taken =
          initial.toNat + written ∧
        call.Lawful fdNumber state ∧
        ∀ next,
          (call.run fdNumber state).final? = some next →
          Conserves fdNumber initial rest next
            (written + call.written (call.run fdNumber state))
            (taken + CounterCall.taken (call.run fdNumber state))

/-! ## The descriptor of an event counter -/

/-- An open descriptor for reading, of an event counter that is in use. -/
structure CounterFd (state : State) (fdNumber : Int) : Prop where
  isOpen : OpenFd state.fds fdNumber
  isEvent : (state.fds fdNumber.toNat).kind = .eventFd
  readOnly : (state.fds fdNumber.toNat).flags &&& Syscall.oAccmode = 0
  inTable : (state.fds fdNumber.toNat).id < eventfdMax
  used : (state.eventOf fdNumber).used = true

theorem accmode_of_fdFlags
    {flags : UInt64}
    (allowed : flags &&& ~~~fdFlags = 0) :
    flags &&& Syscall.oAccmode = 0 := by
  have outside : ~~~fdFlags &&& Syscall.oAccmode = Syscall.oAccmode := by
    decide
  rw [← outside, ← UInt64.and_assoc, allowed, UInt64.zero_and]

theorem allocObject_eq_ok
    {unused : ObjectState → Option Nat}
    {take giveBack : Nat → ObjectState → ObjectState}
    {descriptor : Nat → Fd}
    {state created : ObjectState}
    {number : Nat}
    (made :
      allocObject unused take giveBack descriptor state = .ok number created) :
    ∃ id started,
      unused started = some id ∧
        number < Syscall.fileFdMax ∧
        created.toState =
          State.setFd number (descriptor id) (take id started).toState := by
  unfold allocObject at made
  obtain ⟨_, started, _, looked⟩ := Prog.bind_eq_ok.mp made
  rw [Prog.gets_bind_apply] at looked
  cases found : unused started with
  | none =>
      rw [found] at looked
      cases looked
  | some id =>
      rw [found] at looked
      dsimp only at looked
      rw [Prog.modify_bind_apply] at looked
      cases free : freeFd (take id started).fds with
      | none =>
          rw [Prog.bind_of_ok
            (Prog.attempt_of_err (onFiles_of_err (allocFd_of_full free _)))]
            at looked
          cases looked
      | some index =>
          rw [Prog.bind_of_ok
            (Prog.attempt_of_ok (onFiles_of_ok (allocFd_of_free free _)))]
            at looked
          cases looked
          obtain ⟨_, inside, _⟩ := freeFd_unused free
          exact ⟨id, started, found, inside, rfl⟩

theorem id_objectFd
    (kind : FileKind)
    (flags : UInt64)
    {id : Nat}
    (small : id < 256) :
    (objectFd kind flags id).id = id := by
  change (UInt8.ofNat id).toNat = id
  rw [UInt8.toNat_ofNat']
  exact Nat.mod_eq_of_lt small

theorem eventfdAlloc_eq_ok
    {initial flags : UInt64}
    {semaphore : Bool}
    {state created : ObjectState}
    {number : Nat}
    (made : eventfdAlloc initial flags semaphore state = .ok number created) :
    CounterFd created.toState number ∧
      created.toState.eventOf number =
        { used := true, counter := initial, semaphore := semaphore } := by
  unfold eventfdAlloc at made
  by_cases allowed : flags &&& ~~~fdFlags = 0
  · rw [if_neg (not_not.mpr allowed)] at made
    obtain ⟨id, started, found, inside, isCreated⟩ := allocObject_eq_ok made
    obtain ⟨inTable, _⟩ := firstUnused_free found
    have isFd :
        created.toState.fds (number : Int).toNat =
          objectFd .eventFd flags id := by
      rw [isCreated, Int.toNat_natCast, fds_setFd_self]
    have sameId :=
      id_objectFd .eventFd flags (Nat.lt_trans inTable (by decide))
    have isEvent :
        created.toState.eventOf number =
          { used := true, counter := initial, semaphore := semaphore } := by
      rw [State.eventOf, isFd, sameId, isCreated]
      exact Function.update_self _ _ _
    refine ⟨⟨⟨by omega, by omega, ?_⟩, ?_, ?_, ?_, ?_⟩, isEvent⟩
    · rw [isFd]
      rfl
    · rw [isFd]
      rfl
    · rw [isFd]
      exact accmode_of_fdFlags allowed
    · rw [isFd, sameId]
      exact inTable
    · rw [isEvent]
  · rw [if_pos allowed] at made
    cases made

/-! ## What a transfer does -/

section Transfers

variable
  {world : World}
  {state : State}
  {fdNumber : Int}

section

variable (counter : CounterFd state fdNumber)

include counter

theorem CounterFd.write :
    writeFd world fdNumber 8 state = .err .ebadf state := by
  rw [writeFd_of_open counter.isOpen (by decide), if_pos]
  constructor
  · unfold fdWritable
    rw [counter.readOnly]
    rfl
  · rw [counter.isEvent]
    decide

theorem CounterFd.readable :
    readFd world fdNumber 8 state =
      eventFdRead world (state.fds fdNumber.toNat) 8 state := by
  have isReadable : fdReadable (state.fds fdNumber.toNat) = true := by
    unfold fdReadable
    rw [counter.readOnly]
    rfl
  rw [readFd_of_open counter.isOpen (by decide), if_neg (by simp [isReadable])]
  unfold readKind
  rw [counter.isEvent]

theorem CounterFd.read_zero
    (isZero : (state.eventOf fdNumber).counter = 0) :
    readFd world fdNumber 8 state = .err .eagain state ∨
      readFd world fdNumber 8 state = .ok [] state := by
  have used := counter.used
  unfold State.eventOf at used isZero
  rw [counter.readable]
  unfold eventFdRead
  rw [if_neg (Nat.not_le.mpr counter.inTable), Prog.gets_bind_apply,
    if_neg (by simp [used]), if_pos isZero]
  split
  · exact .inl rfl
  · exact .inr rfl

/-- The state after a read of a counter that is not zero. -/
def State.counted (state : State) (fdNumber : Int) : State :=
  state.setEventFd (state.fds fdNumber.toNat).id
    { state.eventOf fdNumber with
      counter :=
        (state.eventOf fdNumber).counter - (state.eventOf fdNumber).portion }

theorem CounterFd.read_counter
    (maps : world.Maps 8)
    (counts : (state.eventOf fdNumber).counter ≠ 0) :
    readFd world fdNumber 8 state =
      .ok (leBytes (state.eventOf fdNumber).portion 8)
        (state.counted fdNumber) := by
  have used := counter.used
  unfold State.eventOf at used counts
  rw [counter.readable]
  unfold eventFdRead
  rw [if_neg (Nat.not_le.mpr counter.inTable), Prog.gets_bind_apply,
    if_neg (by simp [used]), if_neg counts, Prog.modify_bind_apply,
    if_neg (by decide), copyUserOut_eq, length_leBytes,
    if_pos (maps 0 8 (by decide))]
  rfl

omit counter in
theorem eventOf_counted :
    (state.counted fdNumber).eventOf fdNumber =
      { state.eventOf fdNumber with
        counter :=
          (state.eventOf fdNumber).counter -
            (state.eventOf fdNumber).portion } := by
  unfold State.counted
  exact Function.update_self _ _ _

omit counter in
theorem portion_le
    {event : EventFdState}
    (counts : event.counter ≠ 0) :
    event.portion ≤ event.counter := by
  unfold EventFdState.portion
  split
  · have positive : event.counter.toNat ≠ 0 :=
      fun isZero => counts (UInt64.toNat_inj.mp isZero)
    exact UInt64.le_iff_toNat_le.mpr (Nat.pos_of_ne_zero positive)
  · exact UInt64.le_refl _

omit counter in
theorem toNat_counted
    (counts : (state.eventOf fdNumber).counter ≠ 0) :
    ((state.counted fdNumber).eventOf fdNumber).counter.toNat +
        (state.eventOf fdNumber).portion.toNat =
      (state.eventOf fdNumber).counter.toNat := by
  have within := portion_le counts
  rw [eventOf_counted]
  dsimp only
  rw [UInt64.toNat_sub_of_le _ _ within]
  exact Nat.sub_add_cancel (UInt64.le_iff_toNat_le.mp within)

theorem CounterFd.counted :
    CounterFd (state.counted fdNumber) fdNumber where
  isOpen := counter.isOpen
  isEvent := counter.isEvent
  readOnly := counter.readOnly
  inTable := counter.inTable
  used := by
    rw [eventOf_counted]
    exact counter.used

omit counter in
theorem leValue_leBytes (value : UInt64) :
    leValue (fun index => (leBytes value 8).getD index 0)
        (leBytes value 8).length =
      value.toNat := by
  have spelled :
      ∀ index < 8,
        (leBytes value 8).getD index 0 = leByte value index := by
    intro index inside
    unfold leBytes
    rw [List.getD_eq_getElem?_getD, List.getElem?_map,
      List.getElem?_range inside]
    rfl
  rw [length_leBytes, leValue_congr spelled, leValue_leByte]
  exact Nat.mod_eq_of_lt value.toNat_lt

/--
What one transfer does: it takes from the counter what it returns and writes
nothing, and it is lawful unless it is a write that is to succeed.
-/
theorem CounterFd.step
    (call : CounterCall)
    (maps : call.world.Maps 8) :
    ∃ next,
      (call.run fdNumber state).final? = some next ∧
        CounterFd next fdNumber ∧
        (next.eventOf fdNumber).counter.toNat +
            CounterCall.taken (call.run fdNumber state) =
          (state.eventOf fdNumber).counter.toNat ∧
        call.written (call.run fdNumber state) = 0 ∧
        (call.Lawful fdNumber state ↔ ¬ call.Due fdNumber state) := by
  cases call with
  | write world =>
      have refused :
          (CounterCall.write world).run fdNumber state =
            .err .ebadf state :=
        Prog.bind_of_err counter.write
      rw [refused]
      refine ⟨state, rfl, counter, rfl, rfl, ?_⟩
      constructor
      · intro lawful due
        obtain ⟨final, returned, _⟩ := lawful due
        rw [counter.write] at returned
        cases returned
      · intro notDue due
        exact (notDue due).elim
  | read world =>
      by_cases isZero : (state.eventOf fdNumber).counter = 0
      · have lawful : (CounterCall.read world).Lawful fdNumber state :=
          fun counts => (counts isZero).elim
        rcases @CounterFd.read_zero world state fdNumber counter isZero with
          waits | empty
        · have outcome :
              (CounterCall.read world).run fdNumber state =
                .err .eagain state :=
            Prog.bind_of_err waits
          rw [outcome]
          exact ⟨state, rfl, counter, rfl, rfl, iff_of_true lawful id⟩
        · have outcome :
              (CounterCall.read world).run fdNumber state =
                .ok (.taken []) state :=
            Prog.bind_of_ok empty
          rw [outcome]
          exact ⟨state, rfl, counter, rfl, rfl, iff_of_true lawful id⟩
      · have reads := counter.read_counter maps isZero
        have subtracted := toNat_counted isZero
        have outcome :
            (CounterCall.read world).run fdNumber state =
              .ok (.taken (leBytes (state.eventOf fdNumber).portion 8))
                (state.counted fdNumber) :=
          Prog.bind_of_ok reads
        rw [outcome]
        refine ⟨_, rfl, counter.counted, ?_, rfl, iff_of_true ?_ id⟩
        · unfold CounterCall.taken
          dsimp only
          rw [leValue_leBytes]
          exact subtracted
        · exact fun _ => ⟨_, reads, subtracted⟩

theorem CounterFd.conserves_iff
    {initial : UInt64}
    {written taken : Nat}
    (balanced :
      (state.eventOf fdNumber).counter.toNat + taken =
        initial.toNat + written)
    {calls : List CounterCall}
    (valid : ∀ call ∈ calls, call.world.Maps 8) :
    Conserves fdNumber initial calls state written taken ↔
      Along (CounterCall.run fdNumber)
        (fun call state => ¬ call.Due fdNumber state) calls state := by
  induction calls generalizing state written taken with
  | nil =>
      exact iff_of_true balanced trivial
  | cons call rest inductionHypothesis =>
      obtain ⟨next, ended, nextCounter, subtracted, nothing, lawful⟩ :=
        counter.step call (valid call List.mem_cons_self)
      have restConserves :=
        @inductionHypothesis next nextCounter
          (written + call.written (call.run fdNumber state))
          (taken + CounterCall.taken (call.run fdNumber state)) (by omega)
          fun other among => valid other (List.mem_cons_of_mem _ among)
      constructor
      · rintro ⟨_, isLawful, conserves⟩
        refine ⟨lawful.mp isLawful, ?_⟩
        intro other otherEnded
        obtain rfl := Option.some.inj (ended.symm.trans otherEnded)
        exact restConserves.mp (conserves _ ended)
      · rintro ⟨notDue, along⟩
        refine ⟨balanced, lawful.mpr notDue, ?_⟩
        intro other otherEnded
        obtain rfl := Option.some.inj (ended.symm.trans otherEnded)
        exact restConserves.mpr (along _ ended)

end

end Transfers

/--
Of an event counter that `eventfd_alloc` has made, every sequence of transfers
through its descriptor conserves the value exactly when no write is made that
is to succeed.
-/
theorem event_counter_conserves_iff
    {initial flags : UInt64}
    {semaphore : Bool}
    {state created : ObjectState}
    {number : Nat}
    (made : eventfdAlloc initial flags semaphore state = .ok number created)
    {calls : List CounterCall}
    (valid : ∀ call ∈ calls, call.world.Maps 8) :
    Conserves number initial calls created.toState 0 0 ↔
      Along (CounterCall.run number)
        (fun call state => ¬ call.Due number state) calls
        created.toState := by
  obtain ⟨counter, isNew⟩ := eventfdAlloc_eq_ok made
  apply counter.conserves_iff _ valid
  rw [isNew]

/-- A fresh process with an event counter that starts at 5, as descriptor 3. -/
def fiveCounter : ObjectState :=
  (eventfdAlloc 5 0 false ObjectState.booted).final?.getD ObjectState.booted

theorem event_counter_conserves_reads :
    Conserves (3 : Nat) 5 [.read World.idle, .read World.idle]
      fiveCounter.toState 0 0 := by
  have made :
      eventfdAlloc 5 0 false ObjectState.booted = .ok 3 fiveCounter :=
    rfl
  refine (event_counter_conserves_iff made ?_).mpr ?_
  · intro call among
    rcases List.mem_cons.mp among with rfl | later
    · exact fun _ _ _ => rfl
    · obtain rfl := List.mem_singleton.mp later
      exact fun _ _ _ => rfl
  · exact ⟨id, fun _ _ => ⟨id, fun _ _ => trivial⟩⟩

/-- A write of an allowed value is refused. -/
theorem event_counter_refuses :
    ¬ Conserves (3 : Nat) 5 [.write World.idle] fiveCounter.toState 0 0 := by
  rintro ⟨_, lawful, _⟩
  obtain ⟨final, returned, _⟩ := lawful ⟨by decide +kernel, by decide +kernel⟩
  have refused :
      (writeFd World.idle (3 : Nat) 8 fiveCounter.toState).error? =
        some .ebadf :=
    rfl
  rw [returned] at refused
  cases refused

end VibuxOS.Files
