import VibuxOS.Signals.Masks
import VibuxOS.Signals.SignalSets

namespace VibuxOS.Signals

open VibuxOS.Lib VibuxOS.Paging

/-!
# Signals, with interrupts at any moment

The terminal interrupt raises signals at any moment, also between two accesses
of one call to `PENDING_SIGNALS`.  Here every access is preceded by the
interrupts that arrive before it, and a run keeps a record of the signals that
were raised and of those that were taken: delivered, read through a signal
descriptor, or discarded as ignored.
-/

variable (watched : Watched)

def ebadf : UInt64 := 9

def enosys : UInt64 := 38

def oNonblock : UInt64 := 0x800

/-- What a run records about a signal. -/
inductive Event where
  | raised (signum : UInt64)
  | taken (signum : UInt64)
  deriving DecidableEq

def Event.signum : Event → UInt64
  | .raised signum => signum
  | .taken signum => signum

/--
A machine with the interrupts that are to arrive, one list for each access to
`PENDING_SIGNALS`, and with the events of its run, the latest ones first:
those since the last fork and those before it.
-/
structure Watched where
  machine : Machine
  arrivals : List (List UInt64)
  sinceFork : List Event
  beforeFork : List Event

/-- The calls of a watched machine. -/
abbrev WatchedSys := Prog Watched UInt64

/-- All events of a run. -/
def Watched.events (watched : Watched) : List Event :=
  watched.sinceFork ++ watched.beforeFork

/-- A signal was raised and has not been taken since. -/
def Owed : List Event → UInt64 → Prop
  | [], _ => False
  | .raised raised :: rest, signum => raised = signum ∨ Owed rest signum
  | .taken taken :: rest, signum => taken ≠ signum ∧ Owed rest signum

def lastEvent (events : List Event) (signum : UInt64) : Option Event :=
  events.find? fun event => event.signum == signum

/-! ## Calls with interrupts -/

/-- A call that does not look at `PENDING_SIGNALS`, or only once. -/
def onMachine
    {α : Type}
    (program : Sys α) :
    WatchedSys α :=
  Prog.onPart Watched.machine
    (fun machine watched => { watched with machine := machine }) program

def record (event : Event) : WatchedSys Unit :=
  Prog.modify fun watched =>
    { watched with sinceFork := event :: watched.sinceFork }

/-- `raise_signal` -/
def raise (signum : UInt64) : WatchedSys Bool := do
  let raised ← onMachine (raiseSignal signum)
  if raised then do
    record (.raised signum)
    pure true
  else
    pure false

/-- The signals that the interrupts raise, one after the other. -/
def raiseEach : List UInt64 → WatchedSys Unit
  | [] => pure ()
  | signum :: rest => do
      let _ ← raise signum
      raiseEach rest

/-- The interrupts before an access to `PENDING_SIGNALS`. -/
def interrupts : WatchedSys Unit := do
  let arrived ← Prog.gets fun watched => watched.arrivals.headD []
  Prog.modify fun watched =>
    { watched with arrivals := watched.arrivals.tail }
  raiseEach arrived

/-- Clear a signal that is delivered or discarded. -/
def take (signum : UInt64) : WatchedSys Unit := do
  onMachine (clearPending signum)
  record (.taken signum)

def actionOf (signum : UInt64) : WatchedSys SignalAction :=
  Prog.gets fun watched =>
    watched.machine.process.signalActions (signum - 1).toNat

/-- The loop of `take_deliverable_signal`. -/
def takeDeliverableLoop : Nat → WatchedSys (Option UInt64)
  | 0 => Prog.hang
  | fuel + 1 => do
      interrupts
      let machine ← Prog.gets Watched.machine
      match lowestSignal (machine.pending &&& ~~~machine.process.signalMask)
      with
      | none => pure none
      | some signum => do
          let action ← actionOf signum
          interrupts
          take signum
          if action.ignores signum then
            takeDeliverableLoop fuel
          else
            pure (some signum)

/-- `deliver_pending_signal` after the signal has been taken. -/
def deliverSignal
    (frame : SyscallFrame)
    (signum : UInt64) :
    Sys SyscallFrame := do
  let index := (signum - 1).toNat
  let machine ← Prog.gets id
  let action := machine.process.signalActions index
  if action.handler = sigDfl then do
    terminateForSignal signum
    pure frame
  else if action.handler = sigIgn then
    pure frame
  else do
    let oldMask := machine.process.signalMask
    let built ←
      Prog.attempt
        (buildSignalFrame frame signum action oldMask machine.deliveryRsp)
    match built with
    | .error _ => do
        terminateForSignal sigsegv
        pure frame
    | .ok frameBase => do
        setMask (handlerMask oldMask signum action)
        unlessZero (action.flags &&& saResethand)
          (signalActionSet index SignalAction.empty)
        setSavedUserRsp frameBase
        pure
          { frame with
            rdi := signum
            rsi := frameBase + UInt64.ofNat siginfoOffset
            rdx := frameBase + 8
            syscallRcx := action.handler
            syscallR11 := rflagsUser }

/--
`deliver_pending_signal`; with `fuel` turns of the loop, because interrupts
can go on raising ignored signals.
-/
def deliverPending
    (fuel : Nat)
    (frame : SyscallFrame) :
    WatchedSys SyscallFrame := do
  let taken ← takeDeliverableLoop fuel
  match taken with
  | none => pure frame
  | some signum => onMachine (deliverSignal frame signum)

/-- The loop of `signal_pending_unblocked`, on its copy of the word. -/
def pendingUnblockedLoop : Nat → UInt64 → WatchedSys Bool
  | 0, _ => Prog.hang
  | fuel + 1, pending =>
      match lowestSignal pending with
      | none => pure false
      | some signum => do
          let action ← actionOf signum
          if action.ignores signum then do
            interrupts
            take signum
            pendingUnblockedLoop fuel (pending &&& ~~~signalBit signum)
          else
            pure true

/-- `signal_pending_unblocked`; every turn clears one of 64 bits. -/
def pendingUnblocked : WatchedSys Bool := do
  interrupts
  let machine ← Prog.gets Watched.machine
  pendingUnblockedLoop 65
    (machine.pending &&& ~~~machine.process.signalMask)

/-- The structure that a signal descriptor returns. -/
def signalInfo (signum pid : UInt64) : List UInt8 :=
  firstBytes
    (Lib.record (fun _ => 0)
      [putU32 0 signum, putU32 4 0, putU32 8 pid, putU32 12 1000])
    128

/-- The signal descriptor of a read: its slot and its flags. -/
structure SignalFd where
  used : Bool
  mask : UInt64
  flags : UInt64

/-- `read_fd` of a signal descriptor -/
def signalfdRead
    (fd : SignalFd)
    (address : UInt64)
    (count : Nat) :
    WatchedSys UInt64 :=
  if fd.used = false then
    Prog.fail ebadf
  else do
    interrupts
    let machine ← Prog.gets Watched.machine
    match lowestSignal (machine.pending &&& fd.mask) with
    | none =>
        if fd.flags &&& oNonblock ≠ 0 then
          Prog.fail eagain
        else
          pure 0
    | some signum => do
        interrupts
        onMachine (clearPending signum)
        if count < 128 then
          Prog.fail einval
        else do
          onMachine
            (copyOut address (signalInfo signum machine.process.pid))
          record (.taken signum)
          pure 128

/-- A child runs: what was recorded belongs to the time before the fork. -/
def startRecord : WatchedSys Unit :=
  Prog.modify fun watched =>
    { watched with
      sinceFork := []
      beforeFork := watched.events }

/-- `do_fork` -/
def fork (childCr3 : Option UInt64) : WatchedSys UInt64 := do
  interrupts
  let result ← onMachine (doFork childCr3)
  startRecord
  pure result

/-- `do_vfork` -/
def vfork : WatchedSys UInt64 := do
  interrupts
  let result ← onMachine doVfork
  startRecord
  pure result

/-- `execve` as far as it gets to `reset_process_for_exec` -/
def execve (cr3 : UInt64) : WatchedSys Unit := do
  let machine ← Prog.gets Watched.machine
  if machine.childActive = false then
    Prog.fail enosys
  else do
    onMachine (switchCr3 cr3)
    interrupts
    onMachine resetProcessForExec

/-- A call during whose single access to the pending signals interrupts come. -/
def single
    {α : Type}
    (program : Sys α) :
    WatchedSys Unit := do
  interrupts
  let _ ← onMachine program
  pure ()

/-! ## Runs -/

/--
The calls of a run.  `user` is what user code and the other calls do; `exit`
is the end of a child, on its own account or by a signal.
-/
inductive WatchedCall where
  | raise (signum : UInt64)
  | deliver (fuel : Nat) (frame : SyscallFrame)
  | pendingUnblocked
  | signalfdRead (fd : SignalFd) (address : UInt64) (count : Nat)
  | fork (childCr3 : Option UInt64)
  | vfork
  | exit
  | execve (cr3 : UInt64)
  | rtSigaction (signum newAction oldAction sigsetsize : UInt64)
  | rtSigprocmask (how set oldset sigsetsize : UInt64)
  | rtSigreturn
  | user (tables : Memory) (bytes : UInt64 → UInt8) (fsBase rsp : UInt64)

/-- What a call does while interrupts arrive. -/
def WatchedCall.run : WatchedCall → WatchedSys Unit
  | .raise signum => do
      interrupts
      let _ ← Signals.raise signum
      pure ()
  | .deliver fuel frame => do
      let _ ← deliverPending fuel frame
      pure ()
  | .pendingUnblocked => do
      let _ ← Signals.pendingUnblocked
      pure ()
  | .signalfdRead fd address count => do
      let _ ← Signals.signalfdRead fd address count
      pure ()
  | .fork childCr3 => do
      let _ ← Signals.fork childCr3
      pure ()
  | .vfork => do
      let _ ← Signals.vfork
      pure ()
  | .exit => single vforkChildExit
  | .execve cr3 => Signals.execve cr3
  | .rtSigaction signum newAction oldAction sigsetsize =>
      single (rtSigactionImpl signum newAction oldAction sigsetsize)
  | .rtSigprocmask how set oldset sigsetsize =>
      single (rtSigprocmaskImpl how set oldset sigsetsize)
  | .rtSigreturn => single rtSigreturnImpl
  | .user tables bytes fsBase rsp =>
      single (Prog.modify (Machine.used tables bytes fsBase rsp) : Sys Unit)

/-- The interrupts that are to arrive during the next call. -/
def Watched.armed
    (arrivals : List (List UInt64))
    (watched : Watched) :
    Watched :=
  { watched with arrivals := arrivals }

/-- A call comes back, whatever interrupts arrive during it. -/
def WatchedStep
    (allowed : Watched → WatchedCall → Prop)
    (before after : Watched) : Prop :=
  ∃ call arrivals,
    allowed (before.armed arrivals) call ∧
      (call.run (before.armed arrivals)).final? = some after

/-- A run of allowed calls, with interrupts at any moment. -/
abbrev WatchedRun
    (allowed : Watched → WatchedCall → Prop) :
    Watched → Watched → Prop :=
  Relation.ReflTransGen (WatchedStep allowed)

/-- A process that has not run yet, without any signal. -/
def Watched.Starts (watched : Watched) : Prop :=
  watched.machine.Starts ∧ watched.machine.pending = 0 ∧
    watched.sinceFork = [] ∧ watched.beforeFork = []

/-- The pending signals are those that were raised and not taken since. -/
def Watched.Kept (watched : Watched) : Prop :=
  ∀ signum,
    IsSignal signum →
    (Has watched.machine.pending signum ↔ Owed watched.events signum)

def Watched.raised (signum : UInt64) (watched : Watched) : Watched :=
  if signum = 0 ∨ signum > 64 then
    watched
  else
    { watched with
      machine :=
        { watched.machine with
          pending := watched.machine.pending ||| signalBit signum }
      sinceFork := .raised signum :: watched.sinceFork }

/-- The next interrupts have arrived. -/
def Watched.interrupted (watched : Watched) : Watched :=
  (watched.arrivals.headD []).foldl
    (fun later signum => later.raised signum)
    { watched with arrivals := watched.arrivals.tail }

/--
What happened to the signals since the fork comes to what was pending at the
fork: a signal that was raised last was pending, and a signal that was taken
last was not.
-/
def Watched.Settled (watched : Watched) : Prop :=
  ∀ signum,
    IsSignal signum →
    (lastEvent watched.sinceFork signum = some (.raised signum) →
      Has watched.machine.parentState.pendingSignals signum) ∧
    (lastEvent watched.sinceFork signum = some (.taken signum) →
      ¬ Has watched.machine.parentState.pendingSignals signum)

/--
The events of a child's run are settled at its exit, and outside of a child's
run a read that finds a signal has a buffer for it.
-/
def Careful (watched : Watched) : WatchedCall → Prop
  | .exit =>
      watched.machine.childActive = true → watched.interrupted.Settled
  | .signalfdRead fd address count =>
      watched.machine.childActive = false →
      fd.used = true →
      watched.interrupted.machine.pending &&& fd.mask ≠ 0 →
      128 ≤ count ∧ Covered watched.machine.space.Stores address 128
  | _ => True

/-! ## Events -/

theorem owed_append
    {signum : UInt64}
    (since before : List Event) :
    Owed (since ++ before) signum ↔
      lastEvent since signum = some (.raised signum) ∨
        lastEvent since signum = none ∧ Owed before signum := by
  induction since with
  | nil =>
      simp [lastEvent]
  | cons event rest inductionHypothesis =>
      have unfolded :
          lastEvent (event :: rest) signum =
            if event.signum = signum then
              some event
            else
              lastEvent rest signum := by
        simp only [lastEvent, List.find?_cons]
        by_cases same : event.signum = signum
        · simp [same]
        · rw [if_neg same, beq_eq_false_iff_ne.mpr same]
      rw [unfolded]
      cases event with
      | raised raised =>
          by_cases same : raised = signum
          · simp [Owed, Event.signum, same]
          · simp [Owed, Event.signum, same, inductionHypothesis]
      | taken taken =>
          by_cases same : taken = signum
          · simp [Owed, Event.signum, same]
          · simp [Owed, Event.signum, same, inductionHypothesis]

theorem lastEvent_cases
    (events : List Event)
    (signum : UInt64) :
    lastEvent events signum = none ∨
      lastEvent events signum = some (.raised signum) ∨
      lastEvent events signum = some (.taken signum) := by
  cases found : lastEvent events signum with
  | none =>
      exact Or.inl rfl
  | some event =>
      have same := List.find?_some found
      rw [beq_iff_eq] at same
      cases event with
      | raised raised =>
          exact Or.inr (Or.inl (congrArg (some ∘ Event.raised) same))
      | taken taken =>
          exact Or.inr (Or.inr (congrArg (some ∘ Event.taken) same))

theorem settled_iff
    {watched : Watched}
    (saved :
      ∀ signum,
        IsSignal signum →
        (Has watched.machine.parentState.pendingSignals signum ↔
          Owed watched.beforeFork signum)) :
    watched.Settled ↔
      ∀ signum,
        IsSignal signum →
        (Has watched.machine.parentState.pendingSignals signum ↔
          Owed watched.events signum) := by
  apply forall_congr'
  intro signum
  apply imp_congr_right
  intro isSignal
  rw [saved signum isSignal, Watched.events, owed_append]
  rcases lastEvent_cases watched.sinceFork signum with
      none | raised | taken
  · simp [none]
  · simp [raised]
  · simp [taken]

/-! ## Interrupts -/

theorem raise_apply
    (signum : UInt64)
    (watched : Watched) :
    raise signum watched =
      .ok (!decide (signum = 0 ∨ signum > 64)) (watched.raised signum) := by
  unfold raise onMachine raiseSignal Watched.raised
  by_cases refused : signum = 0 ∨ signum > 64
  · rw [if_pos refused, if_pos refused, decide_eq_true refused]
    rfl
  · rw [if_neg refused, if_neg refused, decide_eq_false refused]
    rfl

theorem raiseEach_apply
    (signums : List UInt64)
    (watched : Watched) :
    raiseEach signums watched =
      .ok ()
        (signums.foldl (fun later signum => later.raised signum)
          watched) := by
  induction signums generalizing watched with
  | nil =>
      rfl
  | cons signum rest inductionHypothesis =>
      rw [raiseEach, Prog.bind_of_ok (raise_apply signum watched)]
      exact inductionHypothesis _

@[simp] theorem interrupts_apply
    (watched : Watched) :
    interrupts watched = .ok () watched.interrupted :=
  raiseEach_apply _ _

/-- What interrupts leave alone: all but the pending signals. -/
structure Watched.Interrupts (before after : Watched) : Prop where
  machine :
    after.machine =
      { before.machine with pending := after.machine.pending }
  beforeFork : after.beforeFork = before.beforeFork
  kept : before.Kept → after.Kept
  pending :
    ∀ signum,
      IsSignal signum →
      Has before.machine.pending signum →
      Has after.machine.pending signum

theorem Watched.Interrupts.trans
    {first second third : Watched}
    (early : first.Interrupts second)
    (late : second.Interrupts third) :
    first.Interrupts third where
  machine := by
    rw [late.machine, early.machine]
  beforeFork := late.beforeFork.trans early.beforeFork
  kept holds := late.kept (early.kept holds)
  pending signum isSignal among :=
    late.pending signum isSignal (early.pending signum isSignal among)

theorem Watched.interrupts_raised
    (signum : UInt64) :
    watched.Interrupts (watched.raised signum) := by
  unfold Watched.raised
  split
  · exact ⟨rfl, rfl, id, fun _ _ among => among⟩
  · rename_i isRaised
    refine ⟨rfl, rfl, ?_, ?_⟩
    · intro kept other isSignal
      refine (has_or_signalBit isRaised isSignal).trans ?_
      rw [kept other isSignal]
      rfl
    · intro other isSignal among
      exact (has_or_signalBit isRaised isSignal).mpr (Or.inr among)

theorem Watched.interrupts_foldl
    (signums : List UInt64) :
    watched.Interrupts
      (signums.foldl (fun later signum => later.raised signum) watched) := by
  induction signums generalizing watched with
  | nil =>
      exact ⟨rfl, rfl, id, fun _ _ among => among⟩
  | cons signum rest inductionHypothesis =>
      exact (watched.interrupts_raised signum).trans
        (inductionHypothesis _)

theorem Watched.interrupts_interrupted :
    watched.Interrupts watched.interrupted := by
  obtain ⟨machine, beforeFork, kept, pending⟩ :=
    Watched.interrupts_foldl
      { watched with arrivals := watched.arrivals.tail }
      (watched.arrivals.headD [])
  exact ⟨machine, beforeFork, kept, pending⟩

end VibuxOS.Signals
