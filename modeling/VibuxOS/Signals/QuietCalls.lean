import VibuxOS.Signals.Interrupts

namespace VibuxOS.Signals

open VibuxOS.Lib VibuxOS.Paging

/-!
# Calls that keep the signals

Interrupts raise signals, deliveries and checks take them; each of these keeps
the pending signals in step with the record.  The other calls leave the
pending signals, the child and the saved state of its parent alone.
-/

/-! ## What the calls keep -/

/-- The snapshot of the parent has the signals that were owed at the fork. -/
def Watched.Saved (watched : Watched) : Prop :=
  ∀ signum,
    IsSignal signum →
    (Has watched.machine.parentState.pendingSignals signum ↔
      Owed watched.beforeFork signum)

/-- The signals of the running parent, or of the parent of a running child. -/
def Watched.Consistent (watched : Watched) : Prop :=
  (watched.machine.childActive = false → watched.Kept) ∧
    (watched.machine.childActive = true → watched.Saved)

/-- The parts of a machine on which the signals of a run depend. -/
structure Machine.SameSignals (before after : Machine) : Prop where
  pending : after.pending = before.pending
  childActive : after.childActive = before.childActive
  parentState : after.parentState = before.parentState

theorem Machine.SameSignals.refl
    (machine : Machine) :
    machine.SameSignals machine :=
  ⟨rfl, rfl, rfl⟩

/-- A program that leaves those parts alone. -/
def Quiet {α : Type} (program : Sys α) : Prop :=
  ∀ machine : Machine, Prog.Keeps machine.SameSignals program

theorem Watched.Consistent.of_same
    {watched : Watched}
    {machine : Machine}
    (holds : watched.Consistent)
    (same : watched.machine.SameSignals machine) :
    Watched.Consistent { watched with machine := machine } := by
  obtain ⟨pending, childActive, parentState⟩ := same
  unfold Watched.Consistent Watched.Kept Watched.Saved
  dsimp only
  rw [pending, childActive, parentState]
  exact holds

theorem keeps_onMachine
    {α : Type}
    {program : Sys α}
    (quiet : Quiet program) :
    Prog.Keeps Watched.Consistent (onMachine program) := by
  apply Prog.Ensures.onPart
  · intro watched value final holds returned
    exact holds.of_same
      ((quiet watched.machine watched.machine (.refl _)).1 _ _ returned)
  · intro watched error final holds failed
    exact holds.of_same
      ((quiet watched.machine watched.machine (.refl _)).2 _ _ failed)

theorem Watched.Consistent.interrupted
    {watched : Watched}
    (holds : watched.Consistent) :
    watched.interrupted.Consistent := by
  obtain ⟨machine, beforeFork, kept, _⟩ := watched.interrupts_interrupted
  constructor
  · intro inactive
    rw [machine] at inactive
    exact kept (holds.1 inactive)
  · intro active
    rw [machine] at active
    unfold Watched.Saved
    rw [machine, beforeFork]
    exact holds.2 active

theorem keeps_interrupts :
    Prog.Keeps Watched.Consistent interrupts := by
  intro watched holds
  rw [interrupts_apply]
  constructor
  · intro value final returned
    cases returned
    exact holds.interrupted
  · intro error final failed
    cases failed

theorem keeps_raise
    (signum : UInt64) :
    Prog.Keeps Watched.Consistent (raise signum) := by
  intro watched holds
  rw [raise_apply]
  have raised := watched.interrupts_raised signum
  constructor
  · intro value final returned
    cases returned
    constructor
    · intro inactive
      rw [raised.machine] at inactive
      exact raised.kept (holds.1 inactive)
    · intro active
      rw [raised.machine] at active
      unfold Watched.Saved
      rw [raised.machine, raised.beforeFork]
      exact holds.2 active
  · intro error final failed
    cases failed

theorem keeps_take
    {signum : UInt64}
    (isSignal : IsSignal signum) :
    Prog.Keeps Watched.Consistent (take signum) := by
  intro watched holds
  constructor
  · intro value final returned
    cases returned
    constructor
    · intro inactive other isOther
      refine (has_and_not_signalBit isSignal isOther).trans ?_
      rw [holds.1 inactive other isOther]
      rfl
    · intro active
      exact holds.2 active
  · intro error final failed
    cases failed

theorem keeps_takeDeliverableLoop
    (fuel : Nat) :
    Prog.Keeps Watched.Consistent (takeDeliverableLoop fuel) := by
  induction fuel with
  | zero =>
      exact Prog.Ensures.hang
  | succ fuel inductionHypothesis =>
      apply Prog.Keeps.bind keeps_interrupts
      intro _
      apply Prog.Keeps.bind (Prog.Keeps.of_readOnly (.gets _))
      intro machine
      split
      · exact Prog.Keeps.of_readOnly (.pure _)
      · rename_i signum lowest
        apply Prog.Keeps.bind (Prog.Keeps.of_readOnly (.gets _))
        intro action
        apply Prog.Keeps.bind keeps_interrupts
        intro _
        apply Prog.Keeps.bind (keeps_take (isSignal_lowestSignal lowest))
        intro _
        apply Prog.Keeps.ite
        · exact inductionHypothesis
        · exact Prog.Keeps.of_readOnly (.pure _)

theorem keeps_pendingUnblockedLoop
    (fuel : Nat)
    (pending : UInt64) :
    Prog.Keeps Watched.Consistent (pendingUnblockedLoop fuel pending) := by
  induction fuel generalizing pending with
  | zero =>
      exact Prog.Ensures.hang
  | succ fuel inductionHypothesis =>
      unfold pendingUnblockedLoop
      split
      · exact Prog.Keeps.of_readOnly (.pure _)
      · rename_i signum lowest
        apply Prog.Keeps.bind (Prog.Keeps.of_readOnly (.gets _))
        intro action
        apply Prog.Keeps.ite
        · apply Prog.Keeps.bind keeps_interrupts
          intro _
          apply Prog.Keeps.bind (keeps_take (isSignal_lowestSignal lowest))
          intro _
          exact inductionHypothesis _
        · exact Prog.Keeps.of_readOnly (.pure _)

theorem keeps_pendingUnblocked :
    Prog.Keeps Watched.Consistent pendingUnblocked := by
  apply Prog.Keeps.bind keeps_interrupts
  intro _
  apply Prog.Keeps.bind (Prog.Keeps.of_readOnly (.gets _))
  intro machine
  exact keeps_pendingUnblockedLoop _ _

/-! ## Quiet programs -/

theorem quiet_readOnly
    {α : Type}
    {program : Sys α}
    (reads : Prog.ReadOnly program) :
    Quiet program :=
  fun _ => Prog.Keeps.of_readOnly reads

theorem quiet_fail
    {α : Type}
    (error : UInt64) :
    Quiet (Prog.fail error : Sys α) :=
  fun _ => Prog.Ensures.fail fun _ holds => holds

theorem quiet_modify
    {change : Machine → Machine}
    (same : ∀ machine, Machine.SameSignals machine (change machine)) :
    Quiet (Prog.modify change : Sys Unit) := by
  intro machine
  apply Prog.Keeps.modify
  intro later holds
  obtain ⟨pending, childActive, parentState⟩ := same later
  exact ⟨pending.trans holds.pending, childActive.trans holds.childActive,
    parentState.trans holds.parentState⟩

theorem Quiet.bind
    {α β : Type}
    {first : Sys α}
    {next : α → Sys β}
    (firstQuiet : Quiet first)
    (nextQuiet : ∀ value, Quiet (next value)) :
    Quiet (first >>= next) :=
  fun machine =>
    Prog.Keeps.bind (firstQuiet machine) fun value => nextQuiet value machine

theorem Quiet.ite
    {α : Type}
    {condition : Prop}
    [Decidable condition]
    {yes no : Sys α}
    (yesQuiet : Quiet yes)
    (noQuiet : Quiet no) :
    Quiet (if condition then yes else no) :=
  fun machine => Prog.Keeps.ite (yesQuiet machine) (noQuiet machine)

theorem quiet_unlessZero
    {word : UInt64}
    {program : Sys Unit}
    (quiet : Quiet program) :
    Quiet (unlessZero word program) :=
  quiet.ite (quiet_readOnly (.pure _))

theorem quiet_copyIn
    (address : UInt64)
    (len : Nat) :
    Quiet (copyIn address len) := by
  intro before machine holds
  unfold copyIn
  constructor
  · intro value final returned
    split at returned <;> cases returned
    exact holds
  · intro error final failed
    split at failed <;> cases failed
    exact holds

theorem quiet_copyOut
    (address : UInt64)
    (input : List UInt8) :
    Quiet (copyOut address input) := by
  intro before machine holds
  obtain ⟨pending, childActive, parentState⟩ := holds
  unfold copyOut
  constructor
  · intro value final returned
    split at returned <;> cases returned
    exact ⟨pending, childActive, parentState⟩
  · intro error final failed
    split at failed <;> cases failed
    exact ⟨pending, childActive, parentState⟩

theorem quiet_setMask
    (mask : UInt64) :
    Quiet (setMask mask) :=
  quiet_modify fun _ => ⟨rfl, rfl, rfl⟩

theorem quiet_signalActionSet
    (index : Nat)
    (action : SignalAction) :
    Quiet (signalActionSet index action) :=
  quiet_modify fun _ => ⟨rfl, rfl, rfl⟩

theorem quiet_terminateForSignal
    (signum : UInt64) :
    Quiet (terminateForSignal signum) :=
  quiet_modify fun _ => ⟨rfl, rfl, rfl⟩

theorem quiet_setSavedUserRsp
    (value : UInt64) :
    Quiet (setSavedUserRsp value) := by
  apply quiet_modify
  intro machine
  split <;> exact ⟨rfl, rfl, rfl⟩

theorem quiet_rtSigactionImpl
    (signum newAction oldAction sigsetsize : UInt64) :
    Quiet (rtSigactionImpl signum newAction oldAction sigsetsize) := by
  apply Quiet.ite (quiet_fail _)
  apply Quiet.bind
  · apply quiet_unlessZero
    exact (quiet_readOnly (.gets _)).bind fun _ => quiet_copyOut _ _
  · intro _
    apply Quiet.bind
    · apply quiet_unlessZero
      exact (quiet_copyIn _ _).bind fun _ => quiet_signalActionSet _ _
    · intro _
      exact quiet_readOnly (.pure _)

theorem quiet_rtSigprocmaskImpl
    (how set oldset sigsetsize : UInt64) :
    Quiet (rtSigprocmaskImpl how set oldset sigsetsize) := by
  apply Quiet.ite (quiet_fail _)
  apply Quiet.bind
  · apply quiet_unlessZero
    exact (quiet_readOnly (.gets _)).bind fun _ => quiet_copyOut _ _
  · intro _
    apply Quiet.bind
    · apply quiet_unlessZero
      apply (quiet_copyIn _ _).bind
      intro raw
      apply (quiet_readOnly (.gets _)).bind
      intro mask
      apply (quiet_setMask _).ite
      apply (quiet_setMask _).ite
      exact (quiet_setMask _).ite (quiet_fail _)
    · intro _
      exact quiet_readOnly (.pure _)

theorem quiet_rtSigreturnImpl : Quiet rtSigreturnImpl := by
  apply (quiet_readOnly (.gets _)).bind
  intro userRsp
  split
  · exact quiet_fail _
  · apply (quiet_copyIn _ _).bind
    intro data
    apply (quiet_fail _).ite
    apply (quiet_setSavedUserRsp _).bind
    intro _
    apply Quiet.bind
    · exact quiet_modify fun _ => ⟨rfl, rfl, rfl⟩
    · intro _
      exact quiet_readOnly (.pure _)

theorem quiet_buildSignalFrame
    (frame : SyscallFrame)
    (signum : UInt64)
    (action : SignalAction)
    (oldMask oldRsp : UInt64) :
    Quiet (buildSignalFrame frame signum action oldMask oldRsp) := by
  apply (quiet_fail _).ite
  split
  · exact quiet_fail _
  · apply (quiet_fail _).ite
    apply (quiet_readOnly (.gets _)).bind
    intro machine
    apply (quiet_copyOut _ _).bind
    intro _
    apply (quiet_copyOut _ _).bind
    intro _
    exact quiet_readOnly (.pure _)

theorem quiet_deliverSignal
    (frame : SyscallFrame)
    (signum : UInt64) :
    Quiet (deliverSignal frame signum) := by
  have unchanged : Quiet (pure frame : Sys SyscallFrame) :=
    quiet_readOnly (.pure _)
  apply (quiet_readOnly (.gets _)).bind
  intro machine
  apply Quiet.ite
  · exact (quiet_terminateForSignal _).bind fun _ => unchanged
  · apply unchanged.ite
    apply Quiet.bind
    · exact fun before => (quiet_buildSignalFrame _ _ _ _ _ before).attempt
    · intro built
      cases built with
      | error code =>
          exact (quiet_terminateForSignal _).bind fun _ => unchanged
      | ok frameBase =>
          apply (quiet_setMask _).bind
          intro _
          apply (quiet_unlessZero (quiet_signalActionSet _ _)).bind
          intro _
          apply (quiet_setSavedUserRsp _).bind
          intro _
          exact quiet_readOnly (.pure _)

theorem quiet_used
    (tables : Memory)
    (bytes : UInt64 → UInt8)
    (fsBase rsp : UInt64) :
    Quiet (Prog.modify (Machine.used tables bytes fsBase rsp) : Sys Unit) := by
  apply quiet_modify
  intro machine
  unfold Machine.used Machine.entered
  split <;> exact ⟨rfl, rfl, rfl⟩

theorem keeps_single
    {α : Type}
    {program : Sys α}
    (quiet : Quiet program) :
    Prog.Keeps Watched.Consistent (single program) := by
  apply Prog.Keeps.bind keeps_interrupts
  intro _
  apply Prog.Keeps.bind (keeps_onMachine quiet)
  intro _
  exact Prog.Keeps.of_readOnly (.pure _)

theorem keeps_deliverPending
    (fuel : Nat)
    (frame : SyscallFrame) :
    Prog.Keeps Watched.Consistent (deliverPending fuel frame) := by
  apply Prog.Keeps.bind (keeps_takeDeliverableLoop fuel)
  intro taken
  cases taken with
  | none =>
      exact Prog.Keeps.of_readOnly (.pure _)
  | some signum =>
      exact keeps_onMachine (quiet_deliverSignal _ _)

end VibuxOS.Signals
