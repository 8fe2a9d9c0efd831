import VibuxOS.Signals.Frames

namespace VibuxOS.Signals

open VibuxOS.Lib VibuxOS.Paging

/-!
# Which signals a process can block

Changing the mask and entering a handler clear the bits of `SIGKILL` and
`SIGSTOP`.  Returning from a handler takes the mask from user memory as it
stands there, so the bits stay clear as long as no frame has them set.
-/

variable (mask : UInt64)

/-- A mask without `SIGKILL` and `SIGSTOP`. -/
def Unblocked (mask : UInt64) : Prop :=
  mask &&& signalBit sigkill = 0 ∧ mask &&& signalBit sigstop = 0

instance (mask : UInt64) : Decidable (Unblocked mask) :=
  inferInstanceAs (Decidable (_ ∧ _))

theorem unblocked_cleared :
    Unblocked (mask &&& ~~~signalBit sigkill &&& ~~~signalBit sigstop) := by
  constructor
  · rw [UInt64.and_assoc mask, UInt64.and_comm (~~~signalBit sigkill),
      ← UInt64.and_assoc]
    exact and_not_and _ _
  · exact and_not_and _ _

theorem Unblocked.or
    {left right : UInt64}
    (leftHolds : Unblocked left)
    (rightHolds : Unblocked right) :
    Unblocked (left ||| right) := by
  unfold Unblocked
  rw [or_and, or_and, leftHolds.1, leftHolds.2, rightHolds.1, rightHolds.2]
  exact ⟨rfl, rfl⟩

theorem Unblocked.and
    {mask : UInt64}
    (holds : Unblocked mask)
    (other : UInt64) :
    Unblocked (mask &&& other) := by
  have without :
      ∀ bit, mask &&& bit = 0 → mask &&& other &&& bit = 0 := by
    intro bit clear
    rw [UInt64.and_assoc, UInt64.and_comm other, ← UInt64.and_assoc, clear,
      UInt64.zero_and]
  exact ⟨without _ holds.1, without _ holds.2⟩

theorem unblocked_handlerMask
    (oldMask signum : UInt64)
    (action : SignalAction) :
    Unblocked (handlerMask oldMask signum action) :=
  unblocked_cleared _

/-! ## Runs -/

/--
The calls of a run; `user` is everything else that user code and the other
calls do to memory, to the page tables, to the base of `fs`, and to the stack
pointer with which the next call is entered.
-/
inductive Call where
  | rtSigaction (signum newAction oldAction sigsetsize : UInt64)
  | rtSigprocmask (how set oldset sigsetsize : UInt64)
  | rtSigreturn
  | deliver (frame : SyscallFrame)
  | raise (signum : UInt64)
  | fork (childCr3 : Option UInt64)
  | vfork
  | exit
  | exec (cr3 : UInt64)
  | user (tables : Memory) (bytes : UInt64 → UInt8) (fsBase rsp : UInt64)

/-- Everything else that happens between two calls. -/
def Machine.used
    (tables : Memory)
    (bytes : UInt64 → UInt8)
    (fsBase rsp : UInt64)
    (machine : Machine) :
    Machine :=
  Machine.entered rsp
    { machine with
      space := { machine.space with memory := tables }
      bytes := bytes
      fsBase := fsBase }

def switchCr3 (cr3 : UInt64) : Sys Unit :=
  Prog.modify fun machine =>
    { machine with space := { machine.space with cr3 := cr3 } }

def Call.run : Call → Sys Unit
  | .rtSigaction signum newAction oldAction sigsetsize => do
      let _ ← rtSigactionImpl signum newAction oldAction sigsetsize
      pure ()
  | .rtSigprocmask how set oldset sigsetsize => do
      let _ ← rtSigprocmaskImpl how set oldset sigsetsize
      pure ()
  | .rtSigreturn => do
      let _ ← rtSigreturnImpl
      pure ()
  | .deliver frame => do
      let _ ← deliverPendingSignal frame
      pure ()
  | .raise signum => do
      let _ ← raiseSignal signum
      pure ()
  | .fork childCr3 => do
      let _ ← doFork childCr3
      pure ()
  | .vfork => do
      let _ ← doVfork
      pure ()
  | .exit => vforkChildExit
  | .exec cr3 => do
      switchCr3 cr3
      resetProcessForExec
  | .user tables bytes fsBase rsp =>
      Prog.modify (Machine.used tables bytes fsBase rsp)

/-- A call comes back, with a value or an error. -/
def Step
    (allowed : Machine → Call → Prop)
    (before after : Machine) : Prop :=
  ∃ call, allowed before call ∧ (call.run before).final? = some after

/-- A run of allowed calls. -/
abbrev Run
    (allowed : Machine → Call → Prop) :
    Machine → Machine → Prop :=
  Relation.ReflTransGen (Step allowed)

/-- A process that has not run yet. -/
def Machine.Starts (machine : Machine) : Prop :=
  machine.process = ProcessState.new ∧ machine.childActive = false

/--
The frame at which `rt_sigreturn` looks has the two bits clear, if it can be
read and passes the checks.
-/
def Machine.ReturnsClean (machine : Machine) : Prop :=
  ∀ frameBase,
    returnPlace machine.syscallSavedRsp = some frameBase →
    Covered machine.space.Loads frameBase rtSigframeSize →
    accepts (machine.bytesFrom frameBase) = true →
    Unblocked (getU64 (machine.bytesFrom frameBase) ucSigmask)

/-- Every return from a handler finds a frame with the bits clear. -/
def CleanCall (machine : Machine) : Call → Prop
  | .rtSigreturn => machine.ReturnsClean
  | _ => True

/-- The bits are clear in the process and in a suspended parent. -/
def Machine.MasksUnblocked (machine : Machine) : Prop :=
  Unblocked machine.process.signalMask ∧
    (machine.childActive = true →
      Unblocked machine.parentState.signalMask)

/-! ## What the calls keep -/

/-- A part of the machine that holds the masks. -/
def Machine.SameMasks (before after : Machine) : Prop :=
  after.process.signalMask = before.process.signalMask ∧
    after.childActive = before.childActive ∧
    after.parentState = before.parentState

theorem Machine.MasksUnblocked.of_same
    {before after : Machine}
    (same : before.SameMasks after)
    (holds : before.MasksUnblocked) :
    after.MasksUnblocked := by
  obtain ⟨mask, active, parent⟩ := same
  unfold Machine.MasksUnblocked
  rw [mask, active, parent]
  exact holds

theorem keeps_modify
    {change : Machine → Machine}
    (same : ∀ machine, Machine.SameMasks machine (change machine)) :
    Prog.Keeps Machine.MasksUnblocked (Prog.modify change : Sys Unit) :=
  Prog.Keeps.modify fun machine holds => holds.of_same (same machine)

theorem keeps_copyIn
    (address : UInt64)
    (len : Nat) :
    Prog.Keeps Machine.MasksUnblocked (copyIn address len) := by
  apply Prog.Keeps.of_readOnly
  constructor
  · intro machine data final returned
    exact (copyIn_eq_ok returned).1
  · intro machine error final failed
    unfold copyIn at failed
    split at failed
    · cases failed
    · cases failed
      rfl
    · cases failed

theorem keeps_copyOut
    (address : UInt64)
    (input : List UInt8) :
    Prog.Keeps Machine.MasksUnblocked (copyOut address input) := by
  intro machine holds
  unfold copyOut
  constructor
  · intro value final returned
    split at returned
    · cases returned
      exact holds
    · cases returned
    · cases returned
  · intro error final failed
    split at failed
    · cases failed
    · cases failed
      exact holds
    · cases failed

theorem setMask_ensures
    {mask : UInt64}
    (unblocked : Unblocked mask) :
    Prog.Keeps Machine.MasksUnblocked (setMask mask) :=
  Prog.Keeps.modify fun _ holds => ⟨unblocked, holds.2⟩

theorem ensures_getsMask :
    Prog.Ensures Machine.MasksUnblocked
      (Prog.gets (fun machine => machine.process.signalMask) : Sys UInt64)
      (fun mask machine => Unblocked mask ∧ machine.MasksUnblocked)
      Machine.MasksUnblocked :=
  Prog.Ensures.gets fun _ holds => ⟨holds.1, holds⟩

theorem keeps_unlessZero
    {word : UInt64}
    {program : Sys Unit}
    (kept : Prog.Keeps Machine.MasksUnblocked program) :
    Prog.Keeps Machine.MasksUnblocked (unlessZero word program) :=
  Prog.Ensures.ite (fun _ => kept)
    (fun _ => Prog.Keeps.of_readOnly (.pure _))

theorem keeps_rtSigactionImpl
    (signum newAction oldAction sigsetsize : UInt64) :
    Prog.Keeps Machine.MasksUnblocked
      (rtSigactionImpl signum newAction oldAction sigsetsize) := by
  apply Prog.Ensures.ite
  · intro _
    exact Prog.Ensures.fail fun _ holds => holds
  · intro _
    apply Prog.Keeps.bind
    · apply keeps_unlessZero
      apply Prog.Keeps.bind (Prog.Keeps.of_readOnly (.gets _))
      intro action
      exact keeps_copyOut _ _
    · intro _
      apply Prog.Keeps.bind
      · apply keeps_unlessZero
        apply Prog.Keeps.bind (keeps_copyIn _ _)
        intro raw
        exact keeps_modify fun _ => ⟨rfl, rfl, rfl⟩
      · intro _
        exact Prog.Keeps.of_readOnly (.pure _)

theorem keeps_changeMask
    {mask value : UInt64}
    (maskHolds : Unblocked mask)
    (valueHolds : Unblocked value)
    (how : UInt64) :
    Prog.Keeps Machine.MasksUnblocked
      (if how = 0 then
        setMask (mask ||| value)
      else if how = 1 then
        setMask (mask &&& ~~~value)
      else if how = 2 then
        setMask value
      else
        Prog.fail einval) := by
  apply Prog.Ensures.ite
  · intro _
    exact setMask_ensures (maskHolds.or valueHolds)
  · intro _
    apply Prog.Ensures.ite
    · intro _
      exact setMask_ensures (maskHolds.and _)
    · intro _
      apply Prog.Ensures.ite
      · intro _
        exact setMask_ensures valueHolds
      · intro _
        exact Prog.Ensures.fail fun _ holds => holds

theorem keeps_rtSigprocmaskImpl
    (how set oldset sigsetsize : UInt64) :
    Prog.Keeps Machine.MasksUnblocked
      (rtSigprocmaskImpl how set oldset sigsetsize) := by
  apply Prog.Ensures.ite
  · intro _
    exact Prog.Ensures.fail fun _ holds => holds
  · intro _
    apply Prog.Keeps.bind
    · apply keeps_unlessZero
      apply Prog.Keeps.bind (Prog.Keeps.of_readOnly (.gets _))
      intro mask
      exact keeps_copyOut _ _
    · intro _
      apply Prog.Keeps.bind
      · apply keeps_unlessZero
        apply Prog.Keeps.bind (keeps_copyIn _ _)
        intro raw
        apply Prog.Ensures.bind ensures_getsMask
        intro mask machine holds
        exact
          keeps_changeMask holds.1 (unblocked_cleared (getU64 raw 0)) how
            machine holds.2
      · intro _
        exact Prog.Keeps.of_readOnly (.pure _)

/-! ## Delivery -/

theorem keeps_takeDeliverableSignalLoop
    (fuel : Nat) :
    Prog.Keeps Machine.MasksUnblocked (takeDeliverableSignalLoop fuel) := by
  have clears :
      ∀ signum,
        Prog.Keeps Machine.MasksUnblocked (clearPending signum) :=
    fun _ => keeps_modify fun _ => ⟨rfl, rfl, rfl⟩
  induction fuel with
  | zero =>
      exact Prog.Ensures.hang
  | succ fuel inductionHypothesis =>
      apply Prog.Keeps.bind (Prog.Keeps.of_readOnly (.gets _))
      intro machine
      split
      · exact Prog.Keeps.of_readOnly (.pure _)
      · apply Prog.Ensures.ite
        · intro _
          apply Prog.Keeps.bind (clears _)
          intro _
          exact inductionHypothesis
        · intro _
          apply Prog.Keeps.bind (clears _)
          intro _
          exact Prog.Keeps.of_readOnly (.pure _)

theorem keeps_buildSignalFrame
    (frame : SyscallFrame)
    (signum : UInt64)
    (action : SignalAction)
    (oldMask oldRsp : UInt64) :
    Prog.Keeps Machine.MasksUnblocked
      (buildSignalFrame frame signum action oldMask oldRsp) := by
  have fails :
      ∀ code, Prog.Keeps Machine.MasksUnblocked (Prog.fail code : Sys UInt64) :=
    fun _ => Prog.Ensures.fail fun _ holds => holds
  apply Prog.Ensures.ite
  · intro _
    exact fails _
  · intro _
    split
    · exact fails _
    · apply Prog.Ensures.ite
      · intro _
        exact fails _
      · intro _
        apply Prog.Keeps.bind (Prog.Keeps.of_readOnly (.gets _))
        intro machine
        apply Prog.Keeps.bind (keeps_copyOut _ _)
        intro _
        apply Prog.Keeps.bind (keeps_copyOut _ _)
        intro _
        exact Prog.Keeps.of_readOnly (.pure _)

theorem keeps_setSavedUserRsp
    (value : UInt64) :
    Prog.Keeps Machine.MasksUnblocked (setSavedUserRsp value) := by
  apply keeps_modify
  intro machine
  split <;> exact ⟨rfl, rfl, rfl⟩

theorem keeps_deliverPendingSignal
    (frame : SyscallFrame) :
    Prog.Keeps Machine.MasksUnblocked (deliverPendingSignal frame) := by
  have terminates :
      ∀ signum,
        Prog.Keeps Machine.MasksUnblocked (terminateForSignal signum) :=
    fun _ => keeps_modify fun _ => ⟨rfl, rfl, rfl⟩
  have unchanged :
      Prog.Keeps Machine.MasksUnblocked (pure frame : Sys SyscallFrame) :=
    Prog.Keeps.of_readOnly (.pure _)
  apply Prog.Keeps.bind (keeps_takeDeliverableSignalLoop 65)
  intro taken
  cases taken with
  | none =>
      exact unchanged
  | some signum =>
      apply Prog.Keeps.bind (Prog.Keeps.of_readOnly (.gets _))
      intro machine
      apply Prog.Ensures.ite
      · intro _
        apply Prog.Keeps.bind (terminates _)
        intro _
        exact unchanged
      · intro _
        apply Prog.Ensures.ite
        · intro _
          exact unchanged
        · intro _
          apply Prog.Keeps.bind (keeps_buildSignalFrame _ _ _ _ _).attempt
          intro built
          cases built with
          | error code =>
              apply Prog.Keeps.bind (terminates _)
              intro _
              exact unchanged
          | ok frameBase =>
              apply Prog.Keeps.bind
                (setMask_ensures (unblocked_handlerMask _ _ _))
              intro _
              apply Prog.Keeps.bind
              · apply keeps_unlessZero
                exact keeps_modify fun _ => ⟨rfl, rfl, rfl⟩
              · intro _
                apply Prog.Keeps.bind
                · exact keeps_setSavedUserRsp _
                · intro _
                  exact Prog.Keeps.of_readOnly (.pure _)

/-! ## Children -/

theorem keeps_snapshotParent :
    Prog.Keeps Machine.MasksUnblocked snapshotParent :=
  Prog.Keeps.modify fun _ holds => ⟨holds.1, fun _ => holds.1⟩

theorem ensures_snapshotParent :
    Prog.Ensures Machine.MasksUnblocked snapshotParent
      (fun _ machine =>
        Unblocked machine.process.signalMask ∧
          Unblocked machine.parentState.signalMask)
      Machine.MasksUnblocked :=
  Prog.Ensures.modify fun _ holds => ⟨holds.1, holds.1⟩

theorem ensures_enterChild
    (pid cr3 : UInt64) :
    Prog.Ensures
      (fun machine =>
        Unblocked machine.process.signalMask ∧
          Unblocked machine.parentState.signalMask)
      (enterChild pid cr3)
      (fun _ => Machine.MasksUnblocked) Machine.MasksUnblocked := by
  apply
    @Prog.Ensures.bind _ _ _ _ _ (fun _ => Machine.MasksUnblocked)
  · exact Prog.Ensures.modify fun _ holds => ⟨holds.1, fun _ => holds.2⟩
  · intro _
    exact Prog.Keeps.of_readOnly (.pure _)

theorem keeps_doFork
    (childCr3 : Option UInt64) :
    Prog.Keeps Machine.MasksUnblocked (doFork childCr3) := by
  apply Prog.Keeps.bind (Prog.Keeps.of_readOnly (.gets _))
  intro machine
  apply Prog.Ensures.ite
  · intro _
    exact Prog.Ensures.fail fun _ holds => holds
  · intro _
    cases childCr3 with
    | none =>
        apply Prog.Keeps.bind keeps_snapshotParent
        intro _
        apply Prog.Keeps.bind
        · exact keeps_modify fun _ => ⟨rfl, rfl, rfl⟩
        · intro _
          exact Prog.Ensures.fail fun _ holds => holds
    | some cr3 =>
        apply Prog.Ensures.bind ensures_snapshotParent
        intro _
        exact ensures_enterChild _ _

theorem keeps_doVfork :
    Prog.Keeps Machine.MasksUnblocked doVfork := by
  apply Prog.Keeps.bind (Prog.Keeps.of_readOnly (.gets _))
  intro machine
  apply Prog.Ensures.ite
  · intro _
    exact Prog.Ensures.fail fun _ holds => holds
  · intro _
    apply Prog.Ensures.bind ensures_snapshotParent
    intro _
    exact ensures_enterChild _ _

theorem keeps_vforkChildExit :
    Prog.Keeps Machine.MasksUnblocked vforkChildExit := by
  intro machine holds
  unfold vforkChildExit
  rw [Prog.gets_bind_apply, id]
  cases active : machine.childActive with
  | true =>
      constructor
      · intro value final returned
        cases returned
        exact ⟨holds.2 active, fun again => absurd again Bool.false_ne_true⟩
      · intro error final failed
        cases failed
  | false =>
      constructor <;> intro _ _ stuck <;> cases stuck

/-! ## Runs -/

theorem keeps_discard
    {α : Type}
    {program : Sys α}
    (kept : Prog.Keeps Machine.MasksUnblocked program) :
    Prog.Keeps Machine.MasksUnblocked (program >>= fun _ => pure ()) :=
  Prog.Keeps.bind kept fun _ => Prog.Keeps.of_readOnly (.pure _)

theorem final_rtSigreturn
    {machine after : Machine}
    (ended : (Call.rtSigreturn.run machine).final? = some after) :
    after = machine ∨
      ∃ frameBase,
        returnPlace machine.syscallSavedRsp = some frameBase ∧
          Covered machine.space.Loads frameBase rtSigframeSize ∧
          accepts (machine.bytesFrom frameBase) = true ∧
          after = machine.returned (machine.bytesFrom frameBase) := by
  rw [Call.run] at ended
  cases result : rtSigreturnImpl machine with
  | ok registers final =>
      rw [Prog.bind_of_ok result] at ended
      cases ended
      obtain ⟨frameBase, place, covered, accepted, _, isFinal⟩ :=
        rtSigreturnImpl_eq_ok.mp result
      exact Or.inr ⟨frameBase, place, covered, accepted, isFinal⟩
  | err error final =>
      rw [Prog.bind_of_err result] at ended
      cases ended
      exact Or.inl (rtSigreturnImpl_eq_err result)
  | hang =>
      rw [Prog.bind_of_hang result] at ended
      cases ended

theorem masksUnblocked_rtSigreturn
    {machine after : Machine}
    (clean : machine.ReturnsClean)
    (holds : machine.MasksUnblocked)
    (ended : (Call.rtSigreturn.run machine).final? = some after) :
    after.MasksUnblocked := by
  rcases final_rtSigreturn ended with
      rfl | ⟨frameBase, place, covered, accepted, rfl⟩
  · exact holds
  · unfold Machine.MasksUnblocked Machine.returned
    rw [signalMask_restored, childActive_restored, parentState_restored]
    exact ⟨clean frameBase place covered accepted, holds.2⟩

theorem masksUnblocked_step
    {before after : Machine}
    (step : Step CleanCall before after)
    (holds : before.MasksUnblocked) :
    after.MasksUnblocked := by
  obtain ⟨call, allowed, ended⟩ := step
  cases call with
  | rtSigaction signum newAction oldAction sigsetsize =>
      exact Prog.Ensures.final (keeps_discard (keeps_rtSigactionImpl _ _ _ _)) holds ended
  | rtSigprocmask how set oldset sigsetsize =>
      exact Prog.Ensures.final (keeps_discard (keeps_rtSigprocmaskImpl _ _ _ _)) holds ended
  | rtSigreturn =>
      exact masksUnblocked_rtSigreturn allowed holds ended
  | deliver frame =>
      exact Prog.Ensures.final (keeps_discard (keeps_deliverPendingSignal _)) holds ended
  | raise signum =>
      have kept : Prog.Keeps Machine.MasksUnblocked (raiseSignal signum) := by
        apply Prog.Ensures.ite
        · intro _
          exact Prog.Keeps.of_readOnly (.pure _)
        · intro _
          apply Prog.Keeps.bind
          · exact keeps_modify fun _ => ⟨rfl, rfl, rfl⟩
          · intro _
            exact Prog.Keeps.of_readOnly (.pure _)
      exact Prog.Ensures.final (keeps_discard kept) holds ended
  | fork childCr3 =>
      exact Prog.Ensures.final (keeps_discard (keeps_doFork _)) holds ended
  | vfork =>
      exact Prog.Ensures.final (keeps_discard keeps_doVfork) holds ended
  | exit =>
      exact Prog.Ensures.final keeps_vforkChildExit holds ended
  | exec cr3 =>
      cases ended
      exact holds
  | user tables bytes fsBase rsp =>
      cases ended
      apply holds.of_same
      unfold Machine.used Machine.entered Machine.SameMasks
      split <;> exact ⟨rfl, rfl, rfl⟩

/--
`SIGKILL` and `SIGSTOP` are never blocked in a run whose returns find clean
frames, and a return that succeeds on another frame blocks one of them.
-/
theorem masks_unblocked_of_clean_returns
    {initial : Machine}
    (isStart : initial.Starts) :
    (∀ final,
        Run CleanCall initial final →
        Unblocked final.process.signalMask) ∧
      ∀ machine,
        ¬ machine.ReturnsClean →
        ∃ after,
          (Call.rtSigreturn.run machine).final? = some after ∧
            ¬ Unblocked after.process.signalMask := by
  constructor
  · intro final run
    obtain ⟨isNew, noChild⟩ := isStart
    have starts : initial.MasksUnblocked := by
      unfold Machine.MasksUnblocked
      rw [isNew, noChild]
      exact ⟨by decide, fun active => absurd active Bool.false_ne_true⟩
    exact
      (invariant_of_run Machine.MasksUnblocked
        (fun _ _ step => masksUnblocked_step step) run starts).1
  · intro machine unclean
    unfold Machine.ReturnsClean at unclean
    push Not at unclean
    obtain ⟨frameBase, place, covered, accepted, blocked⟩ := unclean
    have returned :=
      rtSigreturnImpl_eq_ok.mpr
        ⟨frameBase, place, covered, accepted, rfl, rfl⟩
    refine ⟨machine.returned (machine.bytesFrom frameBase), ?_, ?_⟩
    · rw [Call.run, Prog.bind_of_ok returned]
      rfl
    · unfold Machine.returned
      rw [signalMask_restored]
      exact blocked

/-! ## Frames that user code has put together -/

/-- Tables with one user page, at 0x5000. -/
def stackSpace : AddressSpace where
  cr3 := 0x1000
  memory slot :=
    if slot = ⟨0x1000, 0⟩ then 0x2007
    else if slot = ⟨0x2000, 0⟩ then 0x3007
    else if slot = ⟨0x3000, 0⟩ then 0x4007
    else if slot = ⟨0x4000, 5⟩ then 0x8007
    else 0

/-- A process that enters `rt_sigreturn` with a frame of its own making. -/
def forgingMachine (mask : UInt64) : Machine where
  process := ProcessState.new
  pending := 0
  fsBase := 0
  syscallSavedRsp := 0x5008
  savedRsp := 0x5008
  childSavedRsp := 0
  childActive := false
  nextPid := 2
  parentState := ProcessState.new
  parentCr3 := 0
  parentFsBase := 0
  parentUserRsp := 0
  space := stackSpace
  bytes physical :=
    record (fun _ => 0)
      [putU64 (ucMcontext + 120) 0x5800,
        putU64 (ucMcontext + 128) 0x5000,
        putU64 (ucMcontext + 136) rflagsUser,
        putU64 (ucMcontext + 144) (userCs ||| (userSs <<< 48)),
        putU64 ucSigmask mask]
      (physical.toNat - 0x8000)

theorem covered_forged :
    Covered (forgingMachine mask).space.Loads 0x5000 rtSigframeSize := by
  have start : Mapped stackSpace.memory stackSpace.cr3 0x5000 := by
    decide
  constructor
  · decide
  · intro index inside
    have below : index < pageLeft 0x5000 := by
      rw [pageLeft_eq]
      exact Nat.lt_trans inside (by decide)
    exact ((samePage_of_lt_pageLeft below).mapped _ _).mpr start

theorem step_forged
    (accepted :
      accepts ((forgingMachine mask).bytesFrom 0x5000) = true) :
    (Call.rtSigreturn.run (forgingMachine mask)).final? =
      some
        ((forgingMachine mask).returned
          ((forgingMachine mask).bytesFrom 0x5000)) := by
  have place : returnPlace 0x5008 = some 0x5000 := by
    decide
  have returned :=
    rtSigreturnImpl_eq_ok.mpr
      ⟨0x5000, place, covered_forged mask, accepted, rfl, rfl⟩
  rw [Call.run, Prog.bind_of_ok returned]
  rfl

/-- Returning to a frame whose mask has `SIGKILL` set blocks `SIGKILL`. -/
theorem sigkill_blocked :
    ¬ ∀ initial final,
        initial.Starts →
        Run (fun _ _ => True) initial final →
        Unblocked final.process.signalMask := by
  intro claimed
  have step :
      Step (fun _ _ => True) (forgingMachine (signalBit sigkill)) _ :=
    ⟨.rtSigreturn, trivial, step_forged _ (by decide +kernel)⟩
  have unblocked :=
    claimed _ _ ⟨rfl, rfl⟩ (Relation.ReflTransGen.single step)
  unfold Machine.returned at unblocked
  rw [signalMask_restored] at unblocked
  revert unblocked
  decide +kernel

/-- Returning to a frame without the bits leaves them clear. -/
theorem sigkill_unblocked_after_return :
    Unblocked
      ((forgingMachine 2).returned
        ((forgingMachine 2).bytesFrom 0x5000)).process.signalMask := by
  have clean : (forgingMachine 2).ReturnsClean := by
    intro frameBase place _ _
    have isBase : returnPlace 0x5008 = some 0x5000 := by decide
    have same : some frameBase = some 0x5000 := place.symm.trans isBase
    cases same
    decide +kernel
  exact
    (@masks_unblocked_of_clean_returns (forgingMachine 2) ⟨rfl, rfl⟩).1 _
      (Relation.ReflTransGen.single
        ⟨.rtSigreturn, clean, step_forged 2 (by decide +kernel)⟩)

end VibuxOS.Signals
