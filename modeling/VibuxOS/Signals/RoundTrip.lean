import VibuxOS.Signals.Masks

namespace VibuxOS.Signals

open VibuxOS.Lib VibuxOS.Paging

/-!
# From an interruption to the return from its handler

A delivery takes the stack pointer of a child from the word in which the entry
code of a child has saved it, and `rt_sigreturn` takes it from
`SYSCALL_SAVED_RSP`, which that entry code does not write.  So the frame is
found again by a process without a running child, and never by a child.
-/

/-- The bytes of a frame and of the floating-point state behind it. -/
def frameTotal : Nat := rtSigframeSize + sigfpstateSize

/-- The registers and the stack pointer of a context that can be resumed. -/
structure Resumable (frame : SyscallFrame) (rsp : UInt64) : Prop where
  ripNonzero : frame.syscallRcx ≠ 0
  ripBelow : frame.syscallRcx < userLimit
  rspNonzero : rsp ≠ 0
  rspBelow : rsp < userLimit
  ioplHigh : frame.syscallR11 &&& ((1 : UInt64) <<< 13) = 0
  nestedTask : frame.syscallR11 &&& ((1 : UInt64) <<< 14) = 0
  virtualMode : frame.syscallR11 &&& ((1 : UInt64) <<< 17) = 0

/-- A delivery takes a signal with a handler and builds a frame for it. -/
def Machine.BuildsFrame
    (machine : Machine)
    (frame : SyscallFrame)
    (frameBase : UInt64) : Prop :=
  ∃ signum taken built,
    takeDeliverableSignal machine = .ok (some signum) taken ∧
      (taken.process.signalActions (signum - 1).toNat).handler ≠ sigDfl ∧
      (taken.process.signalActions (signum - 1).toNat).handler ≠ sigIgn ∧
      buildSignalFrame frame signum
          (taken.process.signalActions (signum - 1).toNat)
          taken.process.signalMask taken.deliveryRsp taken =
        .ok frameBase built

/-- The bytes that changed are behind addresses of the frame. -/
def WritesFrame
    (before : Machine)
    (frameBase : UInt64)
    (delivered : Machine) : Prop :=
  ∀ physical,
    delivered.bytes physical ≠ before.bytes physical →
    ∃ index < frameTotal,
      before.space.target (frameBase + UInt64.ofNat index) = some physical

/-- A handler has run that left the bytes of the frame alone. -/
def Handled
    (delivered : Machine)
    (frameBase : UInt64)
    (resumed : Machine) : Prop :=
  resumed.childActive = delivered.childActive ∧
    ∀ index < rtSigframeSize,
      resumed.space.Loads (frameBase + UInt64.ofNat index) ∧
        resumed.bytesFrom frameBase index =
          delivered.bytesFrom frameBase index

/-- `rt_sigreturn` succeeds and brings back the interrupted context. -/
def Restores
    (before : Machine)
    (frame : SyscallFrame)
    (entered : Machine) : Prop :=
  ∃ registers final,
    rtSigreturnImpl entered = .ok registers final ∧
      registers =
        { frame with syscallR11 := frame.syscallR11 ||| rflagsUser } ∧
      final.userRsp = before.userRsp ∧
      final.fsBase = before.fsBase ∧
      final.process.signalMask = before.process.signalMask

/--
The frame lies below the red zone of the interrupted context, aligned as for a
call, and whatever its handler does elsewhere, the context is brought back.
-/
def RoundTrips
    (before : Machine)
    (frame : SyscallFrame)
    (frameBase : UInt64)
    (delivered : Machine) : Prop :=
  WritesFrame before frameBase delivered ∧
    frameBase.toNat + frameTotal + 128 ≤ before.userRsp.toNat ∧
    (frameBase.toNat + 8) % 16 = 0 ∧
    ∀ resumed,
      Handled delivered frameBase resumed →
      Restores before frame (resumed.entered (frameBase + 8))

/-! ## Places -/

theorem framePlace_eq_some
    {oldRsp frameBase stop : UInt64}
    (place : framePlace oldRsp = some (frameBase, stop)) :
    frameBase.toNat + frameTotal + 128 ≤ oldRsp.toNat ∧
      (frameBase.toNat + 8) % 16 = 0 ∧
      stop.toNat = frameBase.toNat + frameTotal := by
  unfold framePlace at place
  obtain ⟨raw, isRaw, rest⟩ := Option.bind_eq_some_iff.mp place
  obtain ⟨base, isBase, last⟩ := Option.bind_eq_some_iff.mp rest
  obtain ⟨upper, isUpper, pair⟩ := Option.bind_eq_some_iff.mp last
  cases pair
  have total : frameTotal = 1072 := rfl
  have below := toNat_of_checkedSub isRaw
  have aligned := toNat_and_high raw (~~~15) (by decide : 4 ≤ 64) (by decide)
  have atBase := toNat_of_checkedSub isBase
  have atStop := toNat_of_checkedAdd isUpper
  have first :
      (UInt64.ofNat (rtSigframeSize + sigfpstateSize) + 128).toNat = 1200 := by
    decide
  have second :
      (UInt64.ofNat (rtSigframeSize + sigfpstateSize)).toNat = 1072 := by
    decide
  have eight : (8 : UInt64).toNat = 8 := rfl
  rw [first] at below
  rw [aligned, eight] at atBase
  rw [second] at atStop
  omega

theorem returnPlace_of_frame
    {frameBase stop : UInt64}
    (isStop : stop.toNat = frameBase.toNat + frameTotal)
    (inside : outsideUser frameBase stop = false) :
    returnPlace (frameBase + 8) = some frameBase := by
  unfold outsideUser at inside
  rw [Bool.or_eq_false_iff, decide_eq_false_iff_not,
    decide_eq_false_iff_not, UInt64.lt_iff_toNat_lt,
    gt_iff_lt, UInt64.lt_iff_toNat_lt] at inside
  have limit : userLimit.toNat = 2 ^ 47 := rfl
  have total : frameTotal = 1072 := rfl
  have size : (UInt64.ofNat rtSigframeSize).toNat = 560 := by decide
  have eight : (8 : UInt64).toNat = 8 := rfl
  have sum : (frameBase + 8).toNat = frameBase.toNat + 8 := by
    rw [UInt64.toNat_add, eight]
    omega
  have back : checkedSub (frameBase + 8) 8 = some frameBase := by
    unfold checkedSub
    rw [if_pos (by rw [UInt64.le_iff_toNat_le, sum, eight]; omega)]
    exact congrArg some (UInt64.add_sub_cancel _ _)
  have upper :
      (frameBase + UInt64.ofNat rtSigframeSize).toNat =
        frameBase.toNat + 560 := by
    rw [UInt64.toNat_add, size]
    omega
  have further :
      checkedAdd frameBase (UInt64.ofNat rtSigframeSize) =
        some (frameBase + UInt64.ofNat rtSigframeSize) := by
    unfold checkedAdd
    rw [if_pos (by rw [UInt64.le_iff_toNat_le, upper]; omega)]
  have within :
      outsideUser frameBase (frameBase + UInt64.ofNat rtSigframeSize) =
        false := by
    unfold outsideUser
    rw [Bool.or_eq_false_iff, decide_eq_false_iff_not,
      decide_eq_false_iff_not, UInt64.lt_iff_toNat_lt,
      gt_iff_lt, UInt64.lt_iff_toNat_lt, upper]
    omega
  unfold returnPlace
  rw [back, Option.bind_eq_bind, Option.bind_some, further,
    Option.bind_some, within]
  rfl

/-! ## What is delivered -/

theorem takeDeliverableSignalLoop_eq_ok
    {fuel : Nat}
    {machine final : Machine}
    {taken : Option UInt64}
    (returned :
      takeDeliverableSignalLoop fuel machine = .ok taken final) :
    ∃ pending, final = { machine with pending := pending } := by
  induction fuel generalizing machine with
  | zero =>
      cases returned
  | succ fuel inductionHypothesis =>
      unfold takeDeliverableSignalLoop at returned
      rw [Prog.gets_bind_apply, id] at returned
      cases lowest :
          lowestSignal
            (machine.pending &&& ~~~machine.process.signalMask) with
      | none =>
          rw [lowest] at returned
          cases returned
          exact ⟨_, rfl⟩
      | some signum =>
          rw [lowest] at returned
          dsimp only at returned
          split at returned
          · rw [clearPending, Prog.modify_bind_apply] at returned
            obtain ⟨pending, isFinal⟩ := inductionHypothesis returned
            exact ⟨pending, isFinal⟩
          · cases returned
            exact ⟨_, rfl⟩

def Machine.cleared (signum : UInt64) (machine : Machine) : Machine :=
  { machine with pending := machine.pending &&& ~~~signalBit signum }

theorem takeDeliverableSignal_of_lowest
    {machine : Machine}
    {signum : UInt64}
    (lowest :
      lowestSignal (machine.pending &&& ~~~machine.process.signalMask) =
        some signum)
    (heeded :
      (machine.process.signalActions (signum - 1).toNat).ignores signum =
        false) :
    takeDeliverableSignal machine =
      .ok (some signum) (machine.cleared signum) := by
  unfold takeDeliverableSignal takeDeliverableSignalLoop
  rw [Prog.gets_bind_apply, id, lowest]
  dsimp only
  rw [heeded, if_neg Bool.false_ne_true]
  rfl

/-- The bytes that `build_signal_frame` writes. -/
def frameBytes
    (frame : SyscallFrame)
    (signum : UInt64)
    (action : SignalAction)
    (oldMask oldRsp frameBase fsBase pid : UInt64) :
    List UInt8 :=
  firstBytes
      (record (fun _ => 0)
        (frameFields frame signum action oldMask oldRsp frameBase fsBase pid))
      rtSigframeSize ++
    List.replicate sigfpstateSize 0

theorem length_firstBytes
    (bytes : Nat → UInt8)
    (len : Nat) :
    (firstBytes bytes len).length = len := by
  unfold firstBytes
  rw [List.length_map, List.length_range]

theorem buildSignalFrame_eq_ok
    {frame : SyscallFrame}
    {signum oldMask oldRsp frameBase : UInt64}
    {action : SignalAction}
    {machine final : Machine}
    (built :
      buildSignalFrame frame signum action oldMask oldRsp machine =
        .ok frameBase final) :
    ∃ stop bytes,
      framePlace oldRsp = some (frameBase, stop) ∧
        outsideUser frameBase stop = false ∧
        final = { machine with bytes := bytes } ∧
        Stored machine.space frameBase
          (frameBytes frame signum action oldMask oldRsp frameBase
            machine.fsBase machine.process.pid)
          machine.bytes bytes := by
  unfold buildSignalFrame at built
  split at built
  · cases built
  · cases place : framePlace oldRsp with
    | none =>
        rw [place] at built
        cases built
    | some pair =>
        obtain ⟨base, stop⟩ := pair
        rw [place] at built
        dsimp only at built
        split at built
        · cases built
        · rename_i inside
          rw [Prog.gets_bind_apply, id] at built
          obtain ⟨_, first, wroteFrame, rest⟩ := Prog.bind_eq_ok.mp built
          obtain ⟨_, second, wroteState, last⟩ := Prog.bind_eq_ok.mp rest
          cases last
          obtain ⟨firstBytes', rfl, storedFrame⟩ := copyOut_eq_ok wroteFrame
          obtain ⟨secondBytes, rfl, storedState⟩ := copyOut_eq_ok wroteState
          refine
            ⟨stop, secondBytes, rfl, Bool.eq_false_iff.mpr inside, rfl, ?_⟩
          apply (Landed.append storedFrame _).stored
          rw [length_firstBytes]
          exact storedState

/-- What a delivery leaves when it builds a frame. -/
structure Delivery
    (before : Machine)
    (frame : SyscallFrame)
    (frameBase : UInt64)
    (signum : UInt64)
    (action : SignalAction)
    (delivered : Machine) : Prop where
  place :
    ∃ stop,
      framePlace before.deliveryRsp = some (frameBase, stop) ∧
        outsideUser frameBase stop = false
  space : delivered.space = before.space
  childActive : delivered.childActive = before.childActive
  syscallSavedRsp : delivered.syscallSavedRsp = frameBase
  stored :
    Stored before.space frameBase
      (frameBytes frame signum action before.process.signalMask
        before.deliveryRsp frameBase before.fsBase before.process.pid)
      before.bytes delivered.bytes

/-- The last steps of a delivery. -/
def finishDelivery
    (frameBase signum oldMask : UInt64)
    (action : SignalAction)
    (index : Nat) :
    Sys Unit := do
  setMask (handlerMask oldMask signum action)
  unlessZero (action.flags &&& saResethand)
    (signalActionSet index SignalAction.empty)
  setSavedUserRsp frameBase

theorem finishDelivery_eq_ok
    {frameBase signum oldMask : UInt64}
    {action : SignalAction}
    {index : Nat}
    {machine final : Machine}
    (returned :
      finishDelivery frameBase signum oldMask action index machine =
        .ok () final) :
    final.space = machine.space ∧
      final.childActive = machine.childActive ∧
      final.syscallSavedRsp = frameBase ∧
      final.bytes = machine.bytes := by
  have last :
      ∀ machine final : Machine,
        setSavedUserRsp frameBase machine = .ok () final →
        final.space = machine.space ∧
          final.childActive = machine.childActive ∧
          final.syscallSavedRsp = frameBase ∧
          final.bytes = machine.bytes := by
    intro machine final saved
    unfold setSavedUserRsp at saved
    rw [Prog.modify_apply] at saved
    cases active : machine.childActive with
    | true =>
        rw [active, if_pos rfl] at saved
        cases saved
        exact ⟨rfl, rfl, rfl, rfl⟩
    | false =>
        rw [active, if_neg Bool.false_ne_true] at saved
        cases saved
        exact ⟨rfl, rfl, rfl, rfl⟩
  unfold finishDelivery setMask at returned
  rw [Prog.modify_bind_apply] at returned
  obtain ⟨_, middle, reset, saved⟩ := Prog.bind_eq_ok.mp returned
  have kept :
      middle.space = machine.space ∧
        middle.childActive = machine.childActive ∧
        middle.bytes = machine.bytes := by
    unfold unlessZero at reset
    split at reset
    · cases reset
      exact ⟨rfl, rfl, rfl⟩
    · cases reset
      exact ⟨rfl, rfl, rfl⟩
  obtain ⟨space, childActive, syscallSavedRsp, bytes⟩ := last _ _ saved
  exact
    ⟨space.trans kept.1, childActive.trans kept.2.1, syscallSavedRsp,
      bytes.trans kept.2.2⟩

theorem delivery_of_deliverPendingSignal
    {before delivered : Machine}
    {frame handling : SyscallFrame}
    {frameBase : UInt64}
    (builds : before.BuildsFrame frame frameBase)
    (delivers :
      deliverPendingSignal frame before = .ok handling delivered) :
    ∃ signum action,
      Delivery before frame frameBase signum action delivered := by
  obtain ⟨signum, taken, built, takes, notDefault, notIgnored, builtFrame⟩ :=
    builds
  obtain ⟨pending, rfl⟩ := takeDeliverableSignalLoop_eq_ok takes
  obtain ⟨stop, bytes, place, inside, rfl, stored⟩ :=
    buildSignalFrame_eq_ok builtFrame
  unfold deliverPendingSignal at delivers
  rw [Prog.bind_of_ok takes] at delivers
  dsimp only at delivers
  rw [Prog.gets_bind_apply, id, if_neg notDefault, if_neg notIgnored,
    Prog.bind_of_ok (Prog.attempt_of_ok builtFrame)] at delivers
  dsimp only at delivers
  obtain ⟨_, first, masked, rest⟩ := Prog.bind_eq_ok.mp delivers
  obtain ⟨_, second, reset, last⟩ := Prog.bind_eq_ok.mp rest
  obtain ⟨_, third, saved, returned⟩ := Prog.bind_eq_ok.mp last
  cases returned
  have finished :
      finishDelivery frameBase signum before.process.signalMask
          (before.process.signalActions (signum - 1).toNat)
          (signum - 1).toNat _ =
        .ok () delivered :=
    Prog.bind_eq_ok.mpr
      ⟨_, first, masked, Prog.bind_eq_ok.mpr ⟨_, second, reset, saved⟩⟩
  obtain ⟨space, childActive, syscallSavedRsp, sameBytes⟩ :=
    finishDelivery_eq_ok finished
  refine
    ⟨signum, before.process.signalActions (signum - 1).toNat,
      ⟨stop, place, inside⟩, space, childActive, syscallSavedRsp, ?_⟩
  rw [sameBytes]
  exact stored

section Delivered

variable
  {before delivered : Machine}
  {frame : SyscallFrame}
  {frameBase signum : UInt64}
  {action : SignalAction}
  (delivery : Delivery before frame frameBase signum action delivered)

include delivery

/-- The words of the frame. -/
def frameData
    (before : Machine)
    (frame : SyscallFrame)
    (frameBase signum : UInt64)
    (action : SignalAction) :
    Nat → UInt8 :=
  record (fun _ => 0)
    (frameFields frame signum action before.process.signalMask
      before.deliveryRsp frameBase before.fsBase before.process.pid)

theorem Delivery.bytesFrom
    {index : Nat}
    (inside : index < rtSigframeSize) :
    delivered.space.Loads (frameBase + UInt64.ofNat index) ∧
      delivered.bytesFrom frameBase index =
        frameData before frame frameBase signum action index := by
  have size :
      (frameBytes frame signum action before.process.signalMask
          before.deliveryRsp frameBase before.fsBase
          before.process.pid).length =
        1072 := by
    unfold frameBytes
    rw [List.length_append, length_firstBytes, List.length_replicate]
    rfl
  have small : rtSigframeSize = 560 := rfl
  obtain ⟨physical, isTarget, isByte⟩ :=
    delivery.stored.written (by rw [size]; decide) index (by omega)
  constructor
  · rw [delivery.space]
    by_contra unmapped
    have missing : before.space.lookup (frameBase + UInt64.ofNat index) = none :=
      lookup_of_not_mapped unmapped
    unfold AddressSpace.target at isTarget
    rw [missing] at isTarget
    cases isTarget
  · unfold Machine.bytesFrom
    rw [delivery.space, AddressSpace.byteAt_of_target isTarget, isByte]
    unfold frameBytes
    rw [List.getElem_append_left (by rw [length_firstBytes]; exact inside)]
    unfold firstBytes
    rw [List.getElem_map, List.getElem_range]
    rfl

theorem Delivery.writesFrame :
    WritesFrame before frameBase delivered := by
  intro physical changed
  by_contra away
  push Not at away
  apply changed
  apply delivery.stored.kept
  intro index inside
  apply away index
  unfold frameBytes at inside
  rw [List.length_append, length_firstBytes, List.length_replicate] at inside
  exact inside

end Delivered

/-! ## What is read back -/

section Words

variable
  (before : Machine)
  (frame : SyscallFrame)
  (frameBase signum : UInt64)
  (action : SignalAction)

theorem frameData_word
    (place offset : Nat)
    (value : UInt64)
    (among :
      (frameFields frame signum action before.process.signalMask
        before.deliveryRsp frameBase before.fsBase
        before.process.pid)[place]? = some (putU64 offset value)) :
    getU64 (frameData before frame frameBase signum action) offset = value :=
  getU64_frame place among

theorem frameRegisters_frameData :
    frameRegisters (frameData before frame frameBase signum action) =
      { frame with syscallR11 := frame.syscallR11 ||| rflagsUser } := by
  have word := frameData_word before frame frameBase signum action
  unfold frameRegisters
  rw [word 3 (ucMcontext + 0) frame.r8 rfl,
    word 4 (ucMcontext + 8) frame.r9 rfl,
    word 5 (ucMcontext + 16) frame.r10 rfl,
    word 7 (ucMcontext + 32) frame.r12 rfl,
    word 8 (ucMcontext + 40) frame.r13 rfl,
    word 9 (ucMcontext + 48) frame.r14 rfl,
    word 10 (ucMcontext + 56) frame.r15 rfl,
    word 11 (ucMcontext + 64) frame.rdi rfl,
    word 12 (ucMcontext + 72) frame.rsi rfl,
    word 13 (ucMcontext + 80) frame.rbp rfl,
    word 14 (ucMcontext + 88) frame.rbx rfl,
    word 15 (ucMcontext + 96) frame.rdx rfl,
    word 16 (ucMcontext + 104) frame.rax rfl,
    word 19 (ucMcontext + 128) frame.syscallRcx rfl,
    word 20 (ucMcontext + 136) frame.syscallR11 rfl]

theorem accepts_frameData
    (resumable : Resumable frame before.deliveryRsp) :
    accepts (frameData before frame frameBase signum action) = true := by
  have word := frameData_word before frame frameBase signum action
  have ripBelow := UInt64.not_le.mpr resumable.ripBelow
  have rspBelow := UInt64.not_le.mpr resumable.rspBelow
  unfold accepts refuses
  rw [word 18 (ucMcontext + 120) before.deliveryRsp rfl,
    word 19 (ucMcontext + 128) frame.syscallRcx rfl,
    word 20 (ucMcontext + 136) frame.syscallR11 rfl,
    word 21 (ucMcontext + 144) (userCs ||| (userSs <<< 48)) rfl]
  have selectors :
      (userCs ||| userSs <<< 48) &&& 0xffff = userCs ∧
        ((userCs ||| userSs <<< 48) >>> 48) &&& 0xffff = userSs := by
    decide
  simp [selectors, resumable.ripNonzero, resumable.rspNonzero, ripBelow,
    rspBelow, resumable.ioplHigh, resumable.nestedTask, resumable.virtualMode]

end Words

theorem handled_entered
    {delivered resumed : Machine}
    {frameBase : UInt64}
    (rsp : UInt64)
    (handled : Handled delivered frameBase resumed) :
    Handled delivered frameBase (resumed.entered rsp) := by
  unfold Machine.entered
  split
  · exact handled
  · exact handled

section Returns

variable
  {before delivered : Machine}
  {frame : SyscallFrame}
  {frameBase signum : UInt64}
  {action : SignalAction}
  (delivery : Delivery before frame frameBase signum action delivered)

include delivery

theorem Delivery.handled : Handled delivered frameBase delivered :=
  ⟨rfl, fun _ inside => ⟨(delivery.bytesFrom inside).1, rfl⟩⟩

theorem Delivery.bytesFrom_of_handled
    {resumed : Machine}
    (handled : Handled delivered frameBase resumed) :
    ∀ index < rtSigframeSize,
      resumed.bytesFrom frameBase index =
        frameData before frame frameBase signum action index := by
  intro index inside
  rw [(handled.2 index inside).2, (delivery.bytesFrom inside).2]

theorem Delivery.covered_of_handled
    {resumed : Machine}
    (handled : Handled delivered frameBase resumed) :
    Covered resumed.space.Loads frameBase rtSigframeSize := by
  obtain ⟨stop, place, inside⟩ := delivery.place
  obtain ⟨_, _, isStop⟩ := framePlace_eq_some place
  unfold outsideUser at inside
  rw [Bool.or_eq_false_iff, decide_eq_false_iff_not,
    decide_eq_false_iff_not, UInt64.lt_iff_toNat_lt, gt_iff_lt,
    UInt64.lt_iff_toNat_lt, isStop] at inside
  have total : frameTotal = 1072 := rfl
  have small : rtSigframeSize = 560 := rfl
  exact ⟨by omega, fun index below => (handled.2 index below).1⟩

theorem Delivery.returns
    {entered : Machine}
    (looks : entered.syscallSavedRsp = frameBase + 8)
    (handled : Handled delivered frameBase entered)
    (resumable : Resumable frame before.deliveryRsp) :
    ∃ final,
      rtSigreturnImpl entered =
          .ok { frame with syscallR11 := frame.syscallR11 ||| rflagsUser }
            final ∧
        final.userRsp = before.deliveryRsp ∧
        final.fsBase = before.fsBase ∧
        final.process.signalMask = before.process.signalMask := by
  obtain ⟨stop, place, inside⟩ := delivery.place
  have found :=
    returnPlace_of_frame (framePlace_eq_some place).2.2 inside
  rw [← looks] at found
  have same := delivery.bytesFrom_of_handled handled
  have word := frameData_word before frame frameBase signum action
  have accepted : accepts (entered.bytesFrom frameBase) = true := by
    rw [accepts_same same]
    exact accepts_frameData before frame frameBase signum action resumable
  have registers :
      frameRegisters (entered.bytesFrom frameBase) =
        { frame with syscallR11 := frame.syscallR11 ||| rflagsUser } := by
    rw [frameRegisters_same same]
    exact frameRegisters_frameData before frame frameBase signum action
  refine ⟨entered.returned (entered.bytesFrom frameBase), ?_, ?_, ?_, ?_⟩
  · exact
      rtSigreturnImpl_eq_ok.mpr
        ⟨frameBase, found, delivery.covered_of_handled handled, accepted,
          registers.symm, rfl⟩
  · rw [returned_same same, Machine.returned, userRsp_restored]
    exact word 18 (ucMcontext + 120) before.deliveryRsp rfl
  · rw [returned_same same, Machine.returned, fsBase_restored]
    exact word 27 (ucMcontext + 192) before.fsBase rfl
  · rw [returned_same same, Machine.returned, signalMask_restored]
    exact word 28 ucSigmask before.process.signalMask rfl

theorem Delivery.restores
    (resumable : Resumable frame before.userRsp)
    (noChild : before.childActive = false)
    (own : before.syscallSavedRsp = before.savedRsp)
    {resumed : Machine}
    (handled : Handled delivered frameBase resumed) :
    Restores before frame (resumed.entered (frameBase + 8)) := by
  have sameRsp : before.deliveryRsp = before.userRsp := by
    unfold Machine.deliveryRsp Machine.userRsp
    rw [noChild, own]
  have still : resumed.childActive = false := by
    rw [handled.1, delivery.childActive, noChild]
  have looks :
      (resumed.entered (frameBase + 8)).syscallSavedRsp = frameBase + 8 := by
    unfold Machine.entered
    rw [still]
    rfl
  obtain ⟨final, returned, rsp, fs, mask⟩ :=
    delivery.returns looks (handled_entered _ handled)
      (by rw [sameRsp]; exact resumable)
  exact ⟨_, final, returned, rfl, rsp.trans sameRsp, fs, mask⟩

theorem Delivery.not_restores_of_other
    (noChild : before.childActive = false)
    (other : before.syscallSavedRsp ≠ before.savedRsp) :
    ¬ Restores before frame (delivered.entered (frameBase + 8)) := by
  rintro ⟨registers, final, returned, _, rsp, _⟩
  have still : delivered.childActive = false :=
    delivery.childActive.trans noChild
  have looks :
      (delivered.entered (frameBase + 8)).syscallSavedRsp =
        frameBase + 8 := by
    unfold Machine.entered
    rw [still]
    rfl
  obtain ⟨stop, place, inside⟩ := delivery.place
  have found :=
    returnPlace_of_frame (framePlace_eq_some place).2.2 inside
  obtain ⟨base, isBase, _, _, _, rfl⟩ := rtSigreturnImpl_eq_ok.mp returned
  rw [looks, found] at isBase
  cases isBase
  have same :=
    delivery.bytesFrom_of_handled
      (handled_entered (frameBase + 8) delivery.handled)
  have word := frameData_word before frame frameBase signum action
  rw [returned_same same, Machine.returned, userRsp_restored,
    word 18 (ucMcontext + 120) before.deliveryRsp rfl] at rsp
  unfold Machine.deliveryRsp Machine.userRsp at rsp
  rw [noChild] at rsp
  exact other rsp

theorem Delivery.word_below
    {place : UInt64}
    (isPlace : frameBase = place + 8)
    (offset : Nat)
    (inside : offset + 8 ≤ rtSigframeSize) :
    getU64 (delivered.bytesFrom place) (8 + offset) =
      getU64 (frameData before frame frameBase signum action) offset := by
  have same := delivery.bytesFrom_of_handled delivery.handled
  rw [← getU64_same same inside]
  unfold getU64
  rw [leValue_congr]
  intro index _
  unfold Machine.bytesFrom
  rw [isPlace, Nat.add_assoc, add_ofNat_add place 8]
  rfl

/-- A child looks eight bytes below the frame. -/
theorem Delivery.not_restores_of_child
    (resumable : Resumable frame before.userRsp)
    (child : before.childActive = true) :
    ¬ Restores before frame (delivered.entered (frameBase + 8)) := by
  rintro ⟨registers, final, returned, isFrame, _⟩
  have still : delivered.childActive = true :=
    delivery.childActive.trans child
  have entered :
      delivered.entered (frameBase + 8) =
        { delivered with childSavedRsp := frameBase + 8 } := by
    unfold Machine.entered
    rw [still]
    rfl
  rw [entered] at returned
  obtain ⟨place, isPlace, _, accepted, isRegisters, _⟩ :=
    rtSigreturnImpl_eq_ok.mp returned
  have below : frameBase = place + 8 := by
    dsimp only at isPlace
    rw [delivery.syscallSavedRsp] at isPlace
    unfold returnPlace at isPlace
    obtain ⟨base, isBase, rest⟩ := Option.bind_eq_some_iff.mp isPlace
    obtain ⟨_, _, last⟩ := Option.bind_eq_some_iff.mp rest
    split at last
    · cases last
    · cases last
      unfold checkedSub at isBase
      split at isBase
      · cases isBase
        exact (UInt64.sub_add_cancel _ _).symm
      · cases isBase
  have shifted := delivery.word_below below
  have word := frameData_word before frame frameBase signum action
  -- the flags stand where the selectors should, the address where the flags
  have selectors :
      getU64 (delivered.bytesFrom place) (ucMcontext + 144) =
        frame.syscallR11 :=
    (shifted (ucMcontext + 136) (by decide)).trans
      (word 20 (ucMcontext + 136) frame.syscallR11 rfl)
  have flags :
      getU64 (delivered.bytesFrom place) (ucMcontext + 136) =
        frame.syscallRcx :=
    (shifted (ucMcontext + 128) (by decide)).trans
      (word 19 (ucMcontext + 128) frame.syscallRcx rfl)
  have sameFlags :
      frame.syscallRcx ||| rflagsUser = frame.syscallR11 ||| rflagsUser := by
    have right := congrArg SyscallFrame.syscallR11 (isRegisters.symm.trans isFrame)
    rw [← flags]
    exact right
  have segment : (frame.syscallR11 >>> 48) &&& 0xffff = userSs := by
    unfold accepts refuses at accepted
    change
      (!(getU64 (delivered.bytesFrom place) (ucMcontext + 144) &&& 0xffff !=
              userCs ||
            (getU64 (delivered.bytesFrom place) (ucMcontext + 144) >>> 48)
                &&& 0xffff !=
              userSs || _ || _ || _ || _ || _ || _ || _)) = true at accepted
    rw [selectors] at accepted
    simp only [Bool.not_eq_true', Bool.or_eq_false_iff, bne_eq_false_iff_eq]
      at accepted
    exact accepted.1.1.1.1.1.1.1.2
  have high := @toNat_and_low (frame.syscallR11 >>> 48) 0xffff 16 rfl
  have shift :
      (frame.syscallR11 >>> 48).toNat = frame.syscallR11.toNat / 2 ^ 48 := by
    rw [UInt64.toNat_shiftRight, Nat.shiftRight_eq_div_pow]
    rfl
  have isSegment : userSs.toNat = 27 := rfl
  rw [segment, shift, isSegment] at high
  have ripBelow : frame.syscallRcx.toNat < 2 ^ 47 :=
    UInt64.lt_iff_toNat_lt.mp resumable.ripBelow
  have low : (frame.syscallRcx ||| rflagsUser).toNat < 2 ^ 47 := by
    rw [UInt64.toNat_or]
    exact Nat.or_lt_two_pow ripBelow (by decide)
  have atLeast :
      frame.syscallR11.toNat ≤ (frame.syscallR11 ||| rflagsUser).toNat := by
    rw [UInt64.toNat_or]
    exact Nat.left_le_or
  rw [sameFlags] at low
  omega

end Returns

/-! ## The round trip -/

/--
A signal's round trip works exactly for a process without a running child whose
own stack pointer `SYSCALL_SAVED_RSP` holds.
-/
theorem round_trips_iff
    {before delivered : Machine}
    {frame handling : SyscallFrame}
    {frameBase : UInt64}
    (resumable : Resumable frame before.userRsp)
    (builds : before.BuildsFrame frame frameBase)
    (delivers :
      deliverPendingSignal frame before = .ok handling delivered) :
    RoundTrips before frame frameBase delivered ↔
      before.childActive = false ∧
        before.syscallSavedRsp = before.savedRsp := by
  obtain ⟨signum, action, delivery⟩ :=
    delivery_of_deliverPendingSignal builds delivers
  constructor
  · rintro ⟨_, _, _, restores⟩
    have returns := restores delivered delivery.handled
    cases child : before.childActive with
    | true =>
        exact absurd returns (delivery.not_restores_of_child resumable child)
    | false =>
        refine ⟨rfl, ?_⟩
        by_contra other
        exact delivery.not_restores_of_other child other returns
  · rintro ⟨noChild, own⟩
    obtain ⟨stop, place, _⟩ := delivery.place
    obtain ⟨below, aligned, _⟩ := framePlace_eq_some place
    have sameRsp : before.deliveryRsp = before.userRsp := by
      unfold Machine.deliveryRsp Machine.userRsp
      rw [noChild, own]
    rw [sameRsp] at below
    exact
      ⟨delivery.writesFrame, below, aligned,
        fun _ handled => delivery.restores resumable noChild own handled⟩

/-! ## Contexts in which a frame is built -/

theorem buildSignalFrame_of_covered
    {frame : SyscallFrame}
    {signum oldMask oldRsp frameBase stop : UInt64}
    {action : SignalAction}
    {machine : Machine}
    (restorer : action.restorer ≠ 0)
    (place : framePlace oldRsp = some (frameBase, stop))
    (inside : outsideUser frameBase stop = false)
    (forFrame : Covered machine.space.Stores frameBase rtSigframeSize)
    (forState :
      Covered machine.space.Stores
        (frameBase + UInt64.ofNat rtSigframeSize) sigfpstateSize) :
    ∃ final,
      buildSignalFrame frame signum action oldMask oldRsp machine =
        .ok frameBase final := by
  have copies :
      ∀ (address : UInt64) (input : List UInt8) (bytes : UInt64 → UInt8),
        Covered machine.space.Stores address input.length →
        ∃ after,
          copyOut address input { machine with bytes := bytes } =
            .ok () { machine with bytes := after } := by
    intro address input bytes covered
    obtain ⟨final, copied, _⟩ :=
      copyRange_of_covered (transfers_storeBytes machine.space input) covered
        (.start bytes fun _ => 0)
    have copied' :
        copyUserOut machine.space address input (.start bytes fun _ => 0) =
          .ok () final := copied
    refine ⟨final.bytes, ?_⟩
    unfold copyOut
    dsimp only
    rw [copied']
  obtain ⟨first, wroteFrame⟩ :=
    copies frameBase
      (firstBytes
        (record (fun _ => 0)
          (frameFields frame signum action oldMask oldRsp frameBase
            machine.fsBase machine.process.pid))
        rtSigframeSize)
      machine.bytes (by rw [length_firstBytes]; exact forFrame)
  obtain ⟨second, wroteState⟩ :=
    copies (frameBase + UInt64.ofNat rtSigframeSize)
      (List.replicate sigfpstateSize 0) first
      (by rw [List.length_replicate]; exact forState)
  refine ⟨{ machine with bytes := second }, ?_⟩
  unfold buildSignalFrame
  rw [if_neg restorer, place]
  dsimp only
  rw [inside, if_neg Bool.false_ne_true, Prog.gets_bind_apply, id,
    Prog.bind_of_ok wroteFrame, Prog.bind_of_ok wroteState]
  rfl

theorem deliverPendingSignal_of_builds
    {machine : Machine}
    {frame : SyscallFrame}
    {frameBase : UInt64}
    (builds : machine.BuildsFrame frame frameBase) :
    ∃ handling delivered,
      deliverPendingSignal frame machine = .ok handling delivered := by
  obtain ⟨signum, taken, built, takes, notDefault, notIgnored, builtFrame⟩ :=
    builds
  unfold deliverPendingSignal
  rw [Prog.bind_of_ok takes]
  dsimp only
  rw [Prog.gets_bind_apply, id, if_neg notDefault, if_neg notIgnored,
    Prog.bind_of_ok (Prog.attempt_of_ok builtFrame)]
  dsimp only
  unfold setMask unlessZero
  rw [Prog.modify_bind_apply]
  split
  · exact ⟨_, _, rfl⟩
  · exact ⟨_, _, rfl⟩

/-- A context that `SIGINT` interrupts, in a parent or in its child. -/
def interruptedMachine (child : Bool) : Machine :=
  { forgingMachine 0 with
    process :=
      { ProcessState.new with
        signalActions := fun _ => ⟨0x5100, 0, 0x5200, 0⟩ }
    pending := signalBit 2
    syscallSavedRsp := 0x5ff0
    savedRsp := 0x5ff0
    childSavedRsp := 0x5ff0
    childActive := child }

/-- Its registers. -/
def interruptedFrame : SyscallFrame where
  r15 := 15
  r14 := 14
  r13 := 13
  r12 := 12
  r10 := 10
  r9 := 9
  r8 := 8
  rdi := 7
  rsi := 6
  rbp := 5
  rbx := 4
  rdx := 3
  rax := 2
  syscallR11 := rflagsUser
  syscallRcx := 0x5000

theorem resumable_interrupted
    (child : Bool) :
    Resumable interruptedFrame (interruptedMachine child).userRsp := by
  cases child with
  | true =>
      constructor <;> decide
  | false =>
      constructor <;> decide

theorem covered_stackSpace
    {address : UInt64}
    {len : Nat}
    (samePage : SamePage address 0x5000)
    (inside : len ≤ pageLeft address) :
    Covered stackSpace.Stores address len := by
  have mapped : Mapped stackSpace.memory stackSpace.cr3 0x5000 := by
    decide
  have writable :
      permits write stackSpace.memory stackSpace.cr3 0x5000 = true := by
    decide
  rw [pageLeft_eq] at inside
  have page : address.toNat / 4096 = 5 := samePage
  have limit : userLimit.toNat = 2 ^ 47 := rfl
  constructor
  · omega
  · intro index below
    have here : SamePage (address + UInt64.ofNat index) 0x5000 :=
      (samePage_of_lt_pageLeft (by rw [pageLeft_eq]; omega)).trans samePage
    exact
      ⟨(here.mapped _ _).mpr mapped, (here.permits _ _ _).trans writable⟩

theorem builds_interrupted
    (child : Bool) :
    (interruptedMachine child).BuildsFrame interruptedFrame 0x5b38 := by
  have taken :=
    @takeDeliverableSignal_of_lowest (interruptedMachine child) 2
      (by cases child <;> decide) (by cases child <;> decide)
  have place :
      framePlace (interruptedMachine child).deliveryRsp =
        some (0x5b38, 0x5f68) := by
    cases child <;> decide
  obtain ⟨built, returned⟩ :=
    @buildSignalFrame_of_covered interruptedFrame 2 0 _ _ _
      ⟨0x5100, 0, 0x5200, 0⟩
      ((interruptedMachine child).cleared 2)
      (by decide) place (by decide)
      (covered_stackSpace (by unfold SamePage; decide)
        (by rw [pageLeft_eq]; decide))
      (covered_stackSpace (by unfold SamePage; decide)
        (by rw [pageLeft_eq]; decide))
  exact
    ⟨2, _, built, taken, by cases child <;> decide,
      by cases child <;> decide, returned⟩

/-- A child does not come back from a handler. -/
theorem child_not_restored :
    ¬ ∀ (before delivered : Machine) (frame handling : SyscallFrame)
        (frameBase : UInt64),
        Resumable frame before.userRsp →
        Unblocked before.process.signalMask →
        before.BuildsFrame frame frameBase →
        deliverPendingSignal frame before = .ok handling delivered →
        RoundTrips before frame frameBase delivered := by
  intro claimed
  have builds := builds_interrupted true
  obtain ⟨handling, delivered, delivers⟩ :=
    deliverPendingSignal_of_builds builds
  obtain ⟨signum, action, delivery⟩ :=
    delivery_of_deliverPendingSignal builds delivers
  have trips :=
    claimed _ _ _ _ _ (resumable_interrupted true) (by decide) builds delivers
  exact
    delivery.not_restores_of_child (resumable_interrupted true) rfl
      (trips.2.2.2 delivered delivery.handled)

/-- A parent does. -/
theorem parent_restored :
    ∃ handling delivered,
      deliverPendingSignal interruptedFrame (interruptedMachine false) =
          .ok handling delivered ∧
        RoundTrips (interruptedMachine false) interruptedFrame 0x5b38
          delivered := by
  have builds := builds_interrupted false
  obtain ⟨handling, delivered, delivers⟩ :=
    deliverPendingSignal_of_builds builds
  exact
    ⟨handling, delivered, delivers,
      (round_trips_iff (resumable_interrupted false) builds delivers).mpr
        ⟨rfl, rfl⟩⟩

end VibuxOS.Signals
