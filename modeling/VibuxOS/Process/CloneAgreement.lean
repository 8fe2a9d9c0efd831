import VibuxOS.Paging.UserCopyEnds
import VibuxOS.Process.Cloning
import VibuxOS.Process.Runs
import VibuxOS.Signals.Masks

namespace VibuxOS.Process

open VibuxOS.Lib VibuxOS.Paging

/-!
# When `clone3` does what `clone` does

`clone3` hands a null frame pointer to the forks, and both of them go through
it: the child is started with the registers of the frame, and its pid is put
there.  So the calls agree exactly when no child is started.  Then the stack
pointer, which `clone3` takes from the wrong word, does not matter either.
-/

variable
  (surroundings : Surroundings)
  (address : UInt64)
  (state : Cloning)

/-- The words of a `struct clone_args` that describe the child. -/
structure CloneArgs where
  flags : UInt64
  stack : UInt64
  stackSize : UInt64

/-- A `struct clone_args` in user memory. -/
def Cloning.cloneArgs (state : Cloning) (argsPtr : UInt64) : CloneArgs :=
  let bytes := fun index =>
    state.machine.space.byteAt state.machine.bytes
      (argsPtr + UInt64.ofNat index)
  { flags := getU64 bytes 0
    stack := getU64 bytes 40
    stackSize := getU64 bytes 48 }

theorem cloneArgs_flags
    (argsPtr : UInt64) :
    (state.cloneArgs argsPtr).flags =
      getU64
        (fun index =>
          state.machine.space.byteAt state.machine.bytes
            (argsPtr + UInt64.ofNat index))
        0 :=
  rfl

/-- The stack pointer that stands for the stack of a child. -/
def CloneArgs.stackTop (args : CloneArgs) : UInt64 :=
  if args.stack = 0 then 0 else args.stack + args.stackSize

/--
Whatever the child does, `clone3` has the result and the effect of `clone`, and
does not go through a null frame pointer.
-/
def Clone3Agrees
    (cloneUserAddressSpace : Machine → Option UInt64)
    (argsPtr : UInt64)
    (state : Cloning) : Prop :=
  ∀ child : ChildStart → Cloning → Option (UInt64 × Cloning),
    clone3 ⟨child, cloneUserAddressSpace⟩ argsPtr state =
        clone ⟨child, cloneUserAddressSpace⟩ (state.cloneArgs argsPtr).flags
          (state.cloneArgs argsPtr).stackTop state ∧
      ∀ final,
        clone3 ⟨child, cloneUserAddressSpace⟩ argsPtr state ≠
          .err .nullFrame final

/-- The calls start no child. -/
def NoChild
    (cloneUserAddressSpace : Machine → Option UInt64)
    (flags : UInt64)
    (state : Cloning) : Prop :=
  state.machine.childActive = true ∨
    flags &&& cloneVfork = 0 ∧ cloneUserAddressSpace state.machine = none

/-! ## Calls with a frame -/

theorem neverFails_onMachine
    {α : Type}
    (program : Sys α) :
    Prog.NeverFails (onMachine program) := by
  intro state fault final failed
  unfold onMachine at failed
  obtain ⟨part, inner, _⟩ := Prog.onPart_eq_err.mp failed
  have attempted : Prog.NeverFails (Prog.attempt program : Prog _ Fault _) :=
    Prog.Raises.attempt program
  exact attempted _ _ _ inner

theorem neverFails_loadRange
    (amount : Nat) :
    Prog.NeverFails (loadRange address amount) := by
  intro state fault final failed
  unfold loadRange at failed
  split at failed <;> cases failed

theorem neverFails_storeRange
    (input : List UInt8) :
    Prog.NeverFails (storeRange address input) := by
  intro state fault final failed
  unfold storeRange at failed
  split at failed <;> cases failed

theorem neverFails_snapshotVforkSharedMemory
    (parentRsp : UInt64) :
    Prog.NeverFails (snapshotVforkSharedMemory parentRsp) := by
  refine .bind (.modify _) fun _ => .bind (.gets _) fun space => ?_
  refine .ite (.pure _) (.ite ?_ (.pure _))
  refine .bind (neverFails_loadRange _ _) fun stack =>
    .bind (.modify _) fun _ => .bind (.gets _) fun space => .ite ?_ (.pure _)
  exact .bind (neverFails_loadRange _ _) fun tls => .modify _

theorem neverFails_restoreRange
    (snapshot : Option (List UInt8)) :
    Prog.NeverFails (restoreRange address snapshot) := by
  cases snapshot with
  | none => exact .pure _
  | some input => exact neverFails_storeRange address input

theorem neverFails_restoreVforkSharedMemory :
    Prog.NeverFails restoreVforkSharedMemory :=
  .bind (.gets _) fun _ =>
    .bind (neverFails_restoreRange _ _) fun _ =>
      .bind (neverFails_restoreRange _ _) fun _ => .modify _

theorem neverFails_runChild
    (start : ChildStart) :
    Prog.NeverFails (runChild surroundings start) := by
  intro state fault final failed
  unfold runChild at failed
  cases left : surroundings.child start state with
  | none =>
      rw [left] at failed
      cases failed
  | some ended =>
      rw [left] at failed
      exact
        Prog.NeverFails.bind (neverFails_onMachine _) (fun _ => .modify _)
          _ _ _ failed

theorem neverFails_enterVforkChild
    (stack : UInt64) :
    Prog.NeverFails (enterVforkChild surroundings .saved stack) :=
  .bind (.modify _) fun _ =>
    .bind (.gets _) fun _ => neverFails_runChild surroundings _

theorem neverFails_clone
    (flags childStack : UInt64) :
    Prog.NeverFails (clone surroundings flags childStack) := by
  have entered := neverFails_enterVforkChild surroundings
  have finished :
      ∀ childPid : UInt64,
        Prog.NeverFails
          (do
            setResult .saved childPid
            pure childPid) :=
    fun childPid => .bind (.modify _) fun _ => .pure _
  refine .ite ?_ ?_
  · refine .bind (neverFails_onMachine _) fun started => ?_
    cases started with
    | error code => exact .pure _
    | ok childPid =>
        refine .bind (.gets _) fun before => .bind ?_ fun _ =>
          .bind (entered _) fun _ => .bind ?_ fun _ => finished childPid
        · exact .ite (neverFails_snapshotVforkSharedMemory _) (.pure _)
        · exact .ite neverFails_restoreVforkSharedMemory (.pure _)
  · refine .bind (.gets _) fun before =>
      .bind (neverFails_onMachine _) fun started => ?_
    cases started with
    | error code => exact .pure _
    | ok childPid =>
        exact
          .bind (.gets _) fun _ => .bind (entered _) fun _ =>
            finished childPid

/-! ## Whether a child is started -/

theorem onMachine_of_ok
    {α : Type}
    {program : Sys α}
    {state : Cloning}
    {value : α}
    {machine : Machine}
    (returned : program state.machine = .ok value machine) :
    onMachine program state =
      .ok (.ok value) { state with machine := machine } := by
  simp [onMachine, Prog.onPart, Prog.attempt_of_ok returned]

theorem onMachine_of_err
    {α : Type}
    {program : Sys α}
    {state : Cloning}
    {code : UInt64}
    {machine : Machine}
    (failed : program state.machine = .err code machine) :
    onMachine program state =
      .ok (.error code) { state with machine := machine } := by
  simp [onMachine, Prog.onPart, Prog.attempt_of_err failed]

theorem forkOrVfork_of_noChild
    {surroundings : Surroundings}
    {flags : UInt64}
    {state : Cloning}
    (refused : NoChild surroundings.cloneUserAddressSpace flags state) :
    ∃ code final,
      (code = eagain ∨ code = enomem) ∧
        ∀ frame childStack,
          forkOrVfork surroundings frame flags childStack state =
            .ok (negErrno code) final := by
  by_cases active : state.machine.childActive = true
  · obtain ⟨fork, vfork⟩ := forks_of_active active
    refine ⟨eagain, state, .inl rfl, fun frame childStack => ?_⟩
    unfold forkOrVfork
    split
    · unfold doVforkCall
      rw [Prog.bind_of_ok (onMachine_of_err vfork)]
      rfl
    · unfold doForkCall
      rw [Prog.gets_bind_apply, Prog.bind_of_ok (onMachine_of_err (fork _))]
      rfl
  · obtain ⟨plain, exhausted⟩ := refused.resolve_left active
    have failed := doFork_none (Bool.eq_false_iff.mpr active)
    refine
      ⟨enomem,
        { state with
          machine := { state.machine.started with childActive := false } },
        .inr rfl, fun frame childStack => ?_⟩
    unfold forkOrVfork doForkCall
    rw [if_neg (not_not_intro plain), Prog.gets_bind_apply, id, exhausted,
      Prog.bind_of_ok (onMachine_of_err failed)]
    rfl

theorem forkOrVfork_of_child
    {surroundings : Surroundings}
    {flags : UInt64}
    {state : Cloning}
    (started : ¬ NoChild surroundings.cloneUserAddressSpace flags state) :
    ∃ childPid middle,
      ∀ frame childStack,
        forkOrVfork surroundings frame flags childStack state =
          if flags &&& cloneVfork ≠ 0 then
            finishVfork surroundings frame childStack childPid middle
          else
            finishFork surroundings frame childStack childPid middle := by
  unfold NoChild at started
  push Not at started
  obtain ⟨idle, copied⟩ := started
  have inactive := Bool.eq_false_iff.mpr idle
  by_cases vfork : flags &&& cloneVfork = 0
  · obtain ⟨cr3, root⟩ := Option.ne_none_iff_exists'.mp (copied vfork)
    have forked := doFork_some cr3 inactive
    refine
      ⟨state.machine.nextPid,
        { state with machine := state.machine.entered cr3 },
        fun frame childStack => ?_⟩
    unfold forkOrVfork doForkCall
    rw [if_neg (not_not_intro vfork), if_neg (not_not_intro vfork),
      Prog.gets_bind_apply, id, root,
      Prog.bind_of_ok (onMachine_of_ok forked)]
  · refine
      ⟨state.machine.nextPid,
        { state with
          machine := state.machine.entered state.machine.space.cr3 },
        fun frame childStack => ?_⟩
    unfold forkOrVfork doVforkCall
    rw [if_pos vfork, if_pos vfork,
      Prog.bind_of_ok (onMachine_of_ok (doVfork_eq inactive))]

/-! ## Calls without a frame -/

theorem loads_of_stackMapped
    {space : AddressSpace}
    (mapped : stackMapped space = true)
    {index : Nat}
    (inside : index < vforkStackBytes) :
    space.Loads (vforkStackBottom + UInt64.ofNat index) := by
  unfold vforkStackBytes vforkStackPages at inside
  have bottom : vforkStackBottom.toNat = 139637976465408 := by decide
  have page : index / 4096 ∈ List.range vforkStackPages :=
    List.mem_range.mpr (Nat.div_lt_of_lt_mul inside)
  have here := List.all_eq_true.mp mapped _ page
  have same :
      SamePage (vforkStackBottom + UInt64.ofNat index)
        (vforkStackBottom + UInt64.ofNat (index / 4096 * 4096)) := by
    unfold SamePage
    rw [UInt64.toNat_add, UInt64.toNat_add, UInt64.toNat_ofNat',
      UInt64.toNat_ofNat', bottom]
    omega
  exact (same.mapped _ _).mpr here

theorem loadRange_returns
    {address : UInt64}
    {amount : Nat}
    {state : Cloning}
    (loads :
      ∀ index < amount,
        state.machine.space.Loads (address + UInt64.ofNat index)) :
    ∃ bytes, loadRange address amount state = .ok bytes state := by
  unfold loadRange
  rw [loadBytes_of_loads loads]
  exact ⟨_, rfl⟩

theorem snapshotTls_returns :
    ∃ final, snapshotTls state = .ok () final := by
  by_cases mapped : (state.machine.space.translate tlsBase).isSome
  · have loads :
        ∀ index < 4096,
          state.machine.space.Loads (tlsBase + UInt64.ofNat index) := by
      intro index inside
      have same : SamePage (tlsBase + UInt64.ofNat index) tlsBase :=
        samePage_of_lt_pageLeft inside
      exact (same.mapped _ _).mpr mapped
    obtain ⟨tls, loaded⟩ := loadRange_returns loads
    refine ⟨{ state with tlsSnapshot := some tls }, ?_⟩
    unfold snapshotTls
    rw [Prog.bind_of_ok (Prog.gets_apply _ _), if_pos mapped,
      Prog.bind_of_ok loaded]
    rfl
  · refine ⟨state, ?_⟩
    unfold snapshotTls
    rw [Prog.bind_of_ok (Prog.gets_apply _ _), if_neg mapped]
    rfl

theorem snapshotVforkSharedMemory_returns
    (parentRsp : UInt64)
    (state : Cloning) :
    ∃ final, snapshotVforkSharedMemory parentRsp state = .ok () final := by
  unfold snapshotVforkSharedMemory
  rw [Prog.bind_of_ok (Prog.modify_apply _ _),
    Prog.bind_of_ok (Prog.gets_apply _ _)]
  split
  · exact ⟨_, rfl⟩
  · split
    · rename_i mapped
      obtain ⟨stack, loaded⟩ :=
        loadRange_returns fun index inside => loads_of_stackMapped mapped inside
      rw [Prog.bind_of_ok loaded, Prog.bind_of_ok (Prog.modify_apply _ _)]
      exact snapshotTls_returns _
    · exact ⟨_, rfl⟩

theorem enterVforkChild_null
    (stack : UInt64)
    (state : Cloning) :
    ∃ final,
      enterVforkChild surroundings .null stack state =
        .err .nullFrame final :=
  ⟨_, rfl⟩

theorem finishFork_null
    (childStack childPid : UInt64)
    (state : Cloning) :
    ∃ final,
      finishFork surroundings .null childStack childPid state =
        .err .nullFrame final :=
  ⟨_, rfl⟩

theorem snapshotUnlessStack_returns
    (childStack parentRsp : UInt64)
    (state : Cloning) :
    ∃ final, snapshotUnlessStack childStack parentRsp state = .ok () final := by
  unfold snapshotUnlessStack
  split
  · exact snapshotVforkSharedMemory_returns _ _
  · exact ⟨state, rfl⟩

theorem finishVfork_null
    (childStack childPid : UInt64)
    (state : Cloning) :
    ∃ final,
      finishVfork surroundings .null childStack childPid state =
        .err .nullFrame final := by
  obtain ⟨middle, kept⟩ :=
    snapshotUnlessStack_returns childStack state.savedUserRsp state
  obtain ⟨final, entered⟩ :=
    enterVforkChild_null surroundings (childRsp state childStack) middle
  refine ⟨final, ?_⟩
  unfold finishVfork
  rw [Prog.bind_of_ok (Prog.gets_apply _ _), id, Prog.bind_of_ok kept,
    Prog.bind_of_err entered]

theorem forkOrVfork_null
    {surroundings : Surroundings}
    {flags : UInt64}
    {state : Cloning}
    (started : ¬ NoChild surroundings.cloneUserAddressSpace flags state)
    (childStack : UInt64) :
    ∃ final,
      forkOrVfork surroundings .null flags childStack state =
        .err .nullFrame final := by
  obtain ⟨childPid, middle, goesOn⟩ := forkOrVfork_of_child started
  rw [goesOn .null childStack]
  split
  · exact finishVfork_null surroundings childStack childPid middle
  · exact finishFork_null surroundings childStack childPid middle

/-! ## `clone3` -/

theorem copyIn_of_covered
    {address : UInt64}
    {len : Nat}
    {state : Cloning}
    (covered : Covered state.machine.space.Loads address len) :
    ∃ raw,
      copyIn address len state = .ok (.ok raw) state ∧
        ∀ index < len,
          raw index =
            state.machine.space.byteAt state.machine.bytes
              (address + UInt64.ofNat index) := by
  obtain ⟨final, copied⟩ :=
    copyUserIn_of_covered covered (.start state.machine.bytes fun _ => 0)
  refine ⟨final.output, ?_, output_of_copyUserIn copied⟩
  unfold copyIn
  rw [copied]

theorem clone3_eq
    {argsPtr : UInt64}
    {state : Cloning}
    (given : argsPtr ≠ 0)
    (covered : Covered state.machine.space.Loads argsPtr 88) :
    ∃ childStack,
      ∀ surroundings,
        clone3 surroundings argsPtr state =
          forkOrVfork surroundings .null (state.cloneArgs argsPtr).flags
            childStack state := by
  obtain ⟨raw, copied, same⟩ := copyIn_of_covered covered
  have flags : (state.cloneArgs argsPtr).flags = getU64 raw 0 := by
    rw [cloneArgs_flags]
    apply getU64_congr
    intro index inside
    exact (same (0 + index) (by omega)).symm
  refine ⟨getU64 raw 8, fun surroundings => ?_⟩
  rw [flags]
  unfold clone3
  rw [if_neg given, Prog.bind_of_ok copied]

theorem clone3_of_null :
    clone3 surroundings 0 state = .ok (negErrno efault) state :=
  rfl

theorem clone_hangs
    {cloneUserAddressSpace : Machine → Option UInt64}
    {flags : UInt64}
    {state : Cloning}
    (started : ¬ NoChild cloneUserAddressSpace flags state)
    (childStack : UInt64) :
    clone ⟨fun _ _ => none, cloneUserAddressSpace⟩ flags childStack state =
      .hang := by
  obtain ⟨childPid, middle, goesOn⟩ :=
    @forkOrVfork_of_child ⟨fun _ _ => none, cloneUserAddressSpace⟩ flags state
      started
  unfold clone
  rw [goesOn .saved childStack]
  split
  · obtain ⟨later, kept⟩ :=
      snapshotUnlessStack_returns childStack middle.savedUserRsp middle
    unfold finishVfork
    rw [Prog.gets_bind_apply, id, Prog.bind_of_ok kept]
    rfl
  · rfl

/-- `clone3` agrees with `clone` exactly when no child is started. -/
theorem clone3_agrees_iff
    {cloneUserAddressSpace : Machine → Option UInt64}
    {argsPtr : UInt64}
    {state : Cloning}
    (covered : Covered state.machine.space.Loads argsPtr 88) :
    Clone3Agrees cloneUserAddressSpace argsPtr state ↔
      argsPtr ≠ 0 ∧
        NoChild cloneUserAddressSpace (state.cloneArgs argsPtr).flags
          state := by
  have never := neverFails_clone
  constructor
  · intro agrees
    obtain ⟨same, _⟩ := agrees fun _ _ => none
    by_cases given : argsPtr = 0
    · subst given
      rw [clone3_of_null] at same
      by_cases refused :
          NoChild cloneUserAddressSpace (state.cloneArgs 0).flags state
      · obtain ⟨code, final, kinds, refuses⟩ :=
          @forkOrVfork_of_noChild ⟨fun _ _ => none, cloneUserAddressSpace⟩ _ _
            refused
        unfold clone at same
        rw [refuses] at same
        injection same with results _
        rcases kinds with rfl | rfl
        · exact absurd results (by decide)
        · exact absurd results (by decide)
      · rw [clone_hangs refused] at same
        cases same
    · refine ⟨given, ?_⟩
      by_contra started
      obtain ⟨childStack, passes⟩ := clone3_eq given covered
      obtain ⟨final, faults⟩ :=
        @forkOrVfork_null ⟨fun _ _ => none, cloneUserAddressSpace⟩ _ _ started
          childStack
      rw [passes, faults, clone_hangs started] at same
      cases same
  · rintro ⟨given, refused⟩ child
    obtain ⟨childStack, passes⟩ := clone3_eq given covered
    obtain ⟨code, final, _, refuses⟩ :=
      @forkOrVfork_of_noChild ⟨child, cloneUserAddressSpace⟩ _ _ refused
    unfold clone
    rw [passes, refuses, refuses]
    refine ⟨rfl, ?_⟩
    rintro last ⟨⟩

/-! ## A child without a frame -/

/-- The first process, with a page of zeros at 0x5000, in a call. -/
def cloningProcess (childActive : Bool) : Cloning where
  machine :=
    { firstProcess.machine with
      space := Signals.stackSpace
      childActive := childActive }
  frame := ⟨0, 0, 0, 0, 0, 0, 0, 0, 0, 0, 0, 0, 0, 0, 0⟩
  savedUserRsp := 0x5800
  syscallSavedRsp := 0x5800
  parentUserRsp := 0
  stackShared := false
  stackSnapshot := none
  tlsSnapshot := none

theorem covered_cloneArgs
    (childActive : Bool) :
    Covered (cloningProcess childActive).machine.space.Loads 0x5000 88 := by
  refine ⟨by decide, fun index inside => ?_⟩
  have same : SamePage ((0x5000 : UInt64) + UInt64.ofNat index) 0x5000 :=
    samePage_of_lt_pageLeft
      (Nat.lt_of_lt_of_le inside (by decide : 88 ≤ pageLeft 0x5000))
  have page : Mapped Signals.stackSpace.memory Signals.stackSpace.cr3 0x5000 := by
    decide
  exact (same.mapped _ _).mpr page

/-- In a child both calls fail with `EAGAIN`. -/
theorem nested_clone3_agrees :
    Clone3Agrees (fun _ => some 0x9000) 0x5000 (cloningProcess true) :=
  (clone3_agrees_iff (covered_cloneArgs true)).mpr ⟨by decide, .inl rfl⟩

/-- Outside a child `clone3` goes through its null frame pointer. -/
theorem clone3_faults :
    Covered (cloningProcess false).machine.space.Loads 0x5000 88 ∧
      ¬ Clone3Agrees (fun _ => some 0x9000) 0x5000 (cloningProcess false) := by
  refine ⟨covered_cloneArgs false, fun agrees => ?_⟩
  obtain ⟨_, clean⟩ := agrees fun _ _ => none
  obtain ⟨childStack, passes⟩ :=
    clone3_eq (by decide) (covered_cloneArgs false)
  have started :
      ¬ NoChild (fun _ => some 0x9000)
          ((cloningProcess false).cloneArgs 0x5000).flags
          (cloningProcess false) := by
    rintro (active | ⟨_, exhausted⟩)
    · exact Bool.false_ne_true active
    · cases exhausted
  obtain ⟨final, faults⟩ :=
    @forkOrVfork_null ⟨fun _ _ => none, fun _ => some 0x9000⟩ _ _ started
      childStack
  apply clean final
  rw [passes, faults]

end VibuxOS.Process
