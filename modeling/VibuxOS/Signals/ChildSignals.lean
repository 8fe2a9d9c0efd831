import VibuxOS.Signals.QuietCalls

namespace VibuxOS.Signals

open VibuxOS.Lib VibuxOS.Paging

/-!
# Which signals a parent finds pending after a child's run

A fork saves the pending signals in the state of the parent, and the exit of
the child puts them back.  What was raised or taken in between is forgotten,
so the parent finds the signals that are owed exactly when the events of the
child's run come to what was saved.
-/

variable
  {address : UInt64}
  {fd : SignalFd}
  {count : Nat}
  {watched : Watched}

/-! ## Children -/

/--
A fork: its snapshot has the pending signals, and when it fails the signals of
the running process, or of the parent of the running child, stay.
-/
structure Forks (program : Sys UInt64) : Prop where
  returns :
    ∀ machine value final,
      program machine = .ok value final →
      machine.childActive = false ∧
        final.childActive = true ∧
        final.parentState.pendingSignals = machine.pending
  fails :
    ∀ machine error final,
      program machine = .err error final →
      final.pending = machine.pending ∧
        final.childActive = machine.childActive ∧
        (machine.childActive = true →
          final.parentState = machine.parentState)

theorem forks_doFork
    (childCr3 : Option UInt64) :
    Forks (doFork childCr3) := by
  constructor
  · intro machine value final returned
    unfold doFork at returned
    rw [Prog.gets_bind_apply, id] at returned
    cases active : machine.childActive with
    | true =>
        rw [active, if_pos rfl] at returned
        cases returned
    | false =>
        rw [active, if_neg Bool.false_ne_true] at returned
        cases childCr3 with
        | none =>
            cases returned
        | some cr3 =>
            cases returned
            exact ⟨rfl, rfl, rfl⟩
  · intro machine error final failed
    unfold doFork at failed
    rw [Prog.gets_bind_apply, id] at failed
    cases active : machine.childActive with
    | true =>
        rw [active, if_pos rfl] at failed
        cases failed
        exact ⟨rfl, active, fun _ => rfl⟩
    | false =>
        rw [active, if_neg Bool.false_ne_true] at failed
        cases childCr3 with
        | none =>
            cases failed
            exact ⟨rfl, active, fun again => absurd again Bool.false_ne_true⟩
        | some cr3 =>
            cases failed

theorem forks_doVfork : Forks doVfork := by
  constructor
  · intro machine value final returned
    unfold doVfork at returned
    rw [Prog.gets_bind_apply, id] at returned
    cases active : machine.childActive with
    | true =>
        rw [active, if_pos rfl] at returned
        cases returned
    | false =>
        rw [active, if_neg Bool.false_ne_true] at returned
        cases returned
        exact ⟨rfl, rfl, rfl⟩
  · intro machine error final failed
    unfold doVfork at failed
    rw [Prog.gets_bind_apply, id] at failed
    cases active : machine.childActive with
    | true =>
        rw [active, if_pos rfl] at failed
        cases failed
        exact ⟨rfl, active, fun _ => rfl⟩
    | false =>
        rw [active, if_neg Bool.false_ne_true] at failed
        cases failed

theorem ensures_startRecord :
    Prog.Ensures
      (fun watched =>
        watched.machine.childActive = true ∧
          ∀ signum,
            IsSignal signum →
            (Has watched.machine.parentState.pendingSignals signum ↔
              Owed watched.events signum))
      startRecord (fun _ => Watched.Consistent) Watched.Consistent := by
  apply Prog.Ensures.modify
  rintro watched ⟨active, saved⟩
  constructor
  · intro inactive
    exact absurd (active.symm.trans inactive) Bool.false_ne_true.symm
  · intro _
    exact saved

theorem Forks.keeps
    {program : Sys UInt64}
    (forks : Forks program) :
    Prog.Keeps Watched.Consistent
      (do
        interrupts
        let result ← onMachine program
        startRecord
        pure result) := by
  apply Prog.Keeps.bind keeps_interrupts
  intro _ watched holds
  have whole :
      Prog.Ensures (fun state => state = watched) (onMachine program)
        (fun _ final =>
          final.machine.childActive = true ∧
            ∀ signum,
              IsSignal signum →
              (Has final.machine.parentState.pendingSignals signum ↔
                Owed final.events signum))
        Watched.Consistent := by
    apply Prog.Ensures.onPart
    · rintro state value final rfl returned
      obtain ⟨inactive, active, pending⟩ := forks.returns _ _ _ returned
      refine ⟨active, ?_⟩
      dsimp only
      rw [pending]
      exact holds.1 inactive
    · rintro state error final rfl failed
      obtain ⟨pending, childActive, parent⟩ := forks.fails _ _ _ failed
      constructor
      · intro inactive
        rw [childActive] at inactive
        unfold Watched.Kept
        dsimp only
        rw [pending]
        exact holds.1 inactive
      · intro active
        rw [childActive] at active
        unfold Watched.Saved
        dsimp only
        rw [parent active]
        exact holds.2 active
  have sequel := whole.bind fun result =>
    ensures_startRecord.bind fun _ => Prog.Keeps.of_readOnly (.pure result)
  exact sequel watched rfl

/-- `execve` drops signals of a child only. -/
theorem keeps_execve
    (cr3 : UInt64) :
    Prog.Keeps Watched.Consistent (execve cr3) := by
  intro watched holds
  unfold execve
  rw [Prog.gets_bind_apply]
  cases active : watched.machine.childActive with
  | false =>
      rw [if_pos rfl]
      constructor
      · intro value final returned
        cases returned
      · intro error final failed
        cases failed
        exact holds
  | true =>
      rw [if_neg Bool.false_ne_true.symm]
      have switched : Quiet (switchCr3 cr3) :=
        quiet_modify fun _ => ⟨rfl, rfl, rfl⟩
      have whole :
          Prog.Keeps
            (fun state =>
              state.machine.childActive = true ∧ state.Saved)
            (do
              onMachine (switchCr3 cr3)
              interrupts
              onMachine resetProcessForExec) := by
        apply Prog.Keeps.bind
        · apply Prog.Ensures.onPart
          · intro state value final saved returned
            cases returned
            exact saved
          · intro state error final saved failed
            cases failed
        · intro _
          apply Prog.Keeps.bind
          · intro state saved
            rw [interrupts_apply]
            obtain ⟨machine, beforeFork, _, _⟩ :=
              state.interrupts_interrupted
            constructor
            · intro value final returned
              cases returned
              unfold Watched.Saved
              rw [machine, beforeFork]
              exact saved
            · intro error final failed
              cases failed
          · intro _
            apply Prog.Ensures.onPart
            · intro state value final saved returned
              cases returned
              exact saved
            · intro state error final saved failed
              cases failed
      have consistent :
          ∀ state : Watched,
            state.machine.childActive = true ∧ state.Saved →
            state.Consistent :=
        fun state both =>
          ⟨fun inactive =>
              absurd (both.1.symm.trans inactive) Bool.false_ne_true.symm,
            fun _ => both.2⟩
      obtain ⟨onReturn, onError⟩ :=
        whole watched ⟨active, holds.2 active⟩
      exact ⟨fun value final returned => consistent _ (onReturn _ _ returned),
        fun error final failed => consistent _ (onError _ _ failed)⟩

theorem final_exit
    {watched after : Watched}
    (ended : (WatchedCall.exit.run watched).final? = some after) :
    watched.machine.childActive = true ∧
      after.machine.childActive = false ∧
      after.machine.pending =
        watched.interrupted.machine.parentState.pendingSignals ∧
      after.events = watched.interrupted.events := by
  have same := watched.interrupts_interrupted.machine
  rw [WatchedCall.run, single, Prog.bind_of_ok (interrupts_apply watched)]
    at ended
  cases active : watched.machine.childActive with
  | false =>
      have hangs :
          onMachine vforkChildExit watched.interrupted = .hang := by
        unfold onMachine Prog.onPart vforkChildExit
        rw [Prog.gets_bind_apply, id, same]
        dsimp only
        rw [active, if_neg Bool.false_ne_true]
        rfl
      rw [Prog.bind_of_hang hangs] at ended
      cases ended
  | true =>
      have activeStill :
          watched.interrupted.machine.childActive = true := by
        rw [same]
        exact active
      unfold onMachine at ended
      obtain ⟨resumed, returns, isResumed⟩ :
          ∃ resumed,
            vforkChildExit watched.interrupted.machine = .ok () resumed ∧
              resumed.childActive = false ∧
              resumed.pending =
                watched.interrupted.machine.parentState.pendingSignals := by
        unfold vforkChildExit
        rw [Prog.gets_bind_apply, id, activeStill, if_pos rfl]
        exact ⟨_, rfl, rfl, rfl⟩
      have moved :
          Prog.onPart Watched.machine
              (fun machine state => { state with machine := machine })
              vforkChildExit watched.interrupted =
            .ok () { watched.interrupted with machine := resumed } := by
        unfold Prog.onPart
        rw [returns]
      rw [Prog.bind_of_ok moved] at ended
      cases ended
      exact ⟨rfl, isResumed.1, isResumed.2, rfl⟩

theorem kept_exit_iff
    {watched after : Watched}
    (holds : watched.Consistent)
    (ended : (WatchedCall.exit.run watched).final? = some after) :
    after.Kept ↔ watched.interrupted.Settled := by
  obtain ⟨active, _, pending, events⟩ := final_exit ended
  have activeStill : watched.interrupted.machine.childActive = true := by
    rw [watched.interrupts_interrupted.machine]
    exact active
  rw [settled_iff (holds.interrupted.2 activeStill), Watched.Kept, pending,
    events]

/-! ## Signal descriptors -/

theorem copyOut_returns_iff
    {input : List UInt8}
    {machine : Machine}
    (some : input.length ≠ 0) :
    (∃ final, copyOut address input machine = .ok () final) ↔
      Covered machine.space.Stores address input.length := by
  have transfers := transfers_storeBytes machine.space input
  constructor
  · rintro ⟨final, returned⟩
    unfold copyOut at returned
    split at returned
    · rename_i last copied
      rcases covered_of_copyRange transfers copied with
          ⟨empty, _⟩ | covered
      · exact absurd empty some
      · exact covered
    · cases returned
    · cases returned
  · intro covered
    obtain ⟨last, copied, _⟩ :=
      copyRange_of_covered transfers covered (.start machine.bytes fun _ => 0)
    have isCopy :
        copyUserOut machine.space address input (.start machine.bytes fun _ => 0) =
          .ok () last :=
      copied
    refine ⟨{ machine with bytes := last.bytes }, ?_⟩
    unfold copyOut
    rw [isCopy]

theorem copyOut_eq_err
    {address error : UInt64}
    {input : List UInt8}
    {machine final : Machine}
    (failed : copyOut address input machine = .err error final) :
    ∃ bytes, final = { machine with bytes := bytes } := by
  unfold copyOut at failed
  split at failed <;> cases failed
  exact ⟨_, rfl⟩

theorem length_signalInfo
    (signum pid : UInt64) :
    (signalInfo signum pid).length = 128 := by
  rw [signalInfo, firstBytes, List.length_map, List.length_range]

/-- A signal that a read has cleared, before the read is recorded. -/
def Watched.cleared
    (signum : UInt64)
    (bytes : UInt64 → UInt8)
    (watched : Watched) :
    Watched :=
  { watched with
    machine :=
      { watched.machine with
        pending := watched.machine.pending &&& ~~~signalBit signum
        bytes := bytes } }

/-- The read of a signal descriptor is recorded. -/
def Watched.recorded (event : Event) (watched : Watched) : Watched :=
  { watched with sinceFork := event :: watched.sinceFork }

/-- How the read of a signal descriptor ends. -/
inductive ReadEnds
    (watched : Watched)
    (fd : SignalFd)
    (address : UInt64)
    (count : Nat) :
    Watched → Prop where
  | unused
      (notUsed : fd.used = false) :
      ReadEnds watched fd address count watched
  | empty
      (none : watched.interrupted.machine.pending &&& fd.mask = 0) :
      ReadEnds watched fd address count watched.interrupted
  | failed
      {signum : UInt64}
      {bytes : UInt64 → UInt8}
      (used : fd.used = true)
      (lowest :
        lowestSignal (watched.interrupted.machine.pending &&& fd.mask) =
          some signum)
      (short :
        ¬ (128 ≤ count ∧
            Covered watched.machine.space.Stores address 128)) :
      ReadEnds watched fd address count
        (watched.interrupted.interrupted.cleared signum bytes)
  | returned
      {signum : UInt64}
      {bytes : UInt64 → UInt8}
      (lowest :
        lowestSignal (watched.interrupted.machine.pending &&& fd.mask) =
          some signum)
      (enough :
        128 ≤ count ∧ Covered watched.machine.space.Stores address 128) :
      ReadEnds watched fd address count
        ((watched.interrupted.interrupted.cleared signum bytes).recorded
          (.taken signum))

theorem Watched.Interrupts.space
    {before after : Watched}
    (interrupts : before.Interrupts after) :
    after.machine.space = before.machine.space := by
  rw [interrupts.machine]

theorem readEnds_of_final
    {watched after : Watched}
    (ended : (signalfdRead fd address count watched).final? = some after) :
    ReadEnds watched fd address count after := by
  unfold signalfdRead at ended
  cases used : fd.used with
  | false =>
      rw [used, if_pos rfl] at ended
      cases ended
      exact .unused used
  | true =>
      rw [used, if_neg Bool.false_ne_true.symm,
        Prog.bind_of_ok (interrupts_apply watched), Prog.gets_bind_apply]
        at ended
      cases lowest :
          lowestSignal
            (watched.interrupted.machine.pending &&& fd.mask) with
      | none =>
          have empty := lowestSignal_eq_none.mp lowest
          rw [lowest] at ended
          dsimp only at ended
          split at ended
          · cases ended
            exact .empty empty
          · cases ended
            exact .empty empty
      | some signum =>
          rw [lowest] at ended
          dsimp only at ended
          rw [Prog.bind_of_ok (interrupts_apply _)] at ended
          have clears :
              onMachine (clearPending signum)
                  watched.interrupted.interrupted =
                .ok ()
                  (watched.interrupted.interrupted.cleared signum
                    watched.interrupted.interrupted.machine.bytes) :=
            rfl
          rw [Prog.bind_of_ok clears] at ended
          by_cases short : count < 128
          · rw [if_pos short] at ended
            cases ended
            exact .failed used lowest fun enough =>
              absurd enough.1 (Nat.not_le_of_lt short)
          · rw [if_neg short] at ended
            have length :=
              length_signalInfo signum
                watched.interrupted.machine.process.pid
            generalize signalInfo signum
              watched.interrupted.machine.process.pid = info at ended length
            generalize cleared :
              watched.interrupted.interrupted.cleared signum
                watched.interrupted.interrupted.machine.bytes = middle
              at ended
            have space : middle.machine.space = watched.machine.space := by
              rw [← cleared]
              exact watched.interrupted.interrupts_interrupted.space.trans
                watched.interrupts_interrupted.space
            have returns_iff :
                (∃ final,
                  copyOut address info middle.machine = .ok () final) ↔
                  Covered watched.machine.space.Stores address 128 := by
              rw [copyOut_returns_iff (by rw [length]; decide), space,
                length]
            cases copied : copyOut address info middle.machine with
            | ok value final =>
                have moved :
                    onMachine (copyOut address info) middle =
                      .ok () { middle with machine := final } := by
                  unfold onMachine Prog.onPart
                  rw [copied]
                rw [Prog.bind_of_ok moved] at ended
                obtain ⟨bytes, rfl, _⟩ := copyOut_eq_ok copied
                subst cleared
                cases ended
                exact .returned lowest
                  ⟨Nat.le_of_not_lt short, returns_iff.mp ⟨_, copied⟩⟩
            | err error final =>
                have failed :
                    onMachine (copyOut address info) middle =
                      .err error { middle with machine := final } := by
                  unfold onMachine Prog.onPart
                  rw [copied]
                rw [Prog.bind_of_err failed] at ended
                obtain ⟨bytes, rfl⟩ := copyOut_eq_err copied
                subst cleared
                cases ended
                refine .failed used lowest fun enough => ?_
                obtain ⟨final, returned⟩ := returns_iff.mpr enough.2
                rw [copied] at returned
                cases returned
            | hang =>
                have stuck :
                    onMachine (copyOut address info) middle = .hang := by
                  unfold onMachine Prog.onPart
                  rw [copied]
                rw [Prog.bind_of_hang stuck] at ended
                cases ended

theorem Watched.Consistent.recorded
    {signum : UInt64}
    {bytes : UInt64 → UInt8}
    (holds : watched.Consistent)
    (isSignal : IsSignal signum) :
    ((watched.cleared signum bytes).recorded (.taken signum)).Consistent := by
  constructor
  · intro inactive other isOther
    refine (has_and_not_signalBit isSignal isOther).trans ?_
    rw [holds.1 inactive other isOther]
    rfl
  · intro active
    exact holds.2 active

theorem ne_zero_of_lowestSignal
    {set signum : UInt64}
    (lowest : lowestSignal set = some signum) :
    set ≠ 0 := by
  intro empty
  rw [lowestSignal_eq_none.mpr empty] at lowest
  cases lowest

theorem consistent_of_readEnds
    {watched after : Watched}
    (careful : Careful watched (.signalfdRead fd address count))
    (holds : watched.Consistent)
    (ended : ReadEnds watched fd address count after) :
    after.Consistent := by
  cases ended with
  | unused _ =>
      exact holds
  | empty _ =>
      exact holds.interrupted
  | failed used lowest short =>
      have same :=
        watched.interrupts_interrupted.trans
          watched.interrupted.interrupts_interrupted
      constructor
      · intro inactive
        have inactiveBefore : watched.machine.childActive = false := by
          rw [← inactive]
          exact (congrArg Machine.childActive same.machine).symm
        exact absurd
          (careful inactiveBefore used (ne_zero_of_lowestSignal lowest)) short
      · intro active
        exact holds.interrupted.interrupted.2 active
  | returned lowest _ =>
      exact holds.interrupted.interrupted.recorded
        (isSignal_lowestSignal lowest)

theorem not_kept_of_readEnds
    {watched after : Watched}
    (careless : ¬ Careful watched (.signalfdRead fd address count))
    (holds : watched.Consistent)
    (ended : ReadEnds watched fd address count after) :
    after.machine.childActive = false ∧ ¬ after.Kept := by
  simp only [Careful, not_forall] at careless
  obtain ⟨inactive, used, found, short⟩ := careless
  cases ended with
  | unused notUsed =>
      rw [used] at notUsed
      cases notUsed
  | empty none =>
      exact absurd none found
  | @failed signum bytes _ lowest _ =>
      have early := watched.interrupts_interrupted
      have late := watched.interrupted.interrupts_interrupted
      have isSignal := isSignal_lowestSignal lowest
      have same := (early.trans late).machine
      constructor
      · exact (congrArg Machine.childActive same).trans inactive
      · intro kept
        have among :
            Has watched.interrupted.machine.pending signum := by
          have both := lowestSignal_mem lowest
          intro absent
          apply both
          rw [UInt64.and_assoc, UInt64.and_comm fd.mask, ← UInt64.and_assoc,
            absent, UInt64.zero_and]
        have owed :
            Owed watched.interrupted.interrupted.events signum :=
          (late.kept (early.kept (holds.1 inactive)) signum isSignal).mp
            (late.pending signum isSignal among)
        have present := (kept signum isSignal).mpr owed
        exact
          ((has_and_not_signalBit isSignal isSignal).mp present).1 rfl
  | returned _ enough =>
      exact absurd enough short

/-! ## Steps -/

theorem keeps_watched
    {α : Type}
    {program : WatchedSys α}
    (kept : Prog.Keeps Watched.Consistent program) :
    Prog.Keeps Watched.Consistent (program >>= fun _ => pure ()) :=
  Prog.Keeps.bind kept fun _ => Prog.Keeps.of_readOnly (.pure _)

theorem final_signalfdRead
    {watched after : Watched}
    (ended :
      ((WatchedCall.signalfdRead fd address count).run watched).final? =
        some after) :
    (signalfdRead fd address count watched).final? = some after := by
  rw [WatchedCall.run] at ended
  cases result : signalfdRead fd address count watched with
  | ok value final =>
      rw [Prog.bind_of_ok result] at ended
      exact ended
  | err error final =>
      rw [Prog.bind_of_err result] at ended
      exact ended
  | hang =>
      rw [Prog.bind_of_hang result] at ended
      cases ended

theorem consistent_step
    {before after : Watched}
    (step : WatchedStep Careful before after)
    (holds : before.Consistent) :
    after.Consistent := by
  obtain ⟨call, arrivals, careful, ended⟩ := step
  have armed : (before.armed arrivals).Consistent := holds
  cases call with
  | raise signum =>
      have kept := keeps_watched (keeps_raise signum)
      exact Prog.Ensures.final
        (Prog.Keeps.bind keeps_interrupts fun _ => kept) armed ended
  | deliver fuel frame =>
      exact Prog.Ensures.final
        (keeps_watched (keeps_deliverPending fuel frame)) armed ended
  | pendingUnblocked =>
      exact Prog.Ensures.final (keeps_watched keeps_pendingUnblocked) armed
        ended
  | signalfdRead fd address count =>
      exact consistent_of_readEnds careful armed
        (readEnds_of_final (final_signalfdRead ended))
  | fork childCr3 =>
      exact Prog.Ensures.final
        (keeps_watched (forks_doFork childCr3).keeps) armed ended
  | vfork =>
      exact Prog.Ensures.final (keeps_watched forks_doVfork.keeps) armed ended
  | exit =>
      obtain ⟨active, resumed, _⟩ := final_exit ended
      have kept := (kept_exit_iff armed ended).mpr (careful active)
      exact ⟨fun _ => kept, fun again =>
        absurd (again.symm.trans resumed) Bool.false_ne_true.symm⟩
  | execve cr3 =>
      exact Prog.Ensures.final (keeps_execve cr3) armed ended
  | rtSigaction signum newAction oldAction sigsetsize =>
      exact Prog.Ensures.final
        (keeps_single (quiet_rtSigactionImpl _ _ _ _)) armed ended
  | rtSigprocmask how set oldset sigsetsize =>
      exact Prog.Ensures.final
        (keeps_single (quiet_rtSigprocmaskImpl _ _ _ _)) armed ended
  | rtSigreturn =>
      exact Prog.Ensures.final (keeps_single quiet_rtSigreturnImpl) armed
        ended
  | user tables bytes fsBase rsp =>
      exact Prog.Ensures.final (keeps_single (quiet_used _ _ _ _)) armed
        ended

theorem not_kept_of_careless
    {before after : Watched}
    {call : WatchedCall}
    {arrivals : List (List UInt64)}
    (holds : before.Consistent)
    (careless : ¬ Careful (before.armed arrivals) call)
    (ended : (call.run (before.armed arrivals)).final? = some after) :
    after.machine.childActive = false ∧ ¬ after.Kept := by
  have armed : (before.armed arrivals).Consistent := holds
  cases call with
  | exit =>
      obtain ⟨_, resumed, _⟩ := final_exit ended
      have unsettled := mt (fun settled _ => settled) careless
      exact ⟨resumed, fun kept =>
        unsettled ((kept_exit_iff armed ended).mp kept)⟩
  | signalfdRead fd address count =>
      exact not_kept_of_readEnds careless armed
        (readEnds_of_final (final_signalfdRead ended))
  | _ =>
      exact absurd trivial careless

theorem Watched.Starts.consistent
    (starts : watched.Starts) :
    watched.Consistent := by
  obtain ⟨⟨_, inactive⟩, pending, since, before⟩ := starts
  constructor
  · intro _ signum _
    rw [pending, Watched.events, since, before]
    exact ⟨fun has => absurd has (not_has_zero signum), False.elim⟩
  · intro active
    exact absurd (inactive.symm.trans active) Bool.false_ne_true

/--
While no child runs, the pending signals are those that were raised and not
taken since, in every run whose calls are careful; and a call that is not
careful leaves other signals pending.
-/
theorem pending_iff_owed
    {initial : Watched}
    (starts : initial.Starts) :
    (∀ final,
        WatchedRun Careful initial final →
        final.machine.childActive = false →
        final.Kept) ∧
      ∀ before call arrivals after,
        WatchedRun Careful initial before →
        ¬ Careful (before.armed arrivals) call →
        (call.run (before.armed arrivals)).final? = some after →
        after.machine.childActive = false ∧ ¬ after.Kept := by
  have consistent :
      ∀ final : Watched,
        WatchedRun Careful initial final →
        final.Consistent :=
    fun final run =>
      invariant_of_run Watched.Consistent
        (fun _ _ step => consistent_step step) run starts.consistent
  constructor
  · intro final run
    exact (consistent final run).1
  · intro before call arrivals after run careless ended
    exact not_kept_of_careless (consistent before run) careless ended

/-! ## Signals that are lost and signals that come back -/

/-- A process that starts with its stack in one user page. -/
def freshWatched : Watched where
  machine := forgingMachine 0
  arrivals := []
  sinceFork := []
  beforeFork := []

theorem starts_freshWatched : freshWatched.Starts :=
  ⟨⟨rfl, rfl⟩, rfl, rfl, rfl⟩

/-- The registers of a process that has not run yet. -/
def freshFrame : SyscallFrame where
  r15 := 0
  r14 := 0
  r13 := 0
  r12 := 0
  r10 := 0
  r9 := 0
  r8 := 0
  rdi := 0
  rsi := 0
  rbp := 0
  rbx := 0
  rdx := 0
  rax := 0
  syscallR11 := 0
  syscallRcx := 0

/-- The state after a call that comes back. -/
def Watched.after
    (watched : Watched)
    (call : WatchedCall)
    (arrivals : List (List UInt64)) :
    Watched :=
  ((call.run (watched.armed arrivals)).final?).getD watched

theorem step_after
    {allowed : Watched → WatchedCall → Prop}
    {call : WatchedCall}
    {arrivals : List (List UInt64)}
    (isAllowed : allowed (watched.armed arrivals) call)
    (ends :
      ((call.run (watched.armed arrivals)).final?).isSome = true) :
    WatchedStep allowed watched (watched.after call arrivals) := by
  obtain ⟨final, ended⟩ := Option.isSome_iff_exists.mp ends
  refine ⟨call, arrivals, isAllowed, ?_⟩
  rw [Watched.after, ended, Option.getD_some]

/-- `SIGINT` arrives while a child runs that ends before it takes it. -/
def lostSignal : Watched :=
  (freshWatched.after .vfork []).after .exit [[2]]

/-- A child takes the `SIGINT` that was pending at its fork. -/
def returnedSignal : Watched :=
  (((freshWatched.after (.raise 2) []).after .vfork []).after
    (.deliver 2 freshFrame) []).after .exit []

/--
A signal that is raised during a child's run and not taken is lost at its
exit, and a signal that the child took is pending again.
-/
theorem signals_lost_and_returned :
    (¬ ∀ initial final,
        initial.Starts →
        WatchedRun (fun _ _ => True) initial final →
        final.machine.childActive = false →
        ∀ signum,
          IsSignal signum →
          Owed final.events signum →
          Has final.machine.pending signum) ∧
      ¬ ∀ initial final,
        initial.Starts →
        WatchedRun (fun _ _ => True) initial final →
        final.machine.childActive = false →
        ∀ signum,
          IsSignal signum →
          Has final.machine.pending signum →
          Owed final.events signum := by
  constructor
  · intro claimed
    have run : WatchedRun (fun _ _ => True) freshWatched lostSignal :=
      .tail (.single (step_after trivial rfl)) (step_after trivial rfl)
    have pending :=
      claimed _ _ starts_freshWatched run rfl 2 (by decide) (Or.inl rfl)
    revert pending
    decide +kernel
  · intro claimed
    have run : WatchedRun (fun _ _ => True) freshWatched returnedSignal :=
      .tail
        (.tail
          (.tail (.single (step_after trivial rfl))
            (step_after trivial rfl))
          (step_after trivial (by decide +kernel)))
        (step_after trivial (by decide +kernel))
    have owed :=
      claimed _ _ starts_freshWatched run (by decide +kernel) 2 (by decide)
        (by decide +kernel)
    have events :
        returnedSignal.events = [.taken 2, .raised 2] := by
      decide +kernel
    rw [events] at owed
    exact owed.1 rfl

/-- A signal that was pending at the fork, and not taken, is still pending. -/
theorem signal_kept :
    ∃ final,
      WatchedRun Careful freshWatched final ∧
        Has final.machine.pending 2 ∧
        final.Kept := by
  have raised :
      WatchedStep Careful freshWatched (freshWatched.after (.raise 2) []) :=
    step_after (by exact trivial) rfl
  have forked :
      WatchedStep Careful (freshWatched.after (.raise 2) [])
        ((freshWatched.after (.raise 2) []).after .vfork []) :=
    step_after (by exact trivial) rfl
  have resumed :
      WatchedStep Careful ((freshWatched.after (.raise 2) []).after .vfork [])
        (((freshWatched.after (.raise 2) []).after .vfork []).after
          .exit []) := by
    apply step_after
    · intro _ signum _
      constructor <;> intro last <;> cases last
    · rfl
  have run := Relation.ReflTransGen.tail
    (.tail (.single raised) forked) resumed
  exact ⟨_, run, by decide +kernel,
    (pending_iff_owed starts_freshWatched).1 _ run rfl⟩

end VibuxOS.Signals
