import VibuxOS.Process.Runs

namespace VibuxOS.Process

open VibuxOS.Lib VibuxOS.Paging

/-!
# The state of a parent while its child runs

Only a fork writes the save area, and a fork is refused while a child runs.
So the exit of a child puts back the state that the parent had at its call,
with the pending signals of that moment.
-/

variable
  {root : UInt64}
  {traced : Traced}

/-- The process that forks: the running one, or the suspended parent. -/
def Machine.parent (machine : Machine) : ProcessState :=
  if machine.childActive then
    machine.parentState
  else
    machine.process

/-- The page tables of that process. -/
def Machine.parentRoot (machine : Machine) : UInt64 :=
  if machine.childActive then
    machine.parentCr3
  else
    machine.space.cr3

/-- Every call is allowed. -/
def AnyCall (_ : Traced) (_ : Call) : Prop :=
  True

/-- The calls of a child before its exit. -/
def ChildCall (_ : Traced) : Call → Prop
  | .exit _ => False
  | _ => True

/-- The pid that the first process draws after a number of others. -/
def pidAt (index : Nat) : UInt64 :=
  UInt64.ofNat (2 + index)

/-- What holds of a parent and of the pids in every run. -/
structure Sound (root : UInt64) (traced : Traced) : Prop where
  pid : traced.machine.parent.pid = 1
  exitRequested : traced.machine.parent.exitRequested = false
  exitCode : traced.machine.parent.exitCode = 0
  root : traced.machine.parentRoot = root
  nextPid : traced.machine.nextPid = pidAt traced.draws
  pids :
    ∃ indices : List Nat,
      traced.pids = indices.map pidAt ∧
        indices.Pairwise (· > ·) ∧
        ∀ index ∈ indices, index < traced.draws

/-- The saved state of a parent. -/
structure Saved
    (process : ProcessState)
    (cr3 fsBase : UInt64)
    (traced : Traced) : Prop where
  childActive : traced.machine.childActive = true
  parentState : traced.machine.parentState = process
  parentCr3 : traced.machine.parentCr3 = cr3
  parentFsBase : traced.machine.parentFsBase = fsBase

@[simp] theorem childActive_entered
    (cr3 : UInt64)
    (machine : Machine) :
    (machine.entered cr3).childActive = true :=
  rfl

@[simp] theorem childActive_resumed
    (code : UInt64)
    (machine : Machine) :
    (machine.resumed code).childActive = false :=
  rfl

@[simp] theorem childActive_used
    (other : Other)
    (machine : Machine) :
    (machine.used other).childActive = machine.childActive :=
  rfl

@[simp] theorem childActive_replaced
    (cr3 : UInt64)
    (machine : Machine) :
    (machine.replaced cr3).childActive = machine.childActive :=
  rfl

theorem pidAt_succ
    (index : Nat) :
    pidAt index + 1 = pidAt (index + 1) := by
  unfold pidAt
  apply UInt64.toNat_inj.mp
  simp only [UInt64.toNat_add, UInt64.toNat_ofNat', UInt64.toNat_one]
  omega

theorem pidAt_inj
    {first second : Nat}
    (firstBound : first < 2 ^ 64)
    (secondBound : second < 2 ^ 64)
    (same : pidAt first = pidAt second) :
    first = second := by
  have numbers := congrArg UInt64.toNat same
  simp only [pidAt, UInt64.toNat_ofNat'] at numbers
  omega

theorem pidAt_ne_one
    {index : Nat}
    (bound : index + 1 < 2 ^ 64) :
    pidAt index ≠ 1 := by
  intro one
  have number := congrArg UInt64.toNat one
  simp only [pidAt, UInt64.toNat_ofNat', UInt64.toNat_one] at number
  omega

theorem parent_of_inactive
    {machine : Machine}
    (inactive : machine.childActive = false) :
    machine.parent = machine.process ∧
      machine.parentRoot = machine.space.cr3 := by
  simp [Machine.parent, Machine.parentRoot, inactive]

theorem parent_of_active
    {machine : Machine}
    (active : machine.childActive = true) :
    machine.parent = machine.parentState ∧
      machine.parentRoot = machine.parentCr3 := by
  simp [Machine.parent, Machine.parentRoot, active]

theorem Sound.of_parent
    {before after : Traced}
    (sound : Sound root before)
    (parent : after.machine.parent = before.machine.parent)
    (sameRoot : after.machine.parentRoot = before.machine.parentRoot)
    (nextPid : after.machine.nextPid = before.machine.nextPid)
    (pids : after.pids = before.pids)
    (draws : after.draws = before.draws) :
    Sound root after := by
  constructor
  · rw [parent, sound.pid]
  · rw [parent, sound.exitRequested]
  · rw [parent, sound.exitCode]
  · rw [sameRoot, sound.root]
  · rw [nextPid, draws, sound.nextPid]
  · rw [pids, draws]
    exact sound.pids

theorem Sound.running
    (sound : Sound root traced)
    (inactive : traced.machine.childActive = false) :
    traced.machine.process.pid = 1 ∧
      traced.machine.process.exitRequested = false ∧
      traced.machine.process.exitCode = 0 ∧
      traced.machine.space.cr3 = root := by
  obtain ⟨process, space⟩ := parent_of_inactive inactive
  rw [← process, ← space]
  exact ⟨sound.pid, sound.exitRequested, sound.exitCode, sound.root⟩

/-- One call keeps the parent and the pids sound. -/
theorem sound_step
    {allowed : Traced → Call → Prop}
    {before after : Traced}
    (rootExists : root ≠ 0)
    (step : Step allowed before after)
    (sound : Sound root before) :
    Sound root after := by
  obtain ⟨call, _, ended⟩ := step
  cases does_of_after ended with
  | @forked call cr3 inactive isFork =>
      obtain ⟨indices, pids, decreasing, bound⟩ := sound.pids
      obtain ⟨pid, exitRequested, exitCode, sameRoot⟩ :=
        sound.running inactive
      refine ⟨pid, exitRequested, exitCode, sameRoot, ?_, ?_⟩
      · exact (congrArg (· + 1) sound.nextPid).trans (pidAt_succ _)
      · refine ⟨before.draws :: indices, ?_, ?_, ?_⟩
        · simp [pids, sound.nextPid]
        · exact List.pairwise_cons.mpr ⟨bound, decreasing⟩
        · intro index among
          rcases List.mem_cons.mp among with rfl | earlier
          · exact Nat.lt_succ_self _
          · exact Nat.lt_succ_of_lt (bound index earlier)
  | failed inactive =>
      obtain ⟨indices, pids, decreasing, bound⟩ := sound.pids
      obtain ⟨pid, exitRequested, exitCode, sameRoot⟩ :=
        sound.running inactive
      refine ⟨pid, exitRequested, exitCode, sameRoot, ?_, ?_⟩
      · exact (congrArg (· + 1) sound.nextPid).trans (pidAt_succ _)
      · exact ⟨indices, pids, decreasing,
          fun index among => Nat.lt_succ_of_lt (bound index among)⟩
  | refused _ _ =>
      exact sound
  | exited active =>
      obtain ⟨process, space⟩ := parent_of_active active
      have saved : before.machine.parentCr3 ≠ 0 := by
        rw [← space, sound.root]
        exact rootExists
      have pid := sound.pid
      have root := sound.root
      rw [process] at pid
      rw [space] at root
      exact ⟨pid, rfl, rfl, (if_pos saved).trans root, sound.nextPid,
        sound.pids⟩
  | waited children bytes unreported =>
      exact sound.of_parent rfl rfl rfl rfl rfl
  | notChild _ =>
      exact sound
  | @replaced cr3 active =>
      refine sound.of_parent ?_ ?_ rfl rfl rfl
      · simp only [Machine.parent, childActive_replaced, active, if_true]
        rfl
      · simp only [Machine.parentRoot, childActive_replaced, active, if_true]
        rfl
  | used other =>
      cases active : before.machine.childActive with
      | true =>
          refine sound.of_parent ?_ ?_ rfl rfl rfl
          · simp only [Machine.parent, childActive_used, active, if_true]
            rfl
          · simp only [Machine.parentRoot, childActive_used, active, if_true]
            rfl
      | false =>
          obtain ⟨pid, exitRequested, exitCode, sameRoot⟩ :=
            sound.running active
          obtain ⟨process, space⟩ :=
            @parent_of_inactive (before.machine.used other) active
          refine ⟨?_, ?_, ?_, ?_, sound.nextPid, sound.pids⟩
          · exact (congrArg ProcessState.pid process).trans pid
          · exact
              (congrArg ProcessState.exitRequested process).trans
                exitRequested
          · exact (congrArg ProcessState.exitCode process).trans exitCode
          · exact space.trans sameRoot

theorem Traced.Starts.sound
    (starts : traced.Starts) :
    Sound traced.machine.space.cr3 traced := by
  obtain ⟨process, space⟩ := parent_of_inactive starts.childActive
  constructor
  · rw [process, starts.pid]
  · rw [process, starts.exitRequested]
  · rw [process, starts.exitCode]
  · exact space
  · rw [starts.nextPid, starts.draws]
    rfl
  · refine ⟨[], starts.pids, List.Pairwise.nil, ?_⟩
    intro index among
    cases among

theorem sound_run
    {allowed : Traced → Call → Prop}
    {initial final : Traced}
    (starts : initial.Starts)
    (run : Run allowed initial final) :
    Sound initial.machine.space.cr3 final :=
  invariant_of_run (Sound initial.machine.space.cr3)
    (fun _ _ step => sound_step starts.cr3 step) run starts.sound

theorem saved_step
    {process : ProcessState}
    {cr3 fsBase : UInt64}
    {before after : Traced}
    (step : Step ChildCall before after)
    (saved : Saved process cr3 fsBase before) :
    Saved process cr3 fsBase after := by
  obtain ⟨call, allowed, ended⟩ := step
  cases does_of_after ended with
  | forked inactive _ =>
      exact absurd (saved.childActive.symm.trans inactive)
        Bool.false_ne_true.symm
  | failed inactive =>
      exact absurd (saved.childActive.symm.trans inactive)
        Bool.false_ne_true.symm
  | refused _ _ =>
      exact saved
  | exited _ =>
      cases allowed
  | waited _ _ _ =>
      exact ⟨saved.childActive, saved.parentState, saved.parentCr3,
        saved.parentFsBase⟩
  | notChild _ =>
      exact saved
  | replaced _ =>
      exact ⟨saved.childActive, saved.parentState, saved.parentCr3,
        saved.parentFsBase⟩
  | used _ =>
      exact ⟨saved.childActive, saved.parentState, saved.parentCr3,
        saved.parentFsBase⟩

theorem saved_fork
    {before forked : Traced}
    {call : Call}
    (inactive : before.machine.childActive = false)
    (isFork : call.forks = true)
    (started : before.after call = some forked)
    (active : forked.machine.childActive = true) :
    Saved
      { before.machine.process with
        pendingSignals := before.machine.pending }
      before.machine.space.cr3 before.machine.fsBase forked := by
  cases does_of_after started with
  | forked _ _ =>
      exact ⟨rfl, rfl, rfl, rfl⟩
  | failed _ =>
      cases active
  | refused activeBefore _ =>
      exact absurd (inactive.symm.trans activeBefore) Bool.false_ne_true
  | exited _ =>
      cases isFork
  | waited _ _ _ =>
      cases isFork
  | notChild _ =>
      cases isFork
  | replaced _ =>
      cases isFork
  | used _ =>
      cases isFork

theorem Sound.fresh_pids
    (sound : Sound root traced)
    (few : traced.draws < 2 ^ 64) :
    traced.pids.Nodup ∧ traced.machine.parent.pid ∉ traced.pids := by
  obtain ⟨indices, pids, decreasing, bound⟩ := sound.pids
  rw [pids, sound.pid]
  constructor
  · rw [List.nodup_iff_pairwise_ne, List.pairwise_map]
    refine decreasing.imp_of_mem ?_
    intro first second firstAmong secondAmong later same
    have firstBound := Nat.lt_trans (bound first firstAmong) few
    have secondBound := Nat.lt_trans (bound second secondAmong) few
    exact absurd (pidAt_inj firstBound secondBound same) (Nat.ne_of_gt later)
  · intro among
    obtain ⟨index, indexAmong, isOne⟩ := List.mem_map.mp among
    exact pidAt_ne_one
      (Nat.lt_of_le_of_lt (Nat.succ_le_of_lt (bound index indexAmong)) few)
      isOne

/--
A parent resumes with the page tables, the `fs` base and, apart from the
pending signals, the state of its call, whatever its child did; a child cannot
fork; a fork without memory changes the copy of the pending signals only; and
fewer than 2 ^ 64 draws give the children pids of their own.
-/
theorem parent_survives_child :
    (∀ (initial before forked child after : Traced) (call : Call)
        (code : UInt64),
        initial.Starts →
        Run AnyCall initial before →
        before.machine.childActive = false →
        call.forks = true →
        before.after call = some forked →
        forked.machine.childActive = true →
        Run ChildCall forked child →
        child.after (.exit code) = some after →
        after.machine.childActive = false ∧
          after.machine.space.cr3 = before.machine.space.cr3 ∧
          after.machine.fsBase = before.machine.fsBase ∧
          after.machine.process =
            { before.machine.process with
              pendingSignals := after.machine.process.pendingSignals }) ∧
      (∀ (before : Traced) (call : Call),
        before.machine.childActive = true →
        call.forks = true →
        before.after call = some before) ∧
      (∀ before : Traced,
        before.machine.childActive = false →
        ∃ after,
          before.after (.fork none) = some after ∧
            after.machine.childActive = before.machine.childActive ∧
            after.machine.process =
              { before.machine.process with
                pendingSignals := before.machine.pending }) ∧
      ∀ initial final : Traced,
        initial.Starts →
        Run AnyCall initial final →
        final.draws < 2 ^ 64 →
        final.pids.Nodup ∧ final.machine.parent.pid ∉ final.pids := by
  refine ⟨?_, ?_, ?_, ?_⟩
  · intro initial before forked child after call code starts run inactive
      isFork started active childRun ended
    have sound := sound_run starts run
    obtain ⟨_, exitRequested, exitCode, sameRoot⟩ := sound.running inactive
    have saved :=
      invariant_of_run (Saved _ _ _) (fun _ _ step => saved_step step)
        childRun (saved_fork inactive isFork started active)
    have rootExists : before.machine.space.cr3 ≠ 0 := by
      rw [sameRoot]
      exact starts.cr3
    cases does_of_after ended with
    | forked noChild _ =>
        exact absurd (saved.childActive.symm.trans noChild)
          Bool.false_ne_true.symm
    | refused _ isFork =>
        cases isFork
    | exited _ =>
        refine ⟨rfl, ?_, saved.parentFsBase, ?_⟩
        · have given : child.machine.parentCr3 ≠ 0 := by
            rw [saved.parentCr3]
            exact rootExists
          exact (if_pos given).trans saved.parentCr3
        · simp only [Machine.resumed, saved.parentState]
          rw [← exitRequested, ← exitCode]
  · intro before call active isFork
    cases call with
    | fork childCr3 =>
        rw [Traced.after, Call.run,
          Prog.bind_of_err ((forks_of_active active).1 childCr3)]
        simp [Traced.drawn, active]
    | vfork =>
        rw [Traced.after, Call.run,
          Prog.bind_of_err (forks_of_active active).2]
        simp [Traced.drawn, active]
    | _ =>
        cases isFork
  · intro before inactive
    have failed :
        before.after (.fork none) =
          some
            { before with
              machine := { before.machine.started with childActive := false }
              draws := before.drawn (.fork none) } := by
      rw [Traced.after, Call.run, Prog.bind_of_err (doFork_none inactive)]
    exact ⟨_, failed, inactive.symm, rfl⟩
  · intro initial final starts run few
    exact (sound_run starts run).fresh_pids few

/-! ## A process that forks -/

/-- What a raised signal changes. -/
def signalled : Other where
  process := ProcessState.new
  pending := 2
  fsBase := 0x5FFF00000000
  tables := fun _ => 0
  bytes := fun _ => 0

/-- A fork without memory does not leave the state as it was. -/
theorem failed_fork_copies_pending :
    ¬ ∀ initial before after : Traced,
        initial.Starts →
        Run AnyCall initial before →
        before.after (.fork none) = some after →
        after.machine.process = before.machine.process := by
  intro claimed
  have raised :
      Step AnyCall firstProcess
        { firstProcess with
          machine := firstProcess.machine.used signalled } :=
    ⟨.elsewhere signalled, trivial, rfl⟩
  have same := claimed _ _ _ starts_firstProcess (.single raised) rfl
  have pending := congrArg ProcessState.pendingSignals same
  revert pending
  decide +kernel

/-- The first process resumes when the child of a vfork exits. -/
theorem parent_survives_vfork :
    ∃ forked after,
      firstProcess.after .vfork = some forked ∧
        forked.after (.exit 7) = some after ∧
        after.machine.space.cr3 = 0x1000 ∧
        after.pids = [2] := by
  have resumed :=
    parent_survives_child.1 firstProcess firstProcess _ _ _ .vfork 7
      starts_firstProcess .refl rfl rfl rfl rfl .refl rfl
  exact ⟨_, _, rfl, rfl, resumed.2.1, rfl⟩

end VibuxOS.Process
