import VibuxOS.Process.Children

namespace VibuxOS.Process

open VibuxOS.Lib VibuxOS.Paging

/-!
# Runs of processes and their children

A run is made of the calls of `process.rs` and of everything else that the
running process does in between.  Beside the machine it counts the pids that
were drawn and keeps the pids of the children and the children that have
exited and were not reported yet.
-/

variable
  {machine : Machine}
  (cr3 : UInt64)

/-- Everything else that a process does between two calls. -/
structure Other where
  process : ProcessState
  pending : UInt64
  fsBase : UInt64
  tables : Memory
  bytes : UInt64 → UInt8

/--
The state of a process after other calls and user code: they change all but
its pid and its exit request, which are set by `set_pid` and at the end of a
process.
-/
def Machine.used (other : Other) (machine : Machine) : Machine :=
  { machine with
    process :=
      { other.process with
        pid := machine.process.pid
        exitRequested := machine.process.exitRequested
        exitCode := machine.process.exitCode }
    pending := other.pending
    fsBase := other.fsBase
    space := { machine.space with memory := other.tables }
    bytes := other.bytes }

/-- The calls of a run. -/
inductive Call where
  | fork (childCr3 : Option UInt64)
  | vfork
  | exit (code : UInt64)
  | wait4
      (requestedPid : Int32)
      (statusAddress options rusageAddress : UInt64)
  | execve (cr3 : UInt64)
  | elsewhere (other : Other)

/-- A child that has exited. -/
structure Exited where
  pid : UInt64
  code : UInt64
  deriving Repr, DecidableEq

/-- The entry of `CHILDREN` for a child. -/
def Exited.entry (child : Exited) : ChildEntry :=
  ⟨true, child.pid, statusOf child.code⟩

/-- What a call has done to the children. -/
inductive Answer where
  | done
  | child (pid : UInt64)
  | exited (child : Exited)
  | reported (entry : ChildEntry)

def Call.run : Call → Sys Answer
  | .fork childCr3 => do
      let pid ← doFork childCr3
      pure (.child pid)
  | .vfork => do
      let pid ← doVfork
      pure (.child pid)
  | .exit code => do
      let pid ← Prog.gets Machine.childPid
      Process.exit code
      pure (.exited ⟨pid, code⟩)
  | .wait4 requestedPid statusAddress options rusageAddress => do
      let reported ←
        waitForChild requestedPid statusAddress options rusageAddress
      match reported with
      | some entry => pure (.reported entry)
      | none => pure .done
  | .execve cr3 => do
      Process.execve cr3
      pure .done
  | .elsewhere other => do
      Prog.modify (Machine.used other)
      pure .done

/-- A call that draws a pid, unless it is refused. -/
def Call.forks : Call → Bool
  | .fork _ => true
  | .vfork => true
  | _ => false

/-- A machine with what happened to its children. -/
structure Traced where
  machine : Machine
  pids : List UInt64
  draws : Nat
  unreported : List Exited

def Traced.record (answer : Answer) (traced : Traced) : Traced :=
  match answer with
  | .done => traced
  | .child pid => { traced with pids := pid :: traced.pids }
  | .exited child =>
      { traced with unreported := child :: traced.unreported }
  | .reported entry =>
      { traced with
        unreported :=
          traced.unreported.eraseP fun child => child.entry == entry }

def Traced.drawn (traced : Traced) (call : Call) : Nat :=
  if call.forks && !traced.machine.childActive then
    traced.draws + 1
  else
    traced.draws

/-- The state after a call that comes back. -/
def Traced.after (traced : Traced) (call : Call) : Option Traced :=
  match call.run traced.machine with
  | .ok answer machine =>
      some
        ({ traced with machine, draws := traced.drawn call }.record answer)
  | .err _ machine =>
      some { traced with machine, draws := traced.drawn call }
  | .hang => none

/-- A call comes back, with a value or an error. -/
def Step
    (allowed : Traced → Call → Prop)
    (before after : Traced) : Prop :=
  ∃ call, allowed before call ∧ before.after call = some after

/-- A run of allowed calls. -/
abbrev Run
    (allowed : Traced → Call → Prop) :
    Traced → Traced → Prop :=
  Relation.ReflTransGen (Step allowed)

/--
The first process has not forked yet: it has the pid 1, no child has exited,
and its page tables are not at address 0, which stands for none.
-/
structure Traced.Starts (traced : Traced) : Prop where
  pid : traced.machine.process.pid = 1
  exitRequested : traced.machine.process.exitRequested = false
  exitCode : traced.machine.process.exitCode = 0
  cr3 : traced.machine.space.cr3 ≠ 0
  nextPid : traced.machine.nextPid = 2
  childActive : traced.machine.childActive = false
  children :
    traced.machine.children = List.replicate maxChildren ChildEntry.empty
  pids : traced.pids = []
  draws : traced.draws = 0
  unreported : traced.unreported = []

/-- A process that has not forked yet. -/
def firstProcess : Traced where
  machine :=
    { process := ProcessState.new
      pending := 0
      fsBase := 0x5FFF00000000
      space := { cr3 := 0x1000, memory := fun _ => 0 }
      bytes := fun _ => 0
      nextPid := 2
      children := List.replicate maxChildren ChildEntry.empty
      childActive := false
      childPid := 0
      childExitCode := 0
      childStatus := 0
      childValid := false
      parentState := ProcessState.new
      parentCr3 := 0
      parentFsBase := 0 }
  pids := []
  draws := 0
  unreported := []

theorem starts_firstProcess : firstProcess.Starts :=
  ⟨rfl, rfl, rfl, by decide, rfl, rfl, rfl, rfl, rfl, rfl⟩

/-! ## What each call does -/

theorem copyOut_eq
    {address : UInt64}
    {input : List UInt8} :
    (∃ bytes, copyOut address input machine =
        .ok () { machine with bytes := bytes }) ∨
      (∃ bytes, copyOut address input machine =
        .err efault { machine with bytes := bytes }) ∨
      copyOut address input machine = .hang := by
  unfold copyOut
  split
  · exact Or.inl ⟨_, rfl⟩
  · exact Or.inr (Or.inl ⟨_, rfl⟩)
  · exact Or.inr (Or.inr rfl)

/-- The machine once a child has been started. -/
def Machine.started (machine : Machine) : Machine :=
  let process := { machine.process with pendingSignals := machine.pending }
  { machine with
    process
    parentState := process
    parentCr3 := machine.space.cr3
    parentFsBase := machine.fsBase
    nextPid := machine.nextPid + 1
    childPid := machine.nextPid
    childExitCode := 0
    childStatus := 0
    childValid := false
    childActive := true }

/-- The machine in a child, on the page tables of the child. -/
def Machine.entered (cr3 : UInt64) (machine : Machine) : Machine :=
  { machine.started with
    process := { machine.started.process with pid := machine.nextPid }
    space := { machine.space with cr3 := cr3 } }

theorem forks_of_active
    (active : machine.childActive = true) :
    (∀ childCr3, doFork childCr3 machine = .err eagain machine) ∧
      doVfork machine = .err eagain machine := by
  constructor
  · intro childCr3
    rw [doFork, Prog.gets_bind_apply, active]
    rfl
  · rw [doVfork, Prog.gets_bind_apply, active]
    rfl

theorem doFork_none
    (inactive : machine.childActive = false) :
    doFork none machine =
      .err enomem { machine.started with childActive := false } := by
  rw [doFork, Prog.gets_bind_apply, inactive]
  rfl

theorem doFork_some
    (inactive : machine.childActive = false) :
    doFork (some cr3) machine = .ok machine.nextPid (machine.entered cr3) := by
  rw [doFork, Prog.gets_bind_apply, inactive]
  rfl

theorem doVfork_eq
    (inactive : machine.childActive = false) :
    doVfork machine =
      .ok machine.nextPid (machine.entered machine.space.cr3) := by
  rw [doVfork, Prog.gets_bind_apply, inactive]
  rfl

def Machine.resumed (code : UInt64) (machine : Machine) : Machine :=
  { machine with
    process :=
      { machine.parentState with
        exitRequested := false
        exitCode := 0 }
    pending := machine.parentState.pendingSignals
    fsBase := machine.parentFsBase
    space :=
      { machine.space with
        cr3 :=
          if machine.parentCr3 ≠ 0 then
            machine.parentCr3
          else
            machine.space.cr3 }
    children :=
      Slots.put ChildEntry.used ⟨true, machine.childPid, statusOf code⟩
        machine.children
    childExitCode := code
    childStatus := statusOf code
    childValid := true
    childActive := false }

theorem exit_of_active
    (code : UInt64)
    (active : machine.childActive = true) :
    Process.exit code machine = .ok () (machine.resumed code) := by
  rw [Process.exit, Prog.gets_bind_apply, active, if_pos rfl]
  unfold vforkChildExit Machine.resumed
  rw [Prog.modify_bind_apply, Prog.gets_bind_apply]
  dsimp only
  by_cases root : machine.parentCr3 ≠ 0
  · rw [if_pos root, if_pos root]
    rfl
  · rw [if_neg root, if_neg root]
    rfl

theorem exit_of_inactive
    (code : UInt64)
    (inactive : machine.childActive = false) :
    Process.exit code machine = .hang := by
  rw [Process.exit, Prog.gets_bind_apply, inactive]
  rfl

/-- The machine of a child with a new program. -/
def Machine.replaced (cr3 : UInt64) (machine : Machine) : Machine :=
  match
    (resetProcessForExec : Sys Unit)
      { machine with space := { machine.space with cr3 := cr3 } }
  with
  | .ok _ final => final
  | .err _ final => final
  | .hang => machine

theorem execve_of_inactive
    (inactive : machine.childActive = false) :
    Process.execve cr3 machine = .err enosys machine := by
  rw [Process.execve, Prog.gets_bind_apply, inactive]
  rfl

theorem execve_of_active
    (active : machine.childActive = true) :
    Process.execve cr3 machine = .ok () (machine.replaced cr3) := by
  rw [Process.execve, Prog.gets_bind_apply, active]
  rfl

/-- What a call can do to a machine and to the record of its children. -/
inductive Does (before : Traced) : Call → Traced → Prop where
  | forked
      {call : Call}
      {cr3 : UInt64}
      (inactive : before.machine.childActive = false)
      (isFork : call.forks = true) :
      Does before call
        { before with
          machine := before.machine.entered cr3
          pids := before.machine.nextPid :: before.pids
          draws := before.draws + 1 }
  | failed
      (inactive : before.machine.childActive = false) :
      Does before (.fork none)
        { before with
          machine := { before.machine.started with childActive := false }
          draws := before.draws + 1 }
  | refused
      {call : Call}
      (active : before.machine.childActive = true)
      (isFork : call.forks = true) :
      Does before call before
  | exited
      {code : UInt64}
      (active : before.machine.childActive = true) :
      Does before (.exit code)
        { before with
          machine := before.machine.resumed code
          unreported :=
            ⟨before.machine.childPid, code⟩ :: before.unreported }
  | waited
      {requestedPid : Int32}
      {statusAddress options rusageAddress : UInt64}
      (children : List ChildEntry)
      (bytes : UInt64 → UInt8)
      (unreported : List Exited) :
      Does before (.wait4 requestedPid statusAddress options rusageAddress)
        { before with
          machine :=
            { before.machine with
              children := children
              bytes := bytes }
          unreported := unreported }
  | notChild
      {cr3 : UInt64}
      (inactive : before.machine.childActive = false) :
      Does before (.execve cr3) before
  | replaced
      {cr3 : UInt64}
      (active : before.machine.childActive = true) :
      Does before (.execve cr3)
        { before with machine := before.machine.replaced cr3 }
  | used
      (other : Other) :
      Does before (.elsewhere other)
        { before with machine := before.machine.used other }

theorem waitForChild_frame
    {requestedPid : Int32}
    {statusAddress options rusageAddress : UInt64} :
    (∀ reported final,
        waitForChild requestedPid statusAddress options rusageAddress
            machine =
          .ok reported final →
        ∃ children bytes,
          final =
            { machine with
              children := children
              bytes := bytes }) ∧
      ∀ error final,
        waitForChild requestedPid statusAddress options rusageAddress
            machine =
          .err error final →
        ∃ children bytes,
          final =
            { machine with
              children := children
              bytes := bytes } := by
  have copies (address : UInt64) (input : List UInt8) :
      Prog.Keeps
        (fun final => ∃ children bytes,
          final =
            { machine with
              children := children
              bytes := bytes })
        (copyOutIfGiven address input) := by
    apply Prog.Keeps.ite
    · rintro _ ⟨children, bytes, rfl⟩
      rcases copyOut_eq with ⟨copied, ok⟩ | ⟨copied, err⟩ | hang
      · rw [ok]
        constructor
        · rintro _ _ ⟨⟩
          exact ⟨_, _, rfl⟩
        · rintro _ _ ⟨⟩
      · rw [err]
        constructor
        · rintro _ _ ⟨⟩
        · rintro _ _ ⟨⟩
          exact ⟨_, _, rfl⟩
      · rw [hang]
        constructor <;> rintro _ _ ⟨⟩
    · exact Prog.Keeps.of_readOnly (.pure _)
  have kept :
      Prog.Keeps
        (fun final => ∃ children bytes,
          final =
            { machine with
              children := children
              bytes := bytes })
        (waitForChild requestedPid statusAddress options rusageAddress) := by
    apply Prog.Keeps.bind
    · rintro _ ⟨children, bytes, rfl⟩
      constructor
      · rintro _ _ ⟨⟩
        exact ⟨_, _, rfl⟩
      · rintro _ _ ⟨⟩
    · intro taken
      cases taken with
      | some entry =>
          apply (copies _ _).bind
          intro _
          apply (copies _ _).bind
          intro _
          exact Prog.Keeps.of_readOnly (.pure _)
      | none =>
          apply Prog.Keeps.ite
          · exact Prog.Keeps.of_readOnly (.pure _)
          · exact Prog.Ensures.fail fun _ holds => holds
  exact kept machine ⟨machine.children, machine.bytes, rfl⟩

/-- Every call that comes back does one of these. -/
theorem does_of_after
    {before after : Traced}
    {call : Call}
    (ended : before.after call = some after) :
    Does before call after := by
  unfold Traced.after at ended
  cases call with
  | fork childCr3 =>
      cases active : before.machine.childActive with
      | true =>
          have refused := (forks_of_active active).1 childCr3
          rw [Call.run, Prog.bind_of_err refused] at ended
          simp only [Traced.drawn, Call.forks, active, Option.some.injEq]
            at ended
          subst ended
          exact .refused active rfl
      | false =>
          cases childCr3 with
          | none =>
              rw [Call.run, Prog.bind_of_err (doFork_none active)] at ended
              simp only [Traced.drawn, Call.forks, active,
                Option.some.injEq] at ended
              subst ended
              exact .failed active
          | some cr3 =>
              rw [Call.run, Prog.bind_of_ok (doFork_some cr3 active)]
                at ended
              simp only [Traced.drawn, Call.forks, active, Prog.pure_apply,
                Option.some.injEq] at ended
              subst ended
              exact .forked active rfl
  | vfork =>
      cases active : before.machine.childActive with
      | true =>
          have refused := (forks_of_active active).2
          rw [Call.run, Prog.bind_of_err refused] at ended
          simp only [Traced.drawn, Call.forks, active, Option.some.injEq]
            at ended
          subst ended
          exact .refused active rfl
      | false =>
          rw [Call.run, Prog.bind_of_ok (doVfork_eq active)] at ended
          simp only [Traced.drawn, Call.forks, active, Prog.pure_apply,
            Option.some.injEq] at ended
          subst ended
          exact .forked active rfl
  | exit code =>
      rw [Call.run, Prog.gets_bind_apply] at ended
      cases active : before.machine.childActive with
      | false =>
          rw [Prog.bind_of_hang (exit_of_inactive code active)] at ended
          cases ended
      | true =>
          rw [Prog.bind_of_ok (exit_of_active code active)] at ended
          cases ended
          exact .exited active
  | wait4 requestedPid statusAddress options rusageAddress =>
      have frame :=
        @waitForChild_frame before.machine requestedPid statusAddress options
          rusageAddress
      rw [Call.run] at ended
      cases result :
          waitForChild requestedPid statusAddress options rusageAddress
            before.machine with
      | ok reported final =>
          obtain ⟨children, bytes, rfl⟩ := frame.1 _ _ result
          rw [Prog.bind_of_ok result] at ended
          cases reported with
          | none =>
              cases ended
              exact .waited _ _ _
          | some entry =>
              cases ended
              exact .waited _ _ _
      | err error final =>
          obtain ⟨children, bytes, rfl⟩ := frame.2 _ _ result
          rw [Prog.bind_of_err result] at ended
          cases ended
          exact .waited _ _ _
      | hang =>
          rw [Prog.bind_of_hang result] at ended
          cases ended
  | execve cr3 =>
      rw [Call.run] at ended
      cases active : before.machine.childActive with
      | false =>
          rw [Prog.bind_of_err (execve_of_inactive cr3 active)] at ended
          cases ended
          exact .notChild active
      | true =>
          rw [Prog.bind_of_ok (execve_of_active cr3 active)] at ended
          cases ended
          exact .replaced active
  | elsewhere other =>
      cases ended
      exact .used other

end VibuxOS.Process
