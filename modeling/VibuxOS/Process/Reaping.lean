import VibuxOS.Process.Runs

namespace VibuxOS.Process

open VibuxOS.Lib VibuxOS.Paging

/-!
# Which children can still be waited for

The table of exited children has sixteen slots: an exit that finds no free one
drops the child.  A wait takes the child out of the table before it copies the
status, and does not put it back when a copy fails.  As long as neither
happens the table is the bag of the children that are to be reported.
-/

variable
  {address : UInt64}
  {input : List UInt8}
  {machine : Machine}
  {requestedPid : Int32}

/-- The used entries of the table. -/
def Machine.exitedChildren (machine : Machine) : List ChildEntry :=
  Slots.entries ChildEntry.used machine.children

/-- The table holds the children that have exited and were not reported. -/
def Traced.Accounted (traced : Traced) : Prop :=
  traced.machine.exitedChildren.Perm
    (traced.unreported.map Exited.entry)

/-- A pointer of a wait is left out, or the bytes behind it can be written. -/
def Machine.Receives
    (machine : Machine)
    (address : UInt64)
    (len : Nat) : Prop :=
  address = 0 ∨ Covered machine.space.Stores address len

/--
A child exits while a slot is free, and a wait that finds a child has pointers
to which its status and the usage can be copied.
-/
def Careful (traced : Traced) : Call → Prop
  | .exit _ =>
      traced.machine.childActive = true →
      ∃ slot ∈ traced.machine.children, slot.used = false
  | .wait4 requestedPid statusAddress _ rusageAddress =>
      (∃ entry ∈ traced.machine.exitedChildren,
        entry.requested requestedPid = true) →
      traced.machine.Receives statusAddress 4 ∧
        traced.machine.Receives rusageAddress 144
  | _ => True

/-! ## Copies -/

theorem length_statusBytes
    (status : UInt32) :
    (statusBytes status).length = 4 := by
  simp [statusBytes]

theorem copyOut_returns_iff
    (some : input.length ≠ 0) :
    (∃ final, copyOut address input machine = .ok () final) ↔
      Covered machine.space.Stores address input.length := by
  have transfers := transfers_storeBytes machine.space input
  constructor
  · rintro ⟨final, returned⟩
    unfold copyOut at returned
    split at returned
    · rename_i last copied
      rcases covered_of_copyRange transfers copied with
          ⟨empty, _⟩ | covered
      · exact absurd empty some
      · exact covered
    · cases returned
    · cases returned
  · intro covered
    obtain ⟨last, copied, _⟩ :=
      copyRange_of_covered transfers covered (.start machine.bytes fun _ => 0)
    have isCopy :
        copyUserOut machine.space address input
            (.start machine.bytes fun _ => 0) =
          .ok () last :=
      copied
    refine ⟨{ machine with bytes := last.bytes }, ?_⟩
    unfold copyOut
    rw [isCopy]

theorem copyOut_stored
    {machine final : Machine}
    (copied : copyOut address input machine = .ok () final) :
    Stored machine.space address input machine.bytes final.bytes := by
  unfold copyOut at copied
  split at copied
  · rename_i last result
    cases copied
    exact stored_of_copyUserOut result
  · cases copied
  · cases copied

theorem copyOutIfGiven_returns_iff
    (some : input.length ≠ 0) :
    (∃ final, copyOutIfGiven address input machine = .ok () final) ↔
      machine.Receives address input.length := by
  unfold copyOutIfGiven Machine.Receives
  by_cases given : address ≠ 0
  · rw [if_pos given, copyOut_returns_iff some]
    exact ⟨Or.inr, fun either => either.resolve_left given⟩
  · rw [if_neg given]
    exact ⟨fun _ => Or.inl (not_not.mp given), fun _ => ⟨machine, rfl⟩⟩

theorem copyOutIfGiven_eq :
    (∃ bytes, copyOutIfGiven address input machine =
        .ok () { machine with bytes := bytes }) ∨
      (∃ bytes, copyOutIfGiven address input machine =
        .err efault { machine with bytes := bytes }) ∨
      copyOutIfGiven address input machine = .hang := by
  unfold copyOutIfGiven
  split
  · exact copyOut_eq
  · exact Or.inl ⟨machine.bytes, rfl⟩

theorem copyOutIfGiven_stored
    {machine final : Machine}
    (given : address ≠ 0)
    (copied : copyOutIfGiven address input machine = .ok () final) :
    Stored machine.space address input machine.bytes final.bytes := by
  rw [copyOutIfGiven, if_pos given] at copied
  exact copyOut_stored copied

/-! ## Waiting -/

/-- The machine without the child that a wait has taken. -/
def Machine.without
    (requestedPid : Int32)
    (machine : Machine) :
    Machine :=
  { machine with
    children :=
      (Slots.take ChildEntry.used (ChildEntry.requested requestedPid)
        ChildEntry.empty machine.children).2 }

/-- The child that a wait takes. -/
def Machine.taken?
    (requestedPid : Int32)
    (machine : Machine) :
    Option ChildEntry :=
  (Slots.take ChildEntry.used (ChildEntry.requested requestedPid)
    ChildEntry.empty machine.children).1

theorem takeExitedChild_apply
    (requestedPid : Int32)
    (machine : Machine) :
    takeExitedChild requestedPid machine =
      .ok (machine.taken? requestedPid) (machine.without requestedPid) :=
  rfl

theorem exitedChildren_of_taken
    {entry : ChildEntry}
    (taken : machine.taken? requestedPid = some entry) :
    entry.requested requestedPid = true ∧
      machine.exitedChildren.Perm
        (entry :: (machine.without requestedPid).exitedChildren) := by
  obtain ⟨_, requested, others⟩ := Slots.entries_take_of_some rfl taken
  exact ⟨requested, others⟩

theorem exitedChildren_of_not_taken
    (nothing : machine.taken? requestedPid = none) :
    (∀ entry ∈ machine.exitedChildren,
        entry.requested requestedPid = false) ∧
      machine.without requestedPid = machine := by
  obtain ⟨unwanted, same⟩ := Slots.take_of_none nothing
  refine ⟨unwanted, ?_⟩
  unfold Machine.without
  rw [same]

theorem taken_iff :
    (∃ entry, machine.taken? requestedPid = some entry) ↔
      ∃ entry ∈ machine.exitedChildren,
        entry.requested requestedPid = true := by
  constructor
  · rintro ⟨entry, taken⟩
    obtain ⟨requested, others⟩ := exitedChildren_of_taken taken
    exact ⟨entry, others.mem_iff.mpr List.mem_cons_self, requested⟩
  · rintro ⟨entry, among, requested⟩
    cases taken : machine.taken? requestedPid with
    | some other =>
        exact ⟨other, rfl⟩
    | none =>
        have unwanted := (exitedChildren_of_not_taken taken).1 entry among
        rw [requested] at unwanted
        cases unwanted

/-- How a wait ends. -/
inductive WaitEnds
    (machine : Machine)
    (requestedPid : Int32)
    (statusAddress rusageAddress : UInt64) :
    Outcome Machine UInt64 (Option ChildEntry) → Prop where
  | nothing
      (nothing : machine.taken? requestedPid = none) :
      WaitEnds machine requestedPid statusAddress rusageAddress
        (.ok none machine)
  | noChild
      (nothing : machine.taken? requestedPid = none) :
      WaitEnds machine requestedPid statusAddress rusageAddress
        (.err echild machine)
  | reported
      {entry : ChildEntry}
      {middle last : UInt64 → UInt8}
      (taken : machine.taken? requestedPid = some entry)
      (receives :
        machine.Receives statusAddress 4 ∧
          machine.Receives rusageAddress 144)
      (status :
        statusAddress ≠ 0 →
        Stored machine.space statusAddress (statusBytes entry.status)
          machine.bytes middle)
      (usage :
        rusageAddress ≠ 0 →
        Stored machine.space rusageAddress (List.replicate 144 0) middle
          last)
      (noUsage : rusageAddress = 0 → last = middle) :
      WaitEnds machine requestedPid statusAddress rusageAddress
        (.ok (some entry)
          { machine.without requestedPid with bytes := last })
  | fault
      {entry : ChildEntry}
      {bytes : UInt64 → UInt8}
      (taken : machine.taken? requestedPid = some entry)
      (unable :
        ¬ (machine.Receives statusAddress 4 ∧
            machine.Receives rusageAddress 144)) :
      WaitEnds machine requestedPid statusAddress rusageAddress
        (.err efault { machine.without requestedPid with bytes := bytes })
  | stuck :
      WaitEnds machine requestedPid statusAddress rusageAddress .hang

theorem waitEnds
    (machine : Machine)
    (requestedPid : Int32)
    (statusAddress options rusageAddress : UInt64) :
    WaitEnds machine requestedPid statusAddress rusageAddress
      (waitForChild requestedPid statusAddress options rusageAddress
        machine) := by
  unfold waitForChild
  rw [Prog.bind_of_ok (takeExitedChild_apply requestedPid machine)]
  cases taken : machine.taken? requestedPid with
  | none =>
      rw [(exitedChildren_of_not_taken taken).2]
      dsimp only
      split
      · exact .nothing taken
      · exact .noChild taken
  | some entry =>
      dsimp only
      have statusLength := length_statusBytes entry.status
      have statusIff :=
        @copyOutIfGiven_returns_iff statusAddress (statusBytes entry.status)
          (machine.without requestedPid) (by rw [statusLength]; decide)
      rw [statusLength] at statusIff
      rcases @copyOutIfGiven_eq statusAddress (statusBytes entry.status)
          (machine.without requestedPid) with
          ⟨middle, copied⟩ | ⟨bytes, failed⟩ | stuck
      · rw [Prog.bind_of_ok copied]
        have received := statusIff.mp ⟨_, copied⟩
        have usageIff :=
          @copyOutIfGiven_returns_iff rusageAddress (List.replicate 144 0)
            { machine.without requestedPid with bytes := middle }
            (by rw [List.length_replicate]; decide)
        rw [List.length_replicate] at usageIff
        rcases @copyOutIfGiven_eq rusageAddress (List.replicate 144 0)
            { machine.without requestedPid with bytes := middle } with
            ⟨last, used⟩ | ⟨bytes, failed⟩ | stuck
        · rw [Prog.bind_of_ok used]
          refine @WaitEnds.reported _ _ _ _ entry middle last taken
            ⟨received, usageIff.mp ⟨_, used⟩⟩ ?_ ?_ ?_
          · intro given
            have stored := copyOutIfGiven_stored given copied
            exact stored
          · intro given
            have stored := copyOutIfGiven_stored given used
            exact stored
          · intro absent
            rw [copyOutIfGiven, absent, if_neg (not_not.mpr rfl)] at used
            exact (congrArg Machine.bytes (Outcome.ok.inj used).2).symm
        · rw [Prog.bind_of_err failed]
          refine .fault taken fun receives => ?_
          obtain ⟨final, returned⟩ := usageIff.mpr receives.2
          rw [failed] at returned
          cases returned
        · rw [Prog.bind_of_hang stuck]
          exact .stuck
      · rw [Prog.bind_of_err failed]
        refine .fault taken fun receives => ?_
        obtain ⟨final, returned⟩ := statusIff.mpr receives.1
        rw [failed] at returned
        cases returned
      · rw [Prog.bind_of_hang stuck]
        exact .stuck

/-! ## Steps -/

theorem perm_eraseP
    {unreported : List Exited}
    {entries : List ChildEntry}
    {entry : ChildEntry}
    (same : (entry :: entries).Perm (unreported.map Exited.entry)) :
    entries.Perm
      ((unreported.eraseP fun child => child.entry == entry).map
        Exited.entry) := by
  have among : entry ∈ unreported.map Exited.entry :=
    same.mem_iff.mp List.mem_cons_self
  obtain ⟨child, childAmong, isEntry⟩ := List.mem_map.mp among
  obtain ⟨found, before, after, _, isFound, split, erased⟩ :=
    @List.exists_of_eraseP _ (fun child => child.entry == entry) _ _
      childAmong (beq_iff_eq.mpr isEntry)
  rw [beq_iff_eq] at isFound
  rw [erased]
  rw [split, List.map_append, List.map_cons, isFound] at same
  rw [List.map_append]
  exact (same.trans List.perm_middle).cons_inv

theorem accounted_step
    {before after : Traced}
    (step : Step Careful before after)
    (accounted : before.Accounted) :
    after.Accounted := by
  obtain ⟨call, careful, ended⟩ := step
  cases call with
  | wait4 requestedPid statusAddress options rusageAddress =>
      unfold Traced.after at ended
      rw [Call.run] at ended
      have ends :=
        waitEnds before.machine requestedPid statusAddress options
          rusageAddress
      generalize result :
        waitForChild requestedPid statusAddress options rusageAddress
          before.machine = outcome at ends
      cases ends with
      | nothing nothing =>
          rw [Prog.bind_of_ok result] at ended
          cases ended
          exact accounted
      | noChild nothing =>
          rw [Prog.bind_of_err result] at ended
          cases ended
          exact accounted
      | reported taken receives status usage noUsage =>
          rw [Prog.bind_of_ok result] at ended
          cases ended
          obtain ⟨_, others⟩ := exitedChildren_of_taken taken
          exact perm_eraseP (others.symm.trans accounted)
      | fault taken unable =>
          exact absurd (careful (taken_iff.mp ⟨_, taken⟩)) unable
      | stuck =>
          rw [Prog.bind_of_hang result] at ended
          cases ended
  | exit code =>
      cases does_of_after ended with
      | forked _ isFork =>
          cases isFork
      | refused _ isFork =>
          cases isFork
      | exited active =>
          exact (Slots.entries_put rfl (careful active)).trans
            (accounted.cons _)
  | fork childCr3 =>
      cases does_of_after ended <;> exact accounted
  | vfork =>
      cases does_of_after ended <;> exact accounted
  | execve cr3 =>
      cases does_of_after ended <;> exact accounted
  | elsewhere other =>
      cases does_of_after ended <;> exact accounted

theorem not_accounted_of_careless
    {before after : Traced}
    {call : Call}
    (accounted : before.Accounted)
    (careless : ¬ Careful before call)
    (ended : before.after call = some after) :
    ¬ after.Accounted := by
  intro still
  have count := accounted.length_eq
  have countAfter := still.length_eq
  rw [List.length_map] at count countAfter
  cases call with
  | wait4 requestedPid statusAddress options rusageAddress =>
      simp only [Careful, Classical.not_imp] at careless
      obtain ⟨found, unable⟩ := careless
      obtain ⟨entry, taken⟩ := taken_iff.mpr found
      unfold Traced.after at ended
      rw [Call.run] at ended
      have ends :=
        waitEnds before.machine requestedPid statusAddress options
          rusageAddress
      generalize result :
        waitForChild requestedPid statusAddress options rusageAddress
          before.machine = outcome at ends
      cases ends with
      | nothing nothing =>
          rw [taken] at nothing
          cases nothing
      | noChild nothing =>
          rw [taken] at nothing
          cases nothing
      | reported _ receives _ _ _ =>
          exact unable receives
      | fault alsoTaken _ =>
          rw [Prog.bind_of_err result] at ended
          cases ended
          have others := (exitedChildren_of_taken alsoTaken).2.length_eq
          rw [List.length_cons] at others
          exact absurd (others.symm.trans (count.trans countAfter.symm))
            (Nat.succ_ne_self _)
      | stuck =>
          rw [Prog.bind_of_hang result] at ended
          cases ended
  | exit code =>
      simp only [Careful, Classical.not_imp, not_exists, not_and] at careless
      obtain ⟨_, full⟩ := careless
      cases does_of_after ended with
      | forked _ isFork =>
          cases isFork
      | refused _ isFork =>
          cases isFork
      | exited active =>
          have same :
              (before.machine.resumed code).exitedChildren =
                before.machine.exitedChildren := by
            have stays :=
              @Slots.put_of_full _ ChildEntry.used
                ⟨true, before.machine.childPid, statusOf code⟩
                before.machine.children
                fun slot among => Bool.not_eq_false _ ▸ full slot among
            exact congrArg (Slots.entries ChildEntry.used) stays
          rw [same, count, List.length_cons] at countAfter
          exact absurd countAfter.symm (Nat.succ_ne_self _)
  | _ =>
      exact absurd trivial careless

/-! ## Runs -/

/-- What waiting finds: each child that has exited, until it is reported. -/
structure Traced.Reaps (traced : Traced) : Prop where
  /-- A child that was not reported can be waited for. -/
  available :
    ∀ child ∈ traced.unreported,
      ∀ requestedPid,
        child.entry.requested requestedPid = true →
        ∃ entry machine,
          waitForChild requestedPid 0 0 0 traced.machine =
            .ok (some entry) machine
  /-- A report is about such a child, and about no other one. -/
  reported :
    ∀ requestedPid statusAddress options rusageAddress entry machine,
      waitForChild requestedPid statusAddress options rusageAddress
          traced.machine =
        .ok (some entry) machine →
      ∃ child ∈ traced.unreported,
        entry = child.entry ∧
          entry.requested requestedPid = true ∧
          machine.exitedChildren.Perm
            ((traced.unreported.erase child).map Exited.entry) ∧
          (statusAddress ≠ 0 →
            ∃ bytes,
              Stored traced.machine.space statusAddress
                  (statusBytes (statusOf child.code)) traced.machine.bytes
                  bytes ∧
                (rusageAddress = 0 → machine.bytes = bytes))
  /-- A wait that fails leaves the children that can be waited for. -/
  unchanged :
    ∀ requestedPid statusAddress options rusageAddress error machine,
      Careful traced
        (.wait4 requestedPid statusAddress options rusageAddress) →
      waitForChild requestedPid statusAddress options rusageAddress
          traced.machine =
        .err error machine →
      machine.exitedChildren = traced.machine.exitedChildren

/-- A table that accounts for the children reports them. -/
theorem Traced.Accounted.reaps
    {traced : Traced}
    (accounted : traced.Accounted) :
    traced.Reaps := by
  constructor
  · intro child among requestedPid requested
    have inTable : child.entry ∈ traced.machine.exitedChildren :=
      accounted.mem_iff.mpr (List.mem_map_of_mem among)
    obtain ⟨entry, taken⟩ := taken_iff.mpr ⟨_, inTable, requested⟩
    refine ⟨entry, traced.machine.without requestedPid, ?_⟩
    unfold waitForChild
    rw [Prog.bind_of_ok (takeExitedChild_apply requestedPid traced.machine),
      taken]
    rfl
  · intro requestedPid statusAddress options rusageAddress entry machine
      returned
    have ends :=
      waitEnds traced.machine requestedPid statusAddress options
        rusageAddress
    rw [returned] at ends
    cases ends with
    | reported taken receives status usage noUsage =>
        obtain ⟨requested, others⟩ := exitedChildren_of_taken taken
        have inTable : entry ∈ traced.unreported.map Exited.entry :=
          accounted.mem_iff.mp (others.mem_iff.mpr List.mem_cons_self)
        obtain ⟨child, among, isEntry⟩ := List.mem_map.mp inTable
        refine ⟨child, among, isEntry.symm, requested, ?_, ?_⟩
        · have split := (List.perm_cons_erase among).map Exited.entry
          rw [List.map_cons, isEntry] at split
          exact ((others.symm.trans accounted).trans split).cons_inv
        · intro given
          refine ⟨_, ?_, noUsage⟩
          have stored := status given
          rw [← isEntry] at stored
          exact stored
  · intro requestedPid statusAddress options rusageAddress error machine
      careful failed
    have ends :=
      waitEnds traced.machine requestedPid statusAddress options
        rusageAddress
    rw [failed] at ends
    cases ends with
    | noChild _ =>
        rfl
    | fault taken unable =>
        exact absurd (careful (taken_iff.mp ⟨_, taken⟩)) unable

theorem Traced.Starts.accounted
    {traced : Traced}
    (starts : traced.Starts) :
    traced.Accounted := by
  unfold Traced.Accounted Machine.exitedChildren
  rw [starts.children, starts.unreported]
  exact List.Perm.nil

/--
In a run of careful calls every child that has exited can be waited for until
a wait reports it, with the status of its exit code, and then no more; and a
call that is not careful leaves a table that does not account for them.
-/
theorem children_reaped_once
    {initial : Traced}
    (starts : initial.Starts) :
    (∀ final : Traced,
        Run Careful initial final →
        final.Accounted ∧ final.Reaps) ∧
      ∀ (before after : Traced) (call : Call),
        Run Careful initial before →
        ¬ Careful before call →
        before.after call = some after →
        ¬ after.Accounted := by
  have account (final : Traced)
      (run : Run Careful initial final) :
      final.Accounted :=
    invariant_of_run Traced.Accounted
      (fun _ _ step => accounted_step step) run starts.accounted
  constructor
  · intro final run
    have accounted := account final run
    exact ⟨accounted, accounted.reaps⟩
  · intro before after call run careless ended
    exact not_accounted_of_careless (account before run) careless ended

/-! ## Children that are never reported -/

/-- The state after some calls that come back. -/
def Traced.afterAll : List Call → Traced → Option Traced
  | [], traced => some traced
  | call :: rest, traced =>
      match traced.after call with
      | some middle => middle.afterAll rest
      | none => none

theorem run_of_afterAll
    {calls : List Call}
    {traced final : Traced}
    (ended : traced.afterAll calls = some final) :
    Run (fun _ _ => True) traced final := by
  induction calls generalizing traced with
  | nil =>
      cases ended
      exact .refl
  | cons call rest inductionHypothesis =>
      rw [Traced.afterAll] at ended
      cases result : traced.after call with
      | none =>
          rw [result] at ended
          cases ended
      | some middle =>
          rw [result] at ended
          exact .head ⟨call, trivial, result⟩ (inductionHypothesis ended)

/-- A child exits, and the wait for it has an unmapped status pointer. -/
def faultingWait : List Call :=
  [.vfork, .exit 7, .wait4 (-1) 8 0 0]

/-- Seventeen children exit, and nobody waits. -/
def seventeenChildren : List Call :=
  (List.replicate 17 [Call.vfork, Call.exit 7]).flatten

/-- The state in which some calls leave the first process. -/
def firstAfter (calls : List Call) : Traced :=
  (firstProcess.afterAll calls).getD firstProcess

theorem run_firstAfter
    {calls : List Call}
    (comeBack : (firstProcess.afterAll calls).isSome = true) :
    Run (fun _ _ => True) firstProcess (firstAfter calls) := by
  obtain ⟨final, ended⟩ := Option.isSome_iff_exists.mp comeBack
  rw [firstAfter, ended]
  exact run_of_afterAll ended

/-- After a wait that could not copy the status, its child is gone. -/
theorem children_lost :
    ¬ ∀ initial final : Traced,
        initial.Starts →
        Run (fun _ _ => True) initial final →
        final.Reaps := by
  intro claimed
  have reaps :=
    claimed _ _ starts_firstProcess
      (@run_firstAfter faultingWait (by decide +kernel))
  have unreported :
      (firstAfter faultingWait).unreported = [⟨2, 7⟩] := by
    decide +kernel
  have among : ⟨2, 7⟩ ∈ (firstAfter faultingWait).unreported := by
    rw [unreported]
    exact List.mem_cons_self
  obtain ⟨entry, machine, returned⟩ :=
    reaps.available _ among (-1) (by decide)
  have refused :
      (waitForChild (-1) 0 0 0 (firstAfter faultingWait).machine).value?
        = none := by
    decide +kernel
  rw [returned] at refused
  cases refused

-- The table has no slot for the seventeenth child.
example :
    ((firstAfter seventeenChildren).unreported.length,
        (firstAfter seventeenChildren).machine.exitedChildren.length) =
      (17, 16) := by
  decide +kernel

/-- The first child that has exited can be waited for. -/
theorem child_reaped :
    (firstAfter [.vfork, .exit 7]).unreported = [⟨2, 7⟩] ∧
      (firstAfter [.vfork, .exit 7]).Reaps := by
  have starts : Step Careful firstProcess (firstAfter [.vfork]) :=
    ⟨.vfork, by exact trivial, rfl⟩
  have free :
      ∃ slot ∈ (firstAfter [.vfork]).machine.children, slot.used = false :=
    ⟨ChildEntry.empty, List.mem_cons_self, rfl⟩
  have exits :
      Step Careful (firstAfter [.vfork]) (firstAfter [.vfork, .exit 7]) :=
    ⟨.exit 7, fun _ => free, rfl⟩
  exact ⟨rfl,
    ((children_reaped_once starts_firstProcess).1 _
      (.tail (.single starts) exits)).2⟩

end VibuxOS.Process
