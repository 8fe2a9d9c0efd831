import VibuxOS.Storage.Nvme

namespace VibuxOS.Storage.Nvme

open VibuxOS.Lib

/-!
# Completion safety

A command id says which command a completion is for only while no other
command of the queue carries it.  The host does not see to that: it moves on to
the next id only when a call returns `Ok`.  In runs where a call is made with
an id that is not outstanding, and where the device reports no failure under
status code 0, `Ok` means that the command queued by the call has been executed
and completed with success.
-/

variable
  {cid : Nat}
  {command : Command}

/-! ## Ring entries -/

theorem or_shiftLeft
    {low : Nat}
    (high width : Nat)
    (inside : low < 2 ^ width) :
    low ||| high <<< width = low + high * 2 ^ width := by
  rw [Nat.or_comm, ← Nat.shiftLeft_add_eq_or_of_lt inside,
    Nat.shiftLeft_eq, Nat.add_comm]

theorem commandId_commandWords
    (isCid : cid < 2 ^ 16)
    (opcode : UInt8)
    (nsid : UInt32)
    (prp1 : UInt64)
    (cdw10 cdw11 cdw12 : UInt32) :
    commandId
        (commandWords opcode cid nsid prp1 cdw10 cdw11 cdw12) =
      cid := by
  have isOpcode : opcode.toNat < 2 ^ 8 := opcode.toNat_lt
  simp only [commandId, commandWords]
  rw [or_shiftLeft _ _ (by omega), Nat.shiftRight_eq_div_pow]
  omega

theorem Request.commandId_words
    (isCid : cid < 2 ^ 16)
    {dataPhys : UInt64}
    {request : Request}
    {words : Nat → Nat}
    (accepted : request.words cid dataPhys = .ok words) :
    commandId words = cid := by
  cases request with
  | ioTransfer opcode lba count =>
      simp only [Request.words] at accepted
      split at accepted
      · simp at accepted
      · cases Except.ok.inj accepted
        exact commandId_commandWords isCid _ _ _ _ _ _
  | submitAdmin opcode nsid prp1 cdw10 cdw11 cdw12 =>
      cases accepted
      exact commandId_commandWords isCid _ _ _ _ _ _
  | flush =>
      cases accepted
      exact commandId_commandWords isCid _ _ _ _ _ _
  | writeZeroes lba count =>
      simp only [Request.words] at accepted
      split at accepted
      · simp at accepted
      · cases Except.ok.inj accepted
        exact commandId_commandWords isCid _ _ _ _ _ _

theorem decode_completionWord
    {cid statusType statusCode phase : Nat}
    (isCid : cid < 2 ^ 16)
    (isType : statusType < 2 ^ 3)
    (isCode : statusCode < 2 ^ 8)
    (isPhase : phase < 2)
    (serial number : Nat)
    (consumed : Bool) :
    let entry : Completion :=
      ⟨completionWord cid statusType statusCode phase, serial, number,
        consumed⟩
    entry.gotCid = cid ∧
      entry.phaseBit = phase ∧
      entry.statusCode = statusCode ∧
      entry.statusType = statusType := by
  have status :
      phase ||| statusCode <<< 1 ||| statusType <<< 9 =
        phase + statusCode * 2 ^ 1 + statusType * 2 ^ 9 := by
    have inner : phase ||| statusCode <<< 1 = phase + statusCode * 2 ^ 1 :=
      or_shiftLeft _ _ isPhase
    rw [inner, or_shiftLeft _ _ (by omega)]
  have word :
      completionWord cid statusType statusCode phase =
        cid +
          (phase + statusCode * 2 ^ 1 + statusType * 2 ^ 9) * 2 ^ 16 := by
    unfold completionWord
    rw [status, or_shiftLeft _ _ isCid]
  simp only [Completion.gotCid, Completion.phaseBit,
    Completion.statusCode, Completion.statusType,
    Completion.rawStatus, word, Nat.shiftRight_eq_div_pow]
  omega

/-! ## One pair of queues -/

namespace Queue

/-- A command that can still be completed, or whose completion can still be read. -/
def Outstanding
    (depth : Nat)
    (queue : Queue)
    (cid serial : Nat) : Prop :=
  (∃ slot,
      InGap depth queue.fetchedTo queue.doorbell slot ∧
        commandId (queue.sq slot).words = cid ∧
        (queue.sq slot).serial = serial) ∨
    (∃ fetched ∈ queue.inFlight,
        commandId fetched.command.words = cid ∧
          fetched.command.serial = serial) ∨
    ∃ slot,
      slot < depth ∧
        (queue.cq slot).consumed = false ∧
        (queue.cq slot).gotCid = cid ∧
        (queue.cq slot).serial = serial

/-- The phase that the host expects when it next comes to a slot. -/
def expectedPhase (queue : Queue) (slot : Nat) : Nat :=
  if slot < queue.head then 1 - queue.phase else queue.phase

/-- What one pair of queues keeps, given the logs of the device. -/
structure Trusted
    (depth : Nat)
    (executed : List Nat)
    (completed : List (Nat × Nat × Nat))
    (queue : Queue) : Prop where
  tail : queue.tail < depth
  head : queue.head < depth
  fetchedTo : queue.fetchedTo < depth
  rung : queue.doorbell = queue.tail
  phase : queue.phase < 2
  devicePhase : queue.devicePhase < 2
  stale :
    ∀ {slot},
      slot < depth →
      (queue.cq slot).consumed = true →
      (queue.cq slot).phaseBit ≠ queue.expectedPhase slot
  posted :
    ∀ {slot},
      slot < depth →
      (queue.cq slot).consumed = false →
      (queue.cq slot).serial ∈ executed ∧
        ((queue.cq slot).serial, (queue.cq slot).statusType,
            (queue.cq slot).statusCode) ∈
          completed ∧
        ((queue.cq slot).statusCode = 0 →
          (queue.cq slot).statusType = 0)
  executed :
    ∀ {command},
      ⟨command, true⟩ ∈ queue.inFlight →
      command.serial ∈ executed

namespace Trusted

variable
  {depth : Nat}
  {executed : List Nat}
  {completed : List (Nat × Nat × Nat)}
  {queue : Queue}

section

variable (trusted : Trusted depth executed completed queue)

include trusted

theorem mono
    {moreExecuted : List Nat}
    {moreCompleted : List (Nat × Nat × Nat)}
    (executedSubset : executed ⊆ moreExecuted)
    (completedSubset : completed ⊆ moreCompleted) :
    Trusted depth moreExecuted moreCompleted queue where
  tail := trusted.tail
  head := trusted.head
  fetchedTo := trusted.fetchedTo
  rung := trusted.rung
  phase := trusted.phase
  devicePhase := trusted.devicePhase
  stale := trusted.stale
  posted := by
    intro slot inside unconsumed
    obtain ⟨wasExecuted, wasCompleted, success⟩ :=
      trusted.posted inside unconsumed
    exact ⟨executedSubset wasExecuted, completedSubset wasCompleted,
      success⟩
  executed := fun member => executedSubset (trusted.executed member)

theorem submit
    (command : Command) :
    Trusted depth executed completed (queue.submit depth command) where
  tail := Nat.mod_lt _ (Nat.zero_lt_of_lt trusted.tail)
  head := trusted.head
  fetchedTo := trusted.fetchedTo
  rung := rfl
  phase := trusted.phase
  devicePhase := trusted.devicePhase
  stale := trusted.stale
  posted := trusted.posted
  executed := trusted.executed

theorem outstanding_submit
    {cid serial : Nat}
    (outstanding :
      (queue.submit depth command).Outstanding depth cid serial) :
    serial = command.serial ∨ queue.Outstanding depth cid serial := by
  rcases outstanding with
      ⟨slot, inGap, sameCid, sameSerial⟩ | inDevice | onQueue
  · have tailInside := trusted.tail
    rw [← trusted.rung] at tailInside
    have oldGap :
        InGap depth queue.fetchedTo
          (nextPosition depth queue.doorbell) slot := by
      rw [trusted.rung]
      exact inGap
    rcases inGap_of_next_stop trusted.fetchedTo tailInside oldGap with
        atTail | before
    · left
      rw [trusted.rung] at atTail
      subst slot
      simpa [Queue.submit] using sameSerial.symm
    · right
      left
      have notTail : slot ≠ queue.tail := by
        rintro rfl
        have ordered := before.2
        rw [trusted.rung] at ordered
        exact Nat.lt_irrefl _ ordered
      refine ⟨slot, before, ?_⟩
      simp only [Queue.submit, Function.update_of_ne notTail]
        at sameCid sameSerial
      exact ⟨sameCid, sameSerial⟩
  · exact Or.inr (Or.inr (Or.inl inDevice))
  · exact Or.inr (Or.inr (Or.inr onQueue))

theorem consume
    (matched :
      (queue.cq queue.head).phaseBit = queue.phase) :
    Trusted depth executed completed (queue.consume depth) := by
  have headInside := trusted.head
  have isPhase := trusted.phase
  have flipped := xor_one isPhase
  refine {
    tail := trusted.tail
    head := ?_
    fetchedTo := trusted.fetchedTo
    rung := trusted.rung
    phase := ?_
    devicePhase := trusted.devicePhase
    stale := ?_
    posted := ?_
    executed := trusted.executed
  }
  · simp only [Queue.consume]
    split <;> omega
  · simp only [Queue.consume, flipped]
    split <;> omega
  · intro slot inside consumed
    by_cases atHead : slot = queue.head
    · subst slot
      have samePhase :
          ((queue.consume depth).cq queue.head).phaseBit =
            queue.phase := by
        simp only [Queue.consume, Function.update_self]
        exact matched
      rw [samePhase]
      simp only [expectedPhase, Queue.consume, flipped]
      split <;> split <;> omega
    · have sameEntry :
          (queue.consume depth).cq slot = queue.cq slot := by
        simp only [Queue.consume, Function.update_of_ne atHead]
      rw [sameEntry] at consumed ⊢
      have different := trusted.stale inside consumed
      have sameExpected :
          (queue.consume depth).expectedPhase slot =
            queue.expectedPhase slot := by
        simp only [expectedPhase, Queue.consume, flipped]
        split <;> split <;> split <;> omega
      rwa [sameExpected]
  · intro slot inside unconsumed
    by_cases atHead : slot = queue.head
    · subst slot
      simp [Queue.consume] at unconsumed
    · have sameEntry :
          (queue.consume depth).cq slot = queue.cq slot := by
        simp only [Queue.consume, Function.update_of_ne atHead]
      rw [sameEntry] at unconsumed ⊢
      exact trusted.posted inside unconsumed

theorem fetch :
    Trusted depth executed completed (queue.fetch depth) where
  tail := trusted.tail
  head := trusted.head
  fetchedTo := Nat.mod_lt _ (Nat.zero_lt_of_lt trusted.tail)
  rung := trusted.rung
  phase := trusted.phase
  devicePhase := trusted.devicePhase
  stale := trusted.stale
  posted := trusted.posted
  executed := by
    intro command member
    simp only [Queue.fetch, List.mem_append, List.mem_singleton,
      Fetched.mk.injEq, Bool.true_eq_false, and_false, or_false]
      at member
    exact trusted.executed member

theorem outstanding_fetch
    (nonempty : queue.fetchedTo ≠ queue.doorbell)
    {cid serial : Nat}
    (outstanding :
      (queue.fetch depth).Outstanding depth cid serial) :
    queue.Outstanding depth cid serial := by
  have stopInside : queue.doorbell < depth := by
    rw [trusted.rung]
    exact trusted.tail
  rcases outstanding with
      ⟨slot, inGap, same⟩ | ⟨fetched, member, same⟩ | onQueue
  · exact Or.inl ⟨slot,
      inGap_of_next_start trusted.fetchedTo stopInside nonempty inGap,
      same⟩
  · simp only [Queue.fetch, List.mem_append, List.mem_singleton]
      at member
    rcases member with already | isNew
    · exact Or.inr (Or.inl ⟨fetched, already, same⟩)
    · subst fetched
      exact Or.inl ⟨queue.fetchedTo,
        inGap_start trusted.fetchedTo stopInside nonempty, same⟩
  · exact Or.inr (Or.inr onQueue)

theorem execute
    {front back : List Fetched}
    (inDevice : queue.inFlight = front ++ ⟨command, false⟩ :: back) :
    Trusted depth (executed ++ [command.serial]) completed
      { queue with inFlight := front ++ ⟨command, true⟩ :: back } := by
  have grown :=
    trusted.mono (List.subset_append_left executed [command.serial])
      (List.Subset.refl completed)
  refine {
    tail := grown.tail
    head := grown.head
    fetchedTo := grown.fetchedTo
    rung := grown.rung
    phase := grown.phase
    devicePhase := grown.devicePhase
    stale := grown.stale
    posted := grown.posted
    executed := ?_
  }
  intro other member
  simp only [List.mem_append, List.mem_cons, Fetched.mk.injEq,
    and_true] at member
  rcases member with inFront | isThis | inBack
  · refine grown.executed ?_
    rw [inDevice]
    exact List.mem_append_left _ inFront
  · subst other
    simp
  · refine grown.executed ?_
    rw [inDevice]
    exact List.mem_append_right _ (List.mem_cons_of_mem _ inBack)

end

theorem outstanding_execute
    {front back : List Fetched}
    (inDevice : queue.inFlight = front ++ ⟨command, false⟩ :: back)
    {cid serial : Nat}
    (outstanding :
      Outstanding depth
        { queue with inFlight := front ++ ⟨command, true⟩ :: back }
        cid serial) :
    queue.Outstanding depth cid serial := by
  rcases outstanding with
      queued | ⟨fetched, member, same⟩ | onQueue
  · exact Or.inl queued
  · right
    left
    rw [inDevice]
    simp only [List.mem_append, List.mem_cons] at member
    rcases member with inFront | isThis | inBack
    · exact ⟨fetched, List.mem_append_left _ inFront, same⟩
    · subst fetched
      exact ⟨⟨command, false⟩,
        List.mem_append_right _ List.mem_cons_self, same⟩
    · exact ⟨fetched,
        List.mem_append_right _ (List.mem_cons_of_mem _ inBack), same⟩
  · exact Or.inr (Or.inr onQueue)

section

variable
  {front back : List Fetched}
  {statusType statusCode : Nat}
  (trusted : Trusted depth executed completed queue)
  (inDevice : queue.inFlight = front ++ ⟨command, true⟩ :: back)
  (isType : statusType < 2 ^ 3)
  (isCode : statusCode < 2 ^ 8)

include trusted inDevice isType isCode

theorem post
    (truthful : statusCode = 0 → statusType = 0) :
    Trusted depth executed
      (completed ++ [(command.serial, statusType, statusCode)])
      (queue.post depth command statusType statusCode
        (front ++ back)) := by
  have grown :=
    trusted.mono (List.Subset.refl executed)
      (List.subset_append_left completed
        [(command.serial, statusType, statusCode)])
  have isPhase := trusted.devicePhase
  have decoded :=
    @decode_completionWord (commandId command.words) statusType
      statusCode queue.devicePhase (Nat.mod_lt _ (by decide)) isType
      isCode isPhase command.serial queue.completions false
  have elsewhere :
      ∀ {slot},
        slot ≠ queue.postedTo →
        (queue.post depth command statusType statusCode
            (front ++ back)).cq slot =
          queue.cq slot := by
    intro slot other
    simp only [Queue.post, Function.update_of_ne other]
  refine {
    tail := grown.tail
    head := grown.head
    fetchedTo := grown.fetchedTo
    rung := grown.rung
    phase := grown.phase
    devicePhase := ?_
    stale := ?_
    posted := ?_
    executed := ?_
  }
  · simp only [Queue.post, xor_one isPhase]
    split <;> omega
  · intro slot inside consumed
    by_cases atPosted : slot = queue.postedTo
    · subst slot
      simp [Queue.post] at consumed
    · rw [elsewhere atPosted] at consumed ⊢
      exact grown.stale inside consumed
  · intro slot inside unconsumed
    by_cases atPosted : slot = queue.postedTo
    · subst slot
      have wasExecuted : command.serial ∈ executed := by
        refine trusted.executed ?_
        rw [inDevice]
        exact List.mem_append_right _ List.mem_cons_self
      simp only [Queue.post, Function.update_self, decoded.2.2.1,
        decoded.2.2.2]
      exact ⟨wasExecuted, by simp, truthful⟩
    · rw [elsewhere atPosted] at unconsumed ⊢
      exact grown.posted inside unconsumed
  · intro other member
    refine trusted.executed ?_
    rw [inDevice]
    simp only [Queue.post, List.mem_append] at member
    rcases member with inFront | inBack
    · exact List.mem_append_left _ inFront
    · exact List.mem_append_right _ (List.mem_cons_of_mem _ inBack)

theorem outstanding_post
    {cid serial : Nat}
    (outstanding :
      (queue.post depth command statusType statusCode
        (front ++ back)).Outstanding depth cid serial) :
    queue.Outstanding depth cid serial := by
  rcases outstanding with
      queued | ⟨fetched, member, same⟩ |
      ⟨slot, inside, unconsumed, sameCid, sameSerial⟩
  · exact Or.inl queued
  · right
    left
    rw [inDevice]
    simp only [Queue.post, List.mem_append] at member
    rcases member with inFront | inBack
    · exact ⟨fetched, List.mem_append_left _ inFront, same⟩
    · exact ⟨fetched,
        List.mem_append_right _ (List.mem_cons_of_mem _ inBack), same⟩
  · by_cases atPosted : slot = queue.postedTo
    · subst slot
      have decoded :=
        @decode_completionWord (commandId command.words) statusType
          statusCode queue.devicePhase (Nat.mod_lt _ (by decide))
          isType isCode trusted.devicePhase command.serial
          queue.completions false
      simp only [Queue.post, Function.update_self, decoded.1]
        at sameCid sameSerial
      right
      left
      rw [inDevice]
      exact ⟨⟨command, true⟩,
        List.mem_append_right _ List.mem_cons_self, sameCid, sameSerial⟩
    · simp only [Queue.post, Function.update_of_ne atPosted]
        at unconsumed sameCid sameSerial
      exact Or.inr (Or.inr
        ⟨slot, inside, unconsumed, sameCid, sameSerial⟩)

end

theorem unconsumed_of_matched
    (trusted : Trusted depth executed completed queue)
    (matched : (queue.cq queue.head).phaseBit = queue.phase) :
    (queue.cq queue.head).consumed = false := by
  by_contra consumed
  rw [Bool.not_eq_false] at consumed
  have different := trusted.stale trusted.head consumed
  unfold expectedPhase at different
  rw [if_neg (Nat.lt_irrefl _)] at different
  exact different matched

end Trusted

end Queue

/-! ## Runs -/

/-- Every call that returned `Ok` had its own command executed and completed with success. -/
def Truthful (state : State) : Prop :=
  ∀ call ∈ state.returns,
    call.verdict = .ok () →
    call.serial ∈ state.executed ∧
      (call.serial, 0, 0) ∈ state.completed

/-- Any step of host and device. -/
def anyStep (_ : State) (_ : Action) : Prop :=
  True

/--
A call is made only with a command id that nothing outstanding on its queue
carries, and the device reports no failure under status code 0.
-/
def careful (state : State) : Action → Prop
  | .call request =>
      ∀ serial,
        ¬ (state.queue request.queue).Outstanding state.queueDepth
            state.nextCid serial
  | .complete _ statusType statusCode =>
      statusCode = 0 → statusType = 0
  | _ => True

/-- What a careful run keeps. -/
structure Safe (state : State) : Prop where
  queues :
    ∀ queue,
      (state.queue queue).Trusted state.queueDepth state.executed
        state.completed
  own :
    ∀ {queue : QueueId} {cid serial number spins : Nat},
      state.host = .waiting queue cid serial number spins →
      ∀ {other},
        (state.queue queue).Outstanding state.queueDepth cid other →
        other = serial
  truthful : Truthful state

theorem forall_update
    {property : Queue → Prop}
    {queues : QueueId → Queue}
    {changed : QueueId}
    {queue : Queue}
    (others : ∀ other, property (queues other))
    (holds : property queue)
    (other : QueueId) :
    property (Function.update queues changed queue other) := by
  by_cases same : other = changed
  · subst other
    rwa [Function.update_self]
  · rw [Function.update_of_ne same]
    exact others other

theorem outstanding_update
    {depth cid serial : Nat}
    {queues : QueueId → Queue}
    {changed : QueueId}
    {queue : Queue}
    (fewer :
      queue.Outstanding depth cid serial →
      (queues changed).Outstanding depth cid serial)
    {other : QueueId}
    (outstanding :
      (Function.update queues changed queue other).Outstanding depth
        cid serial) :
    (queues other).Outstanding depth cid serial := by
  by_cases same : other = changed
  · subst other
    rw [Function.update_self] at outstanding
    exact fewer outstanding
  · rwa [Function.update_of_ne same] at outstanding

theorem Truthful.mono
    {before after : State}
    (truthful : Truthful before)
    (sameReturns : after.returns = before.returns)
    (executedSubset : before.executed ⊆ after.executed)
    (completedSubset : before.completed ⊆ after.completed) :
    Truthful after := by
  intro call member success
  rw [sameReturns] at member
  obtain ⟨wasExecuted, wasCompleted⟩ := truthful call member success
  exact ⟨executedSubset wasExecuted, completedSubset wasCompleted⟩

theorem Truthful.append
    {before after : State}
    {last : Return}
    (truthful : Truthful before)
    (returned : after.returns = before.returns ++ [last])
    (sameExecuted : after.executed = before.executed)
    (sameCompleted : after.completed = before.completed)
    (lastTruthful :
      last.verdict = .ok () →
      last.serial ∈ before.executed ∧
        (last.serial, 0, 0) ∈ before.completed) :
    Truthful after := by
  intro call member success
  rw [sameExecuted, sameCompleted]
  rw [returned, List.mem_append, List.mem_singleton] at member
  rcases member with earlier | isLast
  · exact truthful call earlier success
  · subst call
    exact lastTruthful success

theorem verdictOf_eq_ok
    {entry : Completion}
    (success : verdictOf cid entry = .ok ()) :
    entry.gotCid = cid ∧ entry.statusCode = 0 := by
  unfold verdictOf at success
  split at success
  case isTrue => simp at success
  case isFalse sameCid =>
    split at success
    case isTrue => simp at success
    case isFalse zeroCode =>
      exact ⟨by simpa using sameCid, by simpa using zeroCode⟩

namespace State

variable
  {state : State}
  {queue : QueueId}
  {cid serial number spins : Nat}

theorem poll_of_mismatched
    (mismatched :
      ((state.queue queue).cq (state.queue queue).head).phaseBit ≠
        (state.queue queue).phase) :
    state.poll queue cid serial number spins =
      { state with host := .waiting queue cid serial number spins } :=
  if_pos mismatched

theorem poll_of_matched
    (matched :
      ((state.queue queue).cq (state.queue queue).head).phaseBit =
        (state.queue queue).phase) :
    state.poll queue cid serial number spins =
      { state with
        queue :=
          Function.update state.queue queue
            ((state.queue queue).consume state.queueDepth)
        nextCid :=
          match
            verdictOf cid
              ((state.queue queue).cq (state.queue queue).head)
          with
          | .ok () => bumpCid state.nextCid
          | .error _ => state.nextCid
        host := .idle
        returns :=
          state.returns ++
            [{ queue := queue
               serial := serial
               number := number
               taken :=
                 some
                   ((state.queue queue).cq
                     (state.queue queue).head).number
               verdict :=
                 verdictOf cid
                   ((state.queue queue).cq
                     (state.queue queue).head) }] } :=
  if_neg (not_not.mpr matched)

end State

namespace Safe

/-- Taking the entry at the head keeps a careful run safe. -/
theorem poll
    {state : State}
    (safe : Safe state)
    {queue : QueueId}
    {cid serial number spins : Nat}
    (waiting :
      state.host = .waiting queue cid serial number (spins + 1)) :
    Safe (state.poll queue cid serial number spins) := by
  by_cases matched :
      ((state.queue queue).cq (state.queue queue).head).phaseBit =
        (state.queue queue).phase
  case neg =>
    rw [State.poll_of_mismatched matched]
    refine ⟨safe.queues, ?_, safe.truthful⟩
    intro _ _ _ _ _ waits
    cases waits
    exact safe.own waiting
  case pos =>
    rw [State.poll_of_matched matched]
    have trusted := safe.queues queue
    refine ⟨?_, ?_, ?_⟩
    · exact forall_update safe.queues (trusted.consume matched)
    · intro _ _ _ _ _ waits
      simp at waits
    · refine safe.truthful.append rfl rfl rfl ?_
      intro success
      obtain ⟨sameCid, zeroCode⟩ := verdictOf_eq_ok success
      have unconsumed := trusted.unconsumed_of_matched matched
      have isOwn :
          ((state.queue queue).cq (state.queue queue).head).serial =
            serial :=
        safe.own waiting
          (Or.inr (Or.inr
            ⟨_, trusted.head, unconsumed, sameCid, rfl⟩))
      obtain ⟨wasExecuted, wasCompleted, zeroType⟩ :=
        trusted.posted trusted.head unconsumed
      rw [isOwn] at wasExecuted wasCompleted
      rw [zeroType zeroCode, zeroCode] at wasCompleted
      exact ⟨wasExecuted, wasCompleted⟩

theorem step
    {before after : State}
    (taken : StepWhere careful before after)
    (safe : Safe before) :
    Safe after := by
  obtain ⟨action, allowed, taken⟩ := taken
  cases taken with
  | reject =>
      exact safe
  | @call request words idle accepted =>
      have trusted := safe.queues request.queue
      refine ⟨?_, ?_, ?_⟩
      · exact forall_update safe.queues (trusted.submit _)
      · intro _ _ _ _ _ waits other outstanding
        cases waits
        simp only [State.submit, Function.update_self] at outstanding
        rcases trusted.outstanding_submit outstanding with
            isNew | already
        · exact isNew
        · exact (allowed other already).elim
      · exact safe.truthful
  | poll waiting =>
      exact safe.poll waiting
  | giveUp =>
      refine ⟨safe.queues, ?_, ?_⟩
      · intro _ _ _ _ _ waits
        simp [State.giveUp] at waits
      · refine safe.truthful.append rfl rfl rfl ?_
        intro success
        simp at success
  | @fetch queue nonempty =>
      have trusted := safe.queues queue
      refine ⟨?_, ?_, ?_⟩
      · exact forall_update safe.queues trusted.fetch
      · intro _ _ _ _ _ waits _ outstanding
        exact safe.own waits
          (outstanding_update (trusted.outstanding_fetch nonempty)
            outstanding)
      · exact safe.truthful
  | @execute queue command front back inDevice =>
      have trusted := safe.queues queue
      refine ⟨?_, ?_, ?_⟩
      · refine forall_update ?_ (trusted.execute inDevice)
        intro other
        exact (safe.queues other).mono (List.subset_append_left _ _)
          (List.Subset.refl _)
      · intro _ _ _ _ _ waits _ outstanding
        exact safe.own waits
          (outstanding_update
            (Queue.Trusted.outstanding_execute inDevice) outstanding)
      · exact safe.truthful.mono rfl (List.subset_append_left _ _)
          (List.Subset.refl _)
  | @complete queue command front back statusType statusCode inDevice
      isType isCode =>
      have trusted := safe.queues queue
      refine ⟨?_, ?_, ?_⟩
      · refine forall_update ?_
          (trusted.post inDevice isType isCode allowed)
        intro other
        exact (safe.queues other).mono (List.Subset.refl _)
          (List.subset_append_left _ _)
      · intro _ _ _ _ _ waits _ outstanding
        exact safe.own waits
          (outstanding_update
            (trusted.outstanding_post inDevice isType isCode)
            outstanding)
      · exact safe.truthful.mono rfl (List.Subset.refl _)
          (List.subset_append_left _ _)

theorem initial
    {queueDepth : Nat}
    (positive : 0 < queueDepth)
    (dataPhys : UInt64) :
    Safe (State.initial queueDepth dataPhys) where
  queues := by
    intro queue
    refine {
      tail := positive
      head := positive
      fetchedTo := positive
      rung := rfl
      phase := Nat.lt_succ_self 1
      devicePhase := Nat.lt_succ_self 1
      stale := ?_
      posted := ?_
      executed := ?_
    }
    · intro slot _ _
      simp [State.initial, Queue.initial, Queue.expectedPhase,
        Completion.phaseBit, Completion.rawStatus]
    · intro slot _ unconsumed
      simp [State.initial, Queue.initial] at unconsumed
    · intro command member
      simp [State.initial, Queue.initial] at member
  own := by
    intro _ _ _ _ _ waits
    simp [State.initial] at waits
  truthful := by
    intro call member
    simp [State.initial] at member

end Safe

/--
In a run where no call reuses the command id of an outstanding command and no
failure has status code 0, `Ok` means that the very command of the call has
been executed and completed with success.
-/
theorem truthful_of_careful
    (queueDepth : Nat)
    (dataPhys : UInt64)
    (state : State)
    (positive : 0 < queueDepth)
    (run : Run careful (State.initial queueDepth dataPhys) state) :
    Truthful state := by
  have safe : Safe state :=
    invariant_of_run Safe (fun _ _ => Safe.step) run
      (Safe.initial positive dataPhys)
  exact safe.truthful

theorem Safe.initial_not_outstanding
    {queueDepth : Nat}
    (positive : 0 < queueDepth)
    (dataPhys : UInt64)
    (queue : QueueId)
    (cid serial : Nat) :
    ¬ ((State.initial queueDepth dataPhys).queue queue).Outstanding
        queueDepth cid serial := by
  rintro (⟨slot, inGap, _⟩ | ⟨fetched, member, _⟩ |
    ⟨slot, _, unconsumed, _⟩)
  · exact not_inGap_self positive inGap
  · simp [State.initial, Queue.initial] at member
  · simp [State.initial, Queue.initial] at unconsumed

/-- A `flush` on a fresh controller is executed, completed, and returns `Ok`. -/
theorem truthful_of_careful_flush :
    ∃ state,
      state.returns = [⟨.io, 0, 0, some 0, .ok ()⟩] ∧
        Truthful state := by
  have called :
      Run careful (State.initial 16 0)
        ((State.initial 16 0).submit .io
          (commandWords opIoFlush 1 1 0 0 0 0)) :=
    .single ⟨.call .flush,
      fun serial =>
        Safe.initial_not_outstanding (by decide) 0 .io 1 serial,
      .call rfl rfl⟩
  have fetched :=
    called.tail ⟨.fetch .io, trivial, .fetch (by decide)⟩
  have executed :=
    fetched.tail ⟨.execute .io, trivial, @Step.execute _ .io _ [] [] rfl⟩
  have completed :=
    executed.tail ⟨.complete .io 0 0, fun _ => rfl,
      @Step.complete _ .io _ [] [] 0 0 rfl (by decide) (by decide)⟩
  have polled :=
    completed.tail ⟨.poll, trivial,
      @Step.poll _ .io 1 0 0 (waitSpins - 1) rfl⟩
  exact ⟨_, rfl, truthful_of_careful 16 0 _ (by decide) polled⟩

theorem spin_out
    {queue : QueueId}
    {cid serial number spins : Nat}
    {state : State}
    (mismatched :
      ((state.queue queue).cq (state.queue queue).head).phaseBit ≠
        (state.queue queue).phase)
    (waiting :
      state.host = .waiting queue cid serial number spins) :
    Run anyStep state
      { state with host := .waiting queue cid serial number 0 } := by
  induction spins generalizing state with
  | zero =>
      rw [← waiting]
  | succ spins inductionHypothesis =>
      have polled :
          StepWhere anyStep state
            (state.poll queue cid serial number spins) :=
        ⟨.poll, trivial, .poll waiting⟩
      rw [State.poll_of_mismatched mismatched] at polled
      exact .head polled (inductionHypothesis mismatched rfl)

/--
A `flush` times out and the next one takes the same command id, so the late
completion of the first makes the second return `Ok` before the device has
fetched its command.
-/
theorem late_completion_taken :
    ¬ ∀ (queueDepth : Nat) (dataPhys : UInt64) (state : State),
        2 ≤ queueDepth →
        queueDepth ≤ 16 →
        Run anyStep (State.initial queueDepth dataPhys) state →
        Truthful state := by
  intro claimed
  have called :
      Run anyStep (State.initial 16 0)
        ((State.initial 16 0).submit .io
          (commandWords opIoFlush 1 1 0 0 0 0)) :=
    .single ⟨.call .flush, trivial, .call rfl rfl⟩
  have spunOut := called.trans (spin_out (by decide) rfl)
  have timedOut := spunOut.tail ⟨.giveUp, trivial, .giveUp rfl⟩
  have calledAgain :=
    timedOut.tail ⟨.call .flush, trivial, .call rfl rfl⟩
  have fetched :=
    calledAgain.tail ⟨.fetch .io, trivial, .fetch (by decide)⟩
  have executed :=
    fetched.tail ⟨.execute .io, trivial, @Step.execute _ .io _ [] [] rfl⟩
  have completed :=
    executed.tail ⟨.complete .io 0 0, trivial,
      @Step.complete _ .io _ [] [] 0 0 rfl (by decide) (by decide)⟩
  have polled :=
    completed.tail ⟨.poll, trivial,
      @Step.poll _ .io 1 1 1 (waitSpins - 1) rfl⟩
  have truthful := claimed 16 0 _ (by decide) (by decide) polled
  have wasExecuted : 1 ∈ [0] :=
    (truthful ⟨.io, 1, 1, some 0, .ok ()⟩
      (List.mem_append_right _ List.mem_cons_self) rfl).1
  simp at wasExecuted

end VibuxOS.Storage.Nvme
