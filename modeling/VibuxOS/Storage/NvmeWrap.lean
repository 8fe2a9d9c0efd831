import VibuxOS.Storage.NvmeSafety

namespace VibuxOS.Storage.Nvme

open VibuxOS.Lib

/-!
# Queue wrap

In runs where the device completes every command with success before the loop
of `wait_cq` runs out, host and device stay in step: positions and phases on
both sides are those of one count, over any number of laps.
-/

/-- The calls that have returned on a queue, in order. -/
def State.returnsOn (state : State) (queue : QueueId) : List Return :=
  state.returns.filter (fun call => call.queue = queue)

/--
Every completion is a success, and the completion of a command is posted before
the last iteration of the loop that waits for it.
-/
def prompt (state : State) : Action → Prop
  | .complete _ statusType statusCode =>
      statusType = 0 ∧ statusCode = 0
  | .poll =>
      ∀ queue cid serial number,
        state.host = .waiting queue cid serial number 1 →
        ∃ statusType statusCode,
          (serial, statusType, statusCode) ∈ state.completed
  | _ => True

/-- A call that queues no command. -/
def Request.Empty : Request → Prop
  | .ioTransfer _ _ count => count = 0
  | .submitAdmin _ _ _ _ _ _ => False
  | .flush => False
  | .writeZeroes _ count => count = 0

/-- A slot of the submission queue with a command that the device has not fetched. -/
def Queue.Unfetched
    (depth : Nat)
    (queue : Queue)
    (slot : Nat) : Prop :=
  ∃ number,
    queue.completions + queue.inFlight.length ≤ number ∧
      number < queue.submitted ∧
      number % depth = slot

/-- Host and device are in step. -/
structure InStep (state : State) : Prop where
  together :
    state.host = .idle →
    ∀ queue,
      (state.queue queue).head = (state.queue queue).postedTo ∧
        (state.queue queue).phase = (state.queue queue).devicePhase
  inOrder :
    ∀ queue,
      (state.returnsOn queue).map
          (fun call => (call.number, call.taken, call.verdict)) =
        (List.range (state.returnsOn queue).length).map
          (fun number => (number, some number, .ok ()))
  noneSkipped :
    state.host = .idle →
    ∀ queue,
      (state.queue queue).completions =
          (state.returnsOn queue).length ∧
        (state.queue queue).submitted =
          (state.returnsOn queue).length
  fresh :
    ∀ {queue : QueueId} {cid serial number spins : Nat},
      state.host = .waiting queue cid serial number spins →
      ((state.queue queue).cq (state.queue queue).head).phaseBit =
        (state.queue queue).phase →
      ((state.queue queue).cq (state.queue queue).head).consumed =
          false ∧
        ((state.queue queue).cq (state.queue queue).head).number =
          number
  fetched :
    state.host = .idle →
    ∀ queue,
      ¬ (state.queue queue).Unfetched state.queueDepth
          (state.queue queue).tail
  inTime :
    ∀ {queue : QueueId} {cid serial number : Nat},
      state.host ≠ .waiting queue cid serial number 0
  rejected :
    ∀ {request : Request} {error : NvmeError} {after : State},
      Step state (.reject request error) after ↔
        state.host = .idle ∧
          request.Empty ∧
          error = .invalid ∧
          after = state

/-! ## One pair of queues -/

namespace Queue

/-- Positions and phases are those of the counts. -/
structure Counted
    (depth returned : Nat)
    (queue : Queue) : Prop where
  tail : queue.tail = queue.submitted % depth
  head : queue.head = returned % depth
  phase : queue.phase = lapPhase depth returned
  fetchedTo :
    queue.fetchedTo =
      (queue.completions + queue.inFlight.length) % depth
  postedTo : queue.postedTo = queue.completions % depth
  devicePhase : queue.devicePhase = lapPhase depth queue.completions

/-- Nothing is queued, in the device, or waiting to be taken. -/
structure Quiet
    (depth returned : Nat)
    (queue : Queue) : Prop where
  submitted : queue.submitted = returned
  completions : queue.completions = returned
  inFlight : queue.inFlight = []
  taken : ∀ {slot}, slot < depth → (queue.cq slot).consumed = true

/-- How far the device is with the only command of a queue. -/
inductive Progress
    (depth cid serial number : Nat)
    (completed : List (Nat × Nat × Nat))
    (queue : Queue) : Prop where
  | queued :
      queue.completions = number →
      queue.inFlight = [] →
      commandId (queue.sq (number % depth)).words = cid →
      (queue.sq (number % depth)).serial = serial →
      (∀ {slot}, slot < depth → (queue.cq slot).consumed = true) →
      (∀ {entry}, entry ∈ completed → entry.1 < serial) →
      Progress depth cid serial number completed queue
  | fetched
      {command : Command}
      {executed : Bool} :
      queue.completions = number →
      queue.inFlight = [⟨command, executed⟩] →
      commandId command.words = cid →
      command.serial = serial →
      (∀ {slot}, slot < depth → (queue.cq slot).consumed = true) →
      (∀ {entry}, entry ∈ completed → entry.1 < serial) →
      Progress depth cid serial number completed queue
  | posted :
      queue.completions = number + 1 →
      queue.inFlight = [] →
      (queue.cq (number % depth)).consumed = false →
      (queue.cq (number % depth)).gotCid = cid →
      (queue.cq (number % depth)).statusCode = 0 →
      (queue.cq (number % depth)).number = number →
      (queue.cq (number % depth)).phaseBit = lapPhase depth number →
      (∀ {slot},
        slot < depth →
        slot ≠ number % depth →
        (queue.cq slot).consumed = true) →
      Progress depth cid serial number completed queue

namespace Counted

variable
  {depth returned : Nat}
  {queue : Queue}

theorem submit
    (counted : Counted depth returned queue)
    (command : Command) :
    Counted depth returned (queue.submit depth command) where
  tail := by
    simp only [Queue.submit, counted.tail, Nat.mod_add_mod]
  head := counted.head
  phase := counted.phase
  fetchedTo := counted.fetchedTo
  postedTo := counted.postedTo
  devicePhase := counted.devicePhase

theorem consume
    (positive : 0 < depth)
    (counted : Counted depth returned queue) :
    Counted depth (returned + 1) (queue.consume depth) := by
  have lap := lap_succ positive returned
  rw [← counted.head, ← counted.phase] at lap
  refine {
    tail := counted.tail
    head := ?_
    phase := ?_
    fetchedTo := counted.fetchedTo
    postedTo := counted.postedTo
    devicePhase := counted.devicePhase
  }
  · exact lap.1
  · exact lap.2

theorem fetch
    (counted : Counted depth returned queue) :
    Counted depth returned (queue.fetch depth) where
  tail := counted.tail
  head := counted.head
  phase := counted.phase
  fetchedTo := by
    simp only [Queue.fetch, counted.fetchedTo, Nat.mod_add_mod,
      List.length_append, List.length_singleton, Nat.add_assoc]
  postedTo := counted.postedTo
  devicePhase := counted.devicePhase

theorem post
    (positive : 0 < depth)
    (counted : Counted depth returned queue)
    (command : Command)
    (statusType statusCode : Nat)
    {front back : List Fetched}
    {fetched : Fetched}
    (inDevice : queue.inFlight = front ++ fetched :: back) :
    Counted depth returned
      (queue.post depth command statusType statusCode
        (front ++ back)) := by
  have lap := lap_succ positive queue.completions
  rw [← counted.postedTo, ← counted.devicePhase] at lap
  refine {
    tail := counted.tail
    head := counted.head
    phase := counted.phase
    fetchedTo := ?_
    postedTo := ?_
    devicePhase := ?_
  }
  · have oneLess :
        queue.completions + queue.inFlight.length =
          queue.completions + 1 + (front ++ back).length := by
      rw [inDevice]
      simp only [List.length_append, List.length_cons]
      omega
    simp only [Queue.post]
    rw [counted.fetchedTo, oneLess]
  · exact lap.1
  · exact lap.2

end Counted

namespace Quiet

variable
  {depth returned : Nat}
  {queue : Queue}

theorem fetchedTo_eq_doorbell
    (quiet : Quiet depth returned queue)
    (counted : Counted depth returned queue)
    (rung : queue.doorbell = queue.tail) :
    queue.fetchedTo = queue.doorbell := by
  rw [rung, counted.fetchedTo, counted.tail, quiet.inFlight,
    quiet.completions, quiet.submitted]
  rfl

theorem submit
    (quiet : Quiet depth returned queue)
    (counted : Counted depth returned queue)
    {command : Command}
    {cid : Nat}
    {completed : List (Nat × Nat × Nat)}
    (isCid : commandId command.words = cid)
    (isNew : ∀ {entry}, entry ∈ completed → entry.1 < command.serial) :
    Progress depth cid command.serial returned completed
      (queue.submit depth command) := by
  have atTail :
      (queue.submit depth command).sq (returned % depth) = command := by
    rw [← quiet.submitted, ← counted.tail]
    exact Function.update_self _ _ _
  refine .queued quiet.completions quiet.inFlight ?_ ?_ quiet.taken isNew
  · rw [atTail]
    exact isCid
  · rw [atTail]

end Quiet

namespace Progress

variable
  {depth cid serial number : Nat}
  {executed : List Nat}
  {completed : List (Nat × Nat × Nat)}
  {queue : Queue}

section

variable (progress : Progress depth cid serial number completed queue)

include progress

theorem fetch
    (counted : Counted depth number queue)
    (submitted : queue.submitted = number + 1)
    (rung : queue.doorbell = queue.tail)
    (nonempty : queue.fetchedTo ≠ queue.doorbell) :
    Progress depth cid serial number completed (queue.fetch depth) := by
  rw [rung, counted.tail, submitted, counted.fetchedTo] at nonempty
  cases progress with
  | queued completions inFlight sameCid sameSerial taken isNew =>
      have atNext : queue.fetchedTo = number % depth := by
        rw [counted.fetchedTo, completions, inFlight]
        rfl
      refine @Progress.fetched _ _ _ _ _ _ (queue.sq (number % depth))
        false completions ?_ sameCid sameSerial taken isNew
      simp only [Queue.fetch, inFlight, atNext, List.nil_append]
  | fetched completions inFlight =>
      rw [completions, inFlight] at nonempty
      exact (nonempty rfl).elim
  | posted completions inFlight =>
      rw [completions, inFlight] at nonempty
      exact (nonempty rfl).elim

theorem of_inFlight
    {command : Command}
    {front back : List Fetched}
    {done : Bool}
    (inDevice : queue.inFlight = front ++ ⟨command, done⟩ :: back) :
    front = [] ∧
      back = [] ∧
      queue.completions = number ∧
      commandId command.words = cid ∧
      command.serial = serial ∧
      (∀ {slot}, slot < depth → (queue.cq slot).consumed = true) ∧
      ∀ {entry}, entry ∈ completed → entry.1 < serial := by
  cases progress with
  | queued _ inFlight =>
      simp [inFlight] at inDevice
  | posted _ inFlight =>
      simp [inFlight] at inDevice
  | fetched completions inFlight sameCid sameSerial taken isNew =>
      rw [inFlight, List.singleton_eq_append_iff] at inDevice
      rcases inDevice with ⟨atFront, rest⟩ | ⟨_, rest⟩
      · obtain ⟨isThis, isLast⟩ := List.cons.inj rest
        cases isThis
        exact ⟨atFront, isLast, completions, sameCid,
          sameSerial, taken, isNew⟩
      · cases rest

theorem execute
    {command : Command}
    {front back : List Fetched}
    (inDevice : queue.inFlight = front ++ ⟨command, false⟩ :: back) :
    Progress depth cid serial number completed
      { queue with inFlight := front ++ ⟨command, true⟩ :: back } := by
  obtain ⟨rfl, rfl, completions, sameCid, sameSerial, taken, isNew⟩ :=
    progress.of_inFlight inDevice
  exact .fetched completions rfl sameCid sameSerial taken isNew

theorem post
    (counted : Counted depth number queue)
    {command : Command}
    {front back : List Fetched}
    (inDevice : queue.inFlight = front ++ ⟨command, true⟩ :: back)
    (moreCompleted : List (Nat × Nat × Nat)) :
    Progress depth cid serial number moreCompleted
      (queue.post depth command 0 0 (front ++ back)) := by
  obtain ⟨rfl, rfl, completions, sameCid, sameSerial, taken, isNew⟩ :=
    progress.of_inFlight inDevice
  have isPhase : queue.devicePhase < 2 := by
    rw [counted.devicePhase]
    exact lapPhase_lt _ _
  have isLap : queue.devicePhase = lapPhase depth number := by
    rw [counted.devicePhase, completions]
  have atNumber : number % depth = queue.postedTo := by
    rw [counted.postedTo, completions]
  obtain ⟨gotCid, phaseBit, statusCode, _⟩ :=
    @decode_completionWord (commandId command.words) 0 0
      queue.devicePhase (Nat.mod_lt _ (by decide)) (by decide)
      (by decide) isPhase command.serial queue.completions false
  have entry :
      (queue.post depth command 0 0 []).cq (number % depth) =
        { dw3 :=
            completionWord (commandId command.words) 0 0
              queue.devicePhase
          serial := command.serial
          number := queue.completions
          consumed := false } := by
    rw [atNumber]
    exact Function.update_self _ _ _
  rw [List.append_nil]
  refine .posted ?_ rfl ?_ ?_ ?_ ?_ ?_ ?_
  · exact congrArg (· + 1) completions
  · rw [entry]
  · rw [entry, gotCid, sameCid]
  · rw [entry, statusCode]
  · rw [entry]
    exact completions
  · rw [entry, phaseBit, isLap]
  · intro slot inside other
    rw [atNumber] at other
    simp only [Queue.post, Function.update_of_ne other]
    exact taken inside

theorem posted_of_matched
    (trusted : Trusted depth executed completed queue)
    (counted : Counted depth number queue)
    (matched : (queue.cq queue.head).phaseBit = queue.phase) :
    (queue.cq queue.head).consumed = false ∧
      (queue.cq queue.head).number = number ∧
      verdictOf cid (queue.cq queue.head) = .ok () ∧
      queue.completions = number + 1 ∧
      queue.inFlight = [] ∧
      ∀ {slot},
        slot < depth →
        slot ≠ queue.head →
        (queue.cq slot).consumed = true := by
  have unconsumed := trusted.unconsumed_of_matched matched
  cases progress with
  | queued _ _ _ _ taken =>
      rw [taken trusted.head] at unconsumed
      cases unconsumed
  | fetched _ _ _ _ taken =>
      rw [taken trusted.head] at unconsumed
      cases unconsumed
  | posted completions inFlight _ gotCid statusCode isNumber _ others =>
      rw [← counted.head] at gotCid statusCode isNumber others
      refine ⟨unconsumed, isNumber, ?_, completions, inFlight, others⟩
      unfold verdictOf
      rw [if_neg (not_not.mpr gotCid), if_neg (not_not.mpr statusCode)]

theorem matched_of_completed
    (counted : Counted depth number queue)
    {statusType statusCode : Nat}
    (isCompleted : (serial, statusType, statusCode) ∈ completed) :
    (queue.cq queue.head).phaseBit = queue.phase := by
  cases progress with
  | queued _ _ _ _ _ isNew =>
      exact (Nat.lt_irrefl _ (isNew isCompleted)).elim
  | fetched _ _ _ _ _ isNew =>
      exact (Nat.lt_irrefl _ (isNew isCompleted)).elim
  | posted _ _ _ _ _ _ phaseBit _ =>
      rw [counted.head, counted.phase]
      exact phaseBit

end

end Progress

end Queue

/-! ## Runs -/

/-- What a run with prompt completions keeps. -/
structure Lockstep (state : State) : Prop where
  positive : 0 < state.queueDepth
  cid : state.nextCid < 2 ^ 16
  trusted :
    ∀ queue,
      (state.queue queue).Trusted state.queueDepth state.executed
        state.completed
  counted :
    ∀ queue,
      (state.queue queue).Counted state.queueDepth
        (state.returnsOn queue).length
  logged : ∀ {entry}, entry ∈ state.completed → entry.1 < state.queued
  quiet :
    ∀ {queue},
      (∀ cid serial number spins,
        state.host ≠ .waiting queue cid serial number spins) →
      (state.queue queue).Quiet state.queueDepth
        (state.returnsOn queue).length
  waiting :
    ∀ {queue : QueueId} {cid serial number spins : Nat},
      state.host = .waiting queue cid serial number spins →
      spins ≠ 0 ∧
        serial + 1 = state.queued ∧
        number = (state.returnsOn queue).length ∧
        (state.queue queue).submitted = number + 1 ∧
        (state.queue queue).Progress state.queueDepth cid serial number
          state.completed
  inOrder :
    ∀ queue,
      (state.returnsOn queue).map
          (fun call => (call.number, call.taken, call.verdict)) =
        (List.range (state.returnsOn queue).length).map
          (fun number => (number, some number, .ok ()))

theorem bumpCid_lt (cid : Nat) : bumpCid cid < 2 ^ 16 := by
  have small : (cid + 1) % 2 ^ 16 < 2 ^ 16 := Nat.mod_lt _ (by decide)
  unfold bumpCid
  omega

theorem returnsOn_append
    {before after : State}
    {last : Return}
    (returned : after.returns = before.returns ++ [last])
    (queue : QueueId) :
    after.returnsOn queue =
      if last.queue = queue then
        before.returnsOn queue ++ [last]
      else
        before.returnsOn queue := by
  unfold State.returnsOn
  rw [returned, List.filter_append]
  split
  case isTrue same =>
    simp [same]
  case isFalse other =>
    simp [other]

namespace Lockstep

variable {state : State}

section

variable (lockstep : Lockstep state)

include lockstep

theorem waiting_of_active
    {queue : QueueId}
    (active :
      (state.queue queue).fetchedTo ≠ (state.queue queue).doorbell ∨
        (state.queue queue).inFlight ≠ []) :
    ∃ cid serial number spins,
      state.host = .waiting queue cid serial number spins := by
  by_contra notWaiting
  have quiet :=
    @Lockstep.quiet _ lockstep queue (by simpa using notWaiting)
  rcases active with nonempty | inDevice
  · exact nonempty
      (quiet.fetchedTo_eq_doorbell (lockstep.counted queue)
        (lockstep.trusted queue).rung)
  · exact inDevice quiet.inFlight

theorem ofDevice
    {queue : QueueId}
    {cid serial number spins : Nat}
    (waits : state.host = .waiting queue cid serial number spins)
    {changed : Queue}
    {executed : List Nat}
    {completed : List (Nat × Nat × Nat)}
    (executedSubset : state.executed ⊆ executed)
    (completedSubset : state.completed ⊆ completed)
    (logged : ∀ {entry}, entry ∈ completed → entry.1 < state.queued)
    (trusted : changed.Trusted state.queueDepth executed completed)
    (counted :
      changed.Counted state.queueDepth (state.returnsOn queue).length)
    (submitted : changed.submitted = (state.queue queue).submitted)
    (progress :
      changed.Progress state.queueDepth cid serial number completed) :
    Lockstep
      { state with
        queue := Function.update state.queue queue changed
        executed := executed
        completed := completed } := by
  refine {
    positive := lockstep.positive
    cid := lockstep.cid
    trusted := ?_
    counted := ?_
    logged := logged
    quiet := ?_
    waiting := ?_
    inOrder := lockstep.inOrder
  }
  · refine forall_update ?_ trusted
    intro other
    exact (lockstep.trusted other).mono executedSubset completedSubset
  · intro other
    by_cases same : other = queue
    · subst other
      simp only [Function.update_self]
      exact counted
    · simp only [Function.update_of_ne same]
      exact lockstep.counted other
  · intro other notWaiting
    have different : other ≠ queue := by
      rintro rfl
      exact notWaiting cid serial number spins waits
    simp only [Function.update_of_ne different]
    exact lockstep.quiet notWaiting
  · intro other otherCid otherSerial otherNumber otherSpins otherWaits
    have same := waits.symm.trans otherWaits
    cases same
    obtain ⟨left, isLast, isNumber, wasSubmitted, _⟩ :=
      lockstep.waiting waits
    simp only [Function.update_self]
    exact ⟨left, isLast, isNumber, submitted.trans wasSubmitted,
      progress⟩

theorem call
    {request : Request}
    {words : Nat → Nat}
    (idle : state.host = .idle)
    (accepted : request.words state.nextCid state.dataPhys = .ok words) :
    Lockstep (state.submit request.queue words) := by
  have quiet :
      ∀ queue,
        (state.queue queue).Quiet state.queueDepth
          (state.returnsOn queue).length := by
    intro queue
    refine lockstep.quiet ?_
    intro _ _ _ _ waits
    simp [idle] at waits
  have isCid := Request.commandId_words lockstep.cid accepted
  refine {
    positive := lockstep.positive
    cid := lockstep.cid
    trusted := ?_
    counted := ?_
    logged := ?_
    quiet := ?_
    waiting := ?_
    inOrder := lockstep.inOrder
  }
  · exact forall_update lockstep.trusted
      ((lockstep.trusted request.queue).submit _)
  · intro other
    simp only [State.submit]
    by_cases same : other = request.queue
    · subst other
      rw [Function.update_self]
      exact (lockstep.counted _).submit _
    · rw [Function.update_of_ne same]
      exact lockstep.counted other
  · intro entry member
    exact Nat.lt_succ_of_lt (lockstep.logged member)
  · intro other notWaiting
    have different : other ≠ request.queue := by
      rintro rfl
      exact notWaiting _ _ _ _ rfl
    simp only [State.submit, Function.update_of_ne different]
    exact quiet other
  · intro other cid serial number spins waits
    have progress :=
      @Queue.Quiet.submit _ _ _ (quiet request.queue)
        (lockstep.counted request.queue) ⟨words, state.queued⟩ _ _
        isCid lockstep.logged
    have isNumber := (quiet request.queue).submitted
    cases waits
    have changed :
        (state.submit request.queue words).queue request.queue =
          (state.queue request.queue).submit state.queueDepth
            ⟨words, state.queued⟩ :=
      Function.update_self _ _ _
    rw [changed, isNumber]
    exact ⟨by decide, rfl, rfl, congrArg (· + 1) isNumber, progress⟩

/-- Taking a posted entry keeps host and device in step. -/
theorem pollMatched
    {queue : QueueId}
    {cid serial number spins : Nat}
    (waits : state.host = .waiting queue cid serial number spins)
    (matched :
      ((state.queue queue).cq (state.queue queue).head).phaseBit =
        (state.queue queue).phase)
    (left : Nat) :
    Lockstep (state.poll queue cid serial number left) := by
  obtain ⟨_, _, isNumber, submitted, progress⟩ :=
    lockstep.waiting waits
  have trusted := lockstep.trusted queue
  have counted := lockstep.counted queue
  obtain ⟨_, entryNumber, verdict, completions, inFlight, others⟩ :=
    progress.posted_of_matched trusted (isNumber ▸ counted) matched
  subst number
  have quietAfter :
      ((state.queue queue).consume state.queueDepth).Quiet
        state.queueDepth ((state.returnsOn queue).length + 1) := by
    refine ⟨submitted, completions, inFlight, ?_⟩
    intro slot inside
    by_cases atHead : slot = (state.queue queue).head
    · subst slot
      simp only [Queue.consume, Function.update_self]
    · simp only [Queue.consume, Function.update_of_ne atHead]
      exact others inside atHead
  rw [State.poll_of_matched matched, entryNumber, verdict]
  generalize afterIs :
    ({ state with
       queue :=
         Function.update state.queue queue
           ((state.queue queue).consume state.queueDepth)
       nextCid := bumpCid state.nextCid
       host := .idle
       returns :=
         state.returns ++
           [⟨queue, serial, (state.returnsOn queue).length,
             some (state.returnsOn queue).length, .ok ()⟩] } : State) =
      after
  have returnsOn :=
    fun other =>
      returnsOn_append (congrArg State.returns afterIs).symm other
  subst after
  refine {
    positive := lockstep.positive
    cid := bumpCid_lt _
    trusted := forall_update lockstep.trusted (trusted.consume matched)
    counted := ?_
    logged := lockstep.logged
    quiet := ?_
    waiting := ?_
    inOrder := ?_
  }
  · intro other
    rw [returnsOn other]
    by_cases same : queue = other
    · subst other
      rw [if_pos rfl, List.length_append, List.length_singleton]
      simp only [Function.update_self]
      exact counted.consume lockstep.positive
    · rw [if_neg same]
      simp only [Function.update_of_ne (Ne.symm same)]
      exact lockstep.counted other
  · intro other _
    rw [returnsOn other]
    by_cases same : queue = other
    · subst other
      rw [if_pos rfl, List.length_append, List.length_singleton]
      simp only [Function.update_self]
      exact quietAfter
    · rw [if_neg same]
      simp only [Function.update_of_ne (Ne.symm same)]
      refine lockstep.quiet ?_
      intro _ _ _ _ otherWaits
      cases waits.symm.trans otherWaits
      exact same rfl
  · intro _ _ _ _ _ waitsAfter
    cases waitsAfter
  · intro other
    rw [returnsOn other]
    split
    case isTrue same =>
      cases same
      rw [List.map_append, lockstep.inOrder, List.length_append,
        List.length_singleton, List.range_succ, List.map_append]
      rfl
    case isFalse =>
      exact lockstep.inOrder other

theorem poll
    {queue : QueueId}
    {cid serial number spins : Nat}
    (waits :
      state.host = .waiting queue cid serial number (spins + 1))
    (allowed : prompt state .poll) :
    Lockstep (state.poll queue cid serial number spins) := by
  by_cases matched :
      ((state.queue queue).cq (state.queue queue).head).phaseBit =
        (state.queue queue).phase
  · exact lockstep.pollMatched waits matched spins
  · obtain ⟨_, isLast, isNumber, submitted, progress⟩ :=
      lockstep.waiting waits
    have notLast : spins ≠ 0 := by
      rintro rfl
      obtain ⟨statusType, statusCode, isCompleted⟩ :=
        allowed queue cid serial number waits
      exact matched
        (progress.matched_of_completed
          (isNumber ▸ lockstep.counted queue) isCompleted)
    rw [State.poll_of_mismatched matched]
    refine {
      positive := lockstep.positive
      cid := lockstep.cid
      trusted := lockstep.trusted
      counted := lockstep.counted
      logged := lockstep.logged
      quiet := ?_
      waiting := ?_
      inOrder := lockstep.inOrder
    }
    · intro other notWaiting
      refine lockstep.quiet ?_
      intro _ _ _ _ otherWaits
      cases waits.symm.trans otherWaits
      exact notWaiting _ _ _ _ rfl
    · intro _ _ _ _ _ waitsAfter
      cases waitsAfter
      exact ⟨notLast, isLast, isNumber, submitted, progress⟩

end

/-- A step of a run with prompt completions keeps host and device in step. -/
theorem step
    {before after : State}
    (taken : StepWhere prompt before after)
    (lockstep : Lockstep before) :
    Lockstep after := by
  obtain ⟨action, allowed, taken⟩ := taken
  cases taken with
  | reject =>
      exact lockstep
  | call idle accepted =>
      exact lockstep.call idle accepted
  | poll waits =>
      exact lockstep.poll waits allowed
  | giveUp waits =>
      exact ((lockstep.waiting waits).1 rfl).elim
  | @fetch queue nonempty =>
      obtain ⟨cid, serial, number, spins, waits⟩ :=
        lockstep.waiting_of_active (Or.inl nonempty)
      obtain ⟨_, _, isNumber, submitted, progress⟩ :=
        lockstep.waiting waits
      have trusted := lockstep.trusted queue
      have counted := lockstep.counted queue
      exact lockstep.ofDevice waits (List.Subset.refl _)
        (List.Subset.refl _) lockstep.logged trusted.fetch
        counted.fetch rfl
        (progress.fetch (isNumber ▸ counted) submitted trusted.rung
          nonempty)
  | @execute queue command front back inDevice =>
      obtain ⟨cid, serial, number, spins, waits⟩ :=
        lockstep.waiting_of_active
          (Or.inr (by simp [inDevice] :
            (before.queue queue).inFlight ≠ []))
      obtain ⟨_, _, _, _, progress⟩ := lockstep.waiting waits
      have trusted := lockstep.trusted queue
      have counted := lockstep.counted queue
      refine lockstep.ofDevice waits (List.subset_append_left _ _)
        (List.Subset.refl _) lockstep.logged (trusted.execute inDevice)
        ?_ rfl (progress.execute inDevice)
      refine { counted with fetchedTo := ?_ }
      simpa [inDevice] using counted.fetchedTo
  | @complete queue command front back statusType statusCode inDevice
      isType isCode =>
      obtain ⟨rfl, rfl⟩ := allowed
      obtain ⟨cid, serial, number, spins, waits⟩ :=
        lockstep.waiting_of_active
          (Or.inr (by simp [inDevice] :
            (before.queue queue).inFlight ≠ []))
      obtain ⟨_, isLast, isNumber, _, progress⟩ :=
        lockstep.waiting waits
      have trusted := lockstep.trusted queue
      have counted := lockstep.counted queue
      have sameSerial : command.serial = serial :=
        (progress.of_inFlight inDevice).2.2.2.2.1
      refine lockstep.ofDevice waits (List.Subset.refl _)
        (List.subset_append_left _ _) ?_
        (trusted.post inDevice isType isCode (fun _ => rfl))
        (counted.post lockstep.positive command 0 0 inDevice) rfl
        (progress.post (isNumber ▸ counted) inDevice _)
      intro entry member
      rw [List.mem_append, List.mem_singleton] at member
      rcases member with earlier | isThis
      · exact lockstep.logged earlier
      · subst entry
        omega

theorem initial
    {queueDepth : Nat}
    (positive : 0 < queueDepth)
    (dataPhys : UInt64) :
    Lockstep (State.initial queueDepth dataPhys) := by
  have safe := Safe.initial positive dataPhys
  refine {
    positive := positive
    cid := (by decide : 1 < 2 ^ 16)
    trusted := safe.queues
    counted := ?_
    logged := ?_
    quiet := ?_
    waiting := ?_
    inOrder := fun _ => rfl
  }
  · intro queue
    have atStart : 0 = 0 % queueDepth := (Nat.zero_mod _).symm
    have onFirstLap : 1 = lapPhase queueDepth 0 := by
      simp [lapPhase]
    exact ⟨atStart, atStart, onFirstLap, atStart, atStart, onFirstLap⟩
  · intro entry member
    cases member
  · intro queue _
    exact ⟨rfl, rfl, rfl, fun _ => rfl⟩
  · intro _ _ _ _ _ waits
    cases waits

end Lockstep

theorem Request.words_eq_error
    {request : Request}
    {cid : Nat}
    {dataPhys : UInt64}
    {error : NvmeError} :
    request.words cid dataPhys = .error error ↔
      request.Empty ∧ error = .invalid := by
  cases request with
  | ioTransfer opcode lba count =>
      simp only [Request.words, Request.Empty]
      split <;> simp_all [eq_comm]
  | submitAdmin opcode nsid prp1 cdw10 cdw11 cdw12 =>
      simp [Request.words, Request.Empty]
  | flush =>
      simp [Request.words, Request.Empty]
  | writeZeroes lba count =>
      simp only [Request.words, Request.Empty]
      split <;> simp_all [eq_comm]

/-- What a run with prompt completions keeps puts host and device in step. -/
theorem Lockstep.inStep
    {state : State}
    (lockstep : Lockstep state) :
    InStep state := by
  have quiet :
      state.host = .idle →
      ∀ queue,
        (state.queue queue).Quiet state.queueDepth
          (state.returnsOn queue).length := by
    intro idle queue
    refine lockstep.quiet ?_
    intro _ _ _ _ waits
    cases idle.symm.trans waits
  refine {
    together := ?_
    inOrder := lockstep.inOrder
    noneSkipped := ?_
    fresh := ?_
    fetched := ?_
    inTime := ?_
    rejected := ?_
  }
  · intro idle queue
    have counted := lockstep.counted queue
    have completions := (quiet idle queue).completions
    rw [counted.head, counted.phase, counted.postedTo,
      counted.devicePhase, completions]
    exact ⟨rfl, rfl⟩
  · intro idle queue
    exact ⟨(quiet idle queue).completions, (quiet idle queue).submitted⟩
  · intro queue cid serial number spins waits matched
    obtain ⟨_, _, isNumber, _, progress⟩ := lockstep.waiting waits
    obtain ⟨unconsumed, entryNumber, _⟩ :=
      progress.posted_of_matched (lockstep.trusted queue)
        (isNumber ▸ lockstep.counted queue) matched
    exact ⟨unconsumed, entryNumber⟩
  · rintro idle queue ⟨number, afterFetched, beforeSubmitted, _⟩
    have isQuiet := quiet idle queue
    rw [isQuiet.completions, isQuiet.inFlight] at afterFetched
    rw [isQuiet.submitted] at beforeSubmitted
    exact Nat.not_lt.mpr afterFetched beforeSubmitted
  · intro queue cid serial number waits
    exact (lockstep.waiting waits).1 rfl
  · intro request error after
    constructor
    · intro taken
      cases taken with
      | reject idle failed =>
          obtain ⟨isEmpty, isInvalid⟩ := Request.words_eq_error.mp failed
          exact ⟨idle, isEmpty, isInvalid, rfl⟩
    · rintro ⟨idle, isEmpty, isInvalid, rfl⟩
      exact .reject idle
        (Request.words_eq_error.mpr ⟨isEmpty, isInvalid⟩)

/--
Where the device completes every command with success before the loop that
waits for it runs out, host and device stay in step over any number of laps.
-/
theorem inStep_of_prompt
    (queueDepth : Nat)
    (dataPhys : UInt64)
    (state : State)
    (positive : 0 < queueDepth)
    (run : Run prompt (State.initial queueDepth dataPhys) state) :
    InStep state := by
  have lockstep : Lockstep state :=
    invariant_of_run Lockstep (fun _ _ => Lockstep.step) run
      (Lockstep.initial positive dataPhys)
  exact lockstep.inStep

/-- With two entries a queue, the completion of `submit_admin` is taken. -/
theorem inStep_of_prompt_submitAdmin :
    ∃ state,
      state.returns = [⟨.admin, 0, 0, some 0, .ok ()⟩] ∧
        InStep state := by
  have called :
      Run prompt (State.initial 2 0)
        ((State.initial 2 0).submit .admin
          (commandWords 6 1 0 0 1 0 0)) :=
    .single ⟨.call (.submitAdmin 6 0 0 1 0 0), trivial, .call rfl rfl⟩
  have fetched :=
    called.tail ⟨.fetch .admin, trivial, .fetch (by decide)⟩
  have executed :=
    fetched.tail
      ⟨.execute .admin, trivial, @Step.execute _ .admin _ [] [] rfl⟩
  have completed :=
    executed.tail ⟨.complete .admin 0 0, ⟨rfl, rfl⟩,
      @Step.complete _ .admin _ [] [] 0 0 rfl (by decide) (by decide)⟩
  have notLast : waitSpins ≠ 1 := by decide
  have polled :=
    completed.tail ⟨.poll,
      fun _ _ _ _ waits =>
        (notLast (Host.waiting.inj waits).2.2.2.2).elim,
      @Step.poll _ .admin 1 0 0 (waitSpins - 1) rfl⟩
  exact ⟨_, rfl, inStep_of_prompt 2 0 _ (by decide) polled⟩

/-- A transfer of no blocks does not return `Ok`, whatever the device does. -/
theorem empty_transfer_rejected :
    ¬ ∀ (queueDepth : Nat) (dataPhys : UInt64) (state : State),
        2 ≤ queueDepth →
        queueDepth ≤ 16 →
        Run prompt (State.initial queueDepth dataPhys) state →
        ∀ request error after,
          ¬ Step state (.reject request error) after := by
  intro claimed
  exact claimed 16 0 (State.initial 16 0) (by decide) (by decide) .refl
    (readBlocks 0 0) .invalid _ (.reject rfl rfl)

end VibuxOS.Storage.Nvme
