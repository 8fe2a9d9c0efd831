import Mathlib.Data.List.Basic
import Mathlib.Logic.Function.Basic
import Mathlib.Tactic.Common

namespace VibuxOS.Devices.Scancodes

/-!
# The queue of scancodes

The keyboard interrupt pushes scancodes and the shell pops them.  Neither side waits
for the other: each of their atomic loads and stores, and the access to a cell, is
a step of its own here, and the steps of both sides interleave in any order.
-/

variable
  {value : UInt8}
  {left : Nat}

def scancodeMask : UInt8 := 255

structure ScancodeQueue where
  buffer : Nat → UInt8
  head : UInt8
  tail : UInt8

def ScancodeQueue.new : ScancodeQueue where
  buffer := fun _ => 0
  head := 0
  tail := 0

/-- Where the producer is in `push`. -/
inductive Producer where
  | idle
  | started (value : UInt8)
  | headLoaded (value head : UInt8)
  | writing (value head : UInt8)
  | storing (value head : UInt8)
  deriving Repr, DecidableEq

/-- Where the consumer is in `pop`. -/
inductive Consumer where
  | idle
  | started
  | tailLoaded (tail : UInt8)
  | reading (tail : UInt8)
  | storing (tail value : UInt8)
  deriving Repr, DecidableEq

/-- What the callers of `push` and `pop` see. -/
inductive Event where
  | accepted (value : UInt8)
  | rejected (value : UInt8)
  | popped (value : UInt8)
  | foundEmpty
  deriving Repr, DecidableEq

/-- The next step of one of the sides; an idle producer begins to push the value. -/
inductive Action where
  | produce (value : UInt8)
  | consume
  deriving Repr, DecidableEq

/-- The queue, both sides, and what their callers have seen. -/
structure Machine where
  queue : ScancodeQueue
  producer : Producer
  consumer : Consumer
  events : List Event

namespace Machine

def start : Machine where
  queue := .new
  producer := .idle
  consumer := .idle
  events := []

/-- One step of `push` -/
def produce (machine : Machine) (value : UInt8) : Machine :=
  match machine.producer with
  | .idle => { machine with producer := .started value }
  | .started value =>
      { machine with producer := .headLoaded value machine.queue.head }
  | .headLoaded value head =>
      if head + 1 = machine.queue.tail then
        { machine with
          producer := .idle
          events := machine.events ++ [.rejected value] }
      else
        { machine with producer := .writing value head }
  | .writing value head =>
      { machine with
        queue :=
          { machine.queue with
            buffer :=
              Function.update machine.queue.buffer
                (head &&& scancodeMask).toNat value }
        producer := .storing value head }
  | .storing value head =>
      { machine with
        queue := { machine.queue with head := head + 1 }
        producer := .idle
        events := machine.events ++ [.accepted value] }

/-- One step of `pop` -/
def consume (machine : Machine) : Machine :=
  match machine.consumer with
  | .idle => { machine with consumer := .started }
  | .started => { machine with consumer := .tailLoaded machine.queue.tail }
  | .tailLoaded tail =>
      if tail = machine.queue.head then
        { machine with
          consumer := .idle
          events := machine.events ++ [.foundEmpty] }
      else
        { machine with consumer := .reading tail }
  | .reading tail =>
      { machine with
        consumer :=
          .storing tail (machine.queue.buffer (tail &&& scancodeMask).toNat) }
  | .storing tail value =>
      { machine with
        queue := { machine.queue with tail := tail + 1 }
        consumer := .idle
        events := machine.events ++ [.popped value] }

/-- One step of either side. -/
def step (machine : Machine) : Action → Machine
  | .produce value => machine.produce value
  | .consume => machine.consume

/-- The steps of an interleaving. -/
def run (machine : Machine) (actions : List Action) : Machine :=
  actions.foldl step machine

end Machine

/-- The values of the pushes that were accepted. -/
def acceptedValues (events : List Event) : List UInt8 :=
  events.filterMap fun event =>
    match event with
    | .accepted value => some value
    | _ => none

def poppedValues (events : List Event) : List UInt8 :=
  events.filterMap fun event =>
    match event with
    | .popped value => some value
    | _ => none

def Event.endsPush : Event → Bool
  | .accepted _ => true
  | .rejected _ => true
  | _ => false

/-! ## Indices -/

@[simp] theorem and_scancodeMask
    (index : UInt8) :
    index &&& scancodeMask = index := by
  apply UInt8.toNat_inj.mp
  rw [UInt8.toNat_and]
  exact
    (Nat.and_two_pow_sub_one_eq_mod index.toNat 8).trans
      (Nat.mod_eq_of_lt index.toNat_lt)

theorem ofNat_eq_iff
    {first second : Nat} :
    UInt8.ofNat first = UInt8.ofNat second ↔ first % 256 = second % 256 := by
  rw [← UInt8.toNat_inj, UInt8.toNat_ofNat', UInt8.toNat_ofNat']

theorem ofNat_succ
    (count : Nat) :
    UInt8.ofNat count + 1 = UInt8.ofNat (count + 1) := by
  apply UInt8.toNat_inj.mp
  rw [UInt8.toNat_add, UInt8.toNat_ofNat', UInt8.toNat_ofNat']
  change (count % 256 + 1) % 256 = (count + 1) % 256
  omega

/-! ## The invariant -/

/-- The producer works on the cell behind the values of the queue. -/
def ProducerFits (machine : Machine) (pushed popped : Nat) : Prop :=
  match machine.producer with
  | .idle => True
  | .started _ => True
  | .headLoaded _ head => head = UInt8.ofNat pushed
  | .writing _ head => head = UInt8.ofNat pushed ∧ pushed < popped + 255
  | .storing value head =>
      head = UInt8.ofNat pushed ∧
        pushed < popped + 255 ∧
        machine.queue.buffer head.toNat = value

/-- The consumer works on the first value of the queue. -/
def ConsumerFits
    (machine : Machine)
    (accepted : List UInt8)
    (popped : Nat) : Prop :=
  match machine.consumer with
  | .idle => True
  | .started => True
  | .tailLoaded tail => tail = UInt8.ofNat popped
  | .reading tail => tail = UInt8.ofNat popped ∧ popped < accepted.length
  | .storing tail value =>
      tail = UInt8.ofNat popped ∧ accepted[popped]? = some value

/-- The indices count the values, and the cells between them hold them. -/
structure Machine.Invariant (machine : Machine) : Prop where
  popped :
    poppedValues machine.events <+: acceptedValues machine.events
  room :
    (acceptedValues machine.events).length ≤
      (poppedValues machine.events).length + 255
  head :
    machine.queue.head =
      UInt8.ofNat (acceptedValues machine.events).length
  tail :
    machine.queue.tail =
      UInt8.ofNat (poppedValues machine.events).length
  cells :
    ∀ index,
      (poppedValues machine.events).length ≤ index →
      index < (acceptedValues machine.events).length →
      (acceptedValues machine.events)[index]? =
        some (machine.queue.buffer (UInt8.ofNat index).toNat)
  producer :
    ProducerFits machine (acceptedValues machine.events).length
      (poppedValues machine.events).length
  consumer :
    ConsumerFits machine (acceptedValues machine.events)
      (poppedValues machine.events).length

theorem Machine.Invariant.start :
    Machine.start.Invariant where
  popped := List.prefix_rfl
  room := Nat.zero_le _
  head := rfl
  tail := rfl
  cells := fun _ _ below => absurd below (Nat.not_lt_zero _)
  producer := trivial
  consumer := trivial

@[simp] theorem acceptedValues_append
    (events more : List Event) :
    acceptedValues (events ++ more) =
      acceptedValues events ++ acceptedValues more :=
  List.filterMap_append

@[simp] theorem poppedValues_append
    (events more : List Event) :
    poppedValues (events ++ more) =
      poppedValues events ++ poppedValues more :=
  List.filterMap_append

namespace Machine.Invariant

variable {machine next : Machine}

section

variable (invariant : machine.Invariant)

include invariant

theorem moved
    (queue : next.queue = machine.queue)
    (accepted : acceptedValues next.events = acceptedValues machine.events)
    (popped : poppedValues next.events = poppedValues machine.events)
    (producer :
      ProducerFits next (acceptedValues machine.events).length
        (poppedValues machine.events).length)
    (consumer :
      ConsumerFits next (acceptedValues machine.events)
        (poppedValues machine.events).length) :
    next.Invariant := by
  constructor
  · rw [accepted, popped]
    exact invariant.popped
  · rw [accepted, popped]
    exact invariant.room
  · rw [accepted, queue]
    exact invariant.head
  · rw [popped, queue]
    exact invariant.tail
  · rw [accepted, popped, queue]
    exact invariant.cells
  · rw [accepted, popped]
    exact producer
  · rw [accepted, popped]
    exact consumer

theorem length_le :
    (poppedValues machine.events).length ≤
      (acceptedValues machine.events).length :=
  invariant.popped.length_le

theorem full_iff
    {head : UInt8}
    (isHead :
      head = UInt8.ofNat (acceptedValues machine.events).length) :
    head + 1 = machine.queue.tail ↔
      (acceptedValues machine.events).length =
        (poppedValues machine.events).length + 255 := by
  have order := invariant.length_le
  have room := invariant.room
  rw [isHead, invariant.tail, ofNat_succ, ofNat_eq_iff]
  omega

theorem empty_iff
    {tail : UInt8}
    (isTail : tail = UInt8.ofNat (poppedValues machine.events).length) :
    tail = machine.queue.head ↔
      (acceptedValues machine.events).length =
        (poppedValues machine.events).length := by
  have order := invariant.length_le
  have room := invariant.room
  rw [isTail, invariant.head, ofNat_eq_iff]
  omega

theorem written
    {value head : UInt8}
    (isHead :
      head = UInt8.ofNat (acceptedValues machine.events).length)
    (room :
      (acceptedValues machine.events).length <
        (poppedValues machine.events).length + 255) :
    Machine.Invariant
      { machine with
        queue :=
          { machine.queue with
            buffer :=
              Function.update machine.queue.buffer
                (head &&& scancodeMask).toNat value }
        producer := .storing value head } where
  popped := invariant.popped
  room := invariant.room
  head := invariant.head
  tail := invariant.tail
  cells := by
    intro index lower upper
    dsimp only at lower upper
    have different : (UInt8.ofNat index).toNat ≠ head.toNat := by
      intro same
      have sameIndex := UInt8.toNat_inj.mp same
      rw [isHead, ofNat_eq_iff] at sameIndex
      omega
    dsimp only
    rw [and_scancodeMask, Function.update_of_ne different]
    exact invariant.cells index lower upper
  producer := by
    refine ⟨isHead, room, ?_⟩
    dsimp only
    rw [and_scancodeMask, Function.update_self]
  consumer := invariant.consumer

theorem pushed
    {value head : UInt8}
    (isHead :
      head = UInt8.ofNat (acceptedValues machine.events).length)
    (room :
      (acceptedValues machine.events).length <
        (poppedValues machine.events).length + 255)
    (isWritten : machine.queue.buffer head.toNat = value) :
    Machine.Invariant
      { machine with
        queue := { machine.queue with head := head + 1 }
        producer := .idle
        events := machine.events ++ [.accepted value] } := by
  have acceptedNow :
      acceptedValues (machine.events ++ [.accepted value]) =
        acceptedValues machine.events ++ [value] :=
    acceptedValues_append _ _
  have poppedNow :
      poppedValues (machine.events ++ [.accepted value]) =
        poppedValues machine.events := by
    rw [poppedValues_append]
    exact List.append_nil _
  constructor <;> dsimp only
  · rw [acceptedNow, poppedNow]
    exact invariant.popped.trans (List.prefix_append _ _)
  · rw [acceptedNow, poppedNow, List.length_append]
    exact room
  · rw [acceptedNow, List.length_append, isHead]
    exact ofNat_succ _
  · rw [poppedNow]
    exact invariant.tail
  · rw [acceptedNow, poppedNow]
    intro index lower upper
    by_cases isLast : index = (acceptedValues machine.events).length
    · rw [isLast, List.getElem?_concat_length, ← isHead, isWritten]
    · rw [List.length_append, List.length_singleton] at upper
      have isOld : index < (acceptedValues machine.events).length := by omega
      rw [List.getElem?_append_left isOld]
      exact invariant.cells index lower isOld
  · trivial
  · have consumer := invariant.consumer
    rw [acceptedNow, poppedNow]
    unfold ConsumerFits at consumer ⊢
    dsimp only
    cases isAt : machine.consumer with
    | idle => trivial
    | started => trivial
    | tailLoaded tail =>
        simp only [isAt] at consumer
        exact consumer
    | reading tail =>
        simp only [isAt] at consumer
        refine ⟨consumer.1, ?_⟩
        rw [List.length_append]
        exact Nat.lt_succ_of_lt consumer.2
    | storing tail value =>
        simp only [isAt] at consumer
        refine ⟨consumer.1, ?_⟩
        obtain ⟨inside, _⟩ := List.getElem?_eq_some_iff.mp consumer.2
        rw [List.getElem?_append_left inside]
        exact consumer.2

theorem taken
    {tail value : UInt8}
    (isTail : tail = UInt8.ofNat (poppedValues machine.events).length)
    (isFirst :
      (acceptedValues machine.events)[(poppedValues machine.events).length]? =
        some value) :
    Machine.Invariant
      { machine with
        queue := { machine.queue with tail := tail + 1 }
        consumer := .idle
        events := machine.events ++ [.popped value] } := by
  obtain ⟨inside, isValue⟩ := List.getElem?_eq_some_iff.mp isFirst
  have acceptedNow :
      acceptedValues (machine.events ++ [.popped value]) =
        acceptedValues machine.events := by
    rw [acceptedValues_append]
    exact List.append_nil _
  have poppedNow :
      poppedValues (machine.events ++ [.popped value]) =
        poppedValues machine.events ++ [value] :=
    poppedValues_append _ _
  constructor <;> dsimp only
  · rw [acceptedNow, poppedNow, List.prefix_iff_eq_take.mp invariant.popped,
      ← isValue, List.take_append_getElem]
    exact List.take_prefix _ _
  · rw [acceptedNow, poppedNow, List.length_append]
    exact Nat.le_trans invariant.room (by simp)
  · rw [acceptedNow]
    exact invariant.head
  · rw [poppedNow, List.length_append, isTail]
    exact ofNat_succ _
  · rw [acceptedNow, poppedNow]
    intro index lower upper
    rw [List.length_append] at lower
    exact invariant.cells index (Nat.le_of_succ_le lower) upper
  · have producer := invariant.producer
    rw [acceptedNow, poppedNow, List.length_append]
    unfold ProducerFits at producer ⊢
    dsimp only
    cases isAt : machine.producer with
    | idle => trivial
    | started value => trivial
    | headLoaded value head =>
        simp only [isAt] at producer
        exact producer
    | writing value head =>
        simp only [isAt] at producer
        exact ⟨producer.1, Nat.lt_of_lt_of_le producer.2 (by simp)⟩
    | storing value head =>
        simp only [isAt] at producer
        exact
          ⟨producer.1, Nat.lt_of_lt_of_le producer.2.1 (by simp), producer.2.2⟩
  · trivial

theorem produce
    (value : UInt8) :
    (machine.produce value).Invariant := by
  have producer := invariant.producer
  have consumer := invariant.consumer
  unfold Machine.produce
  cases isAt : machine.producer with
  | idle =>
      exact invariant.moved rfl rfl rfl trivial consumer
  | started value =>
      exact invariant.moved rfl rfl rfl invariant.head consumer
  | headLoaded value head =>
      simp only [ProducerFits, isAt] at producer
      dsimp only
      split
      · refine invariant.moved rfl ?_ ?_ trivial consumer
        · rw [acceptedValues_append]
          exact List.append_nil _
        · rw [poppedValues_append]
          exact List.append_nil _
      · rename_i goesOn
        rw [invariant.full_iff producer] at goesOn
        have room := invariant.room
        exact invariant.moved rfl rfl rfl ⟨producer, by omega⟩ consumer
  | writing value head =>
      simp only [ProducerFits, isAt] at producer
      exact invariant.written producer.1 producer.2
  | storing value head =>
      simp only [ProducerFits, isAt] at producer
      exact invariant.pushed producer.1 producer.2.1 producer.2.2

theorem consume :
    machine.consume.Invariant := by
  have producer := invariant.producer
  have consumer := invariant.consumer
  unfold Machine.consume
  cases isAt : machine.consumer with
  | idle =>
      exact invariant.moved rfl rfl rfl producer trivial
  | started =>
      exact invariant.moved rfl rfl rfl producer invariant.tail
  | tailLoaded tail =>
      simp only [ConsumerFits, isAt] at consumer
      dsimp only
      split
      · refine invariant.moved rfl ?_ ?_ producer trivial
        · rw [acceptedValues_append]
          exact List.append_nil _
        · rw [poppedValues_append]
          exact List.append_nil _
      · rename_i goesOn
        rw [invariant.empty_iff consumer] at goesOn
        have order := invariant.length_le
        exact invariant.moved rfl rfl rfl producer ⟨consumer, by omega⟩
  | reading tail =>
      simp only [ConsumerFits, isAt] at consumer
      refine invariant.moved rfl rfl rfl producer ⟨consumer.1, ?_⟩
      rw [and_scancodeMask, consumer.1]
      exact invariant.cells _ (Nat.le_refl _) consumer.2
  | storing tail value =>
      simp only [ConsumerFits, isAt] at consumer
      exact invariant.taken consumer.1 consumer.2

theorem run
    (actions : List Action) :
    (machine.run actions).Invariant := by
  induction actions generalizing machine with
  | nil =>
      exact invariant
  | cons action rest inductionHypothesis =>
      cases action with
      | produce value => exact inductionHypothesis (invariant.produce value)
      | consume => exact inductionHypothesis invariant.consume

end

end Machine.Invariant

/-! ## Single steps -/

namespace Machine

variable {machine : Machine}

theorem run_append
    (machine : Machine)
    (first second : List Action) :
    machine.run (first ++ second) = (machine.run first).run second :=
  List.foldl_append

theorem events_step
    (machine : Machine)
    (action : Action) :
    machine.events <+: (machine.step action).events := by
  cases action with
  | produce value =>
      unfold step produce
      cases machine.producer with
      | headLoaded value head =>
          dsimp only
          split
          · exact List.prefix_append _ _
          · exact List.prefix_rfl
      | storing value head => exact List.prefix_append _ _
      | _ => exact List.prefix_rfl
  | consume =>
      unfold step consume
      cases machine.consumer with
      | tailLoaded tail =>
          dsimp only
          split
          · exact List.prefix_append _ _
          · exact List.prefix_rfl
      | storing tail value => exact List.prefix_append _ _
      | _ => exact List.prefix_rfl

theorem events_run
    (machine : Machine)
    (actions : List Action) :
    machine.events <+: (machine.run actions).events := by
  induction actions generalizing machine with
  | nil => exact List.prefix_rfl
  | cons action rest inductionHypothesis =>
      exact (machine.events_step action).trans (inductionHypothesis _)

theorem acceptedValues_consume
    (machine : Machine) :
    acceptedValues machine.consume.events =
      acceptedValues machine.events := by
  unfold consume
  cases machine.consumer with
  | tailLoaded tail =>
      dsimp only
      split
      · rw [acceptedValues_append]
        exact List.append_nil _
      · rfl
  | storing tail value =>
      rw [acceptedValues_append]
      exact List.append_nil _
  | _ => rfl

/-! ## The consumer alone -/

/-- How many steps of the consumer are left until the queue is empty. -/
def stepsLeft (machine : Machine) : Nat :=
  5 * ((acceptedValues machine.events).length -
      (poppedValues machine.events).length) +
    match machine.consumer with
    | .idle => 4
    | .started => 3
    | .tailLoaded _ => 2
    | .reading _ => 1
    | .storing _ _ => 0

theorem stepsLeft_consume
    (invariant : machine.Invariant)
    (some :
      (poppedValues machine.events).length <
        (acceptedValues machine.events).length) :
    machine.consume.stepsLeft < machine.stepsLeft := by
  have accepted := machine.acceptedValues_consume
  have consumer := invariant.consumer
  unfold stepsLeft
  rw [accepted]
  unfold consume
  cases isAt : machine.consumer with
  | idle =>
      dsimp only
      omega
  | started =>
      dsimp only
      omega
  | tailLoaded tail =>
      simp only [ConsumerFits, isAt] at consumer
      have goesOn : ¬ tail = machine.queue.head := by
        rw [invariant.empty_iff consumer]
        omega
      dsimp only
      rw [if_neg goesOn]
      dsimp only
      omega
  | reading tail =>
      dsimp only
      omega
  | storing tail value =>
      dsimp only
      have more :
          (poppedValues (machine.events ++ [.popped value])).length =
            (poppedValues machine.events).length + 1 := by
        rw [poppedValues_append, List.length_append]
        rfl
      rw [more]
      omega

theorem exists_drained
    (machine : Machine)
    (invariant : machine.Invariant) :
    ∃ count,
      poppedValues
          (machine.run (List.replicate count .consume)).events =
        acceptedValues machine.events := by
  induction left : machine.stepsLeft using Nat.strongRecOn
    generalizing machine with
  | ind left inductionHypothesis =>
      by_cases some :
          (poppedValues machine.events).length <
            (acceptedValues machine.events).length
      · have nearer := stepsLeft_consume invariant some
        rw [left] at nearer
        obtain ⟨count, drained⟩ :=
          inductionHypothesis _ nearer machine.consume invariant.consume rfl
        refine ⟨count + 1, ?_⟩
        rw [machine.acceptedValues_consume] at drained
        exact drained
      · exact
          ⟨0, invariant.popped.eq_of_length_le (Nat.le_of_not_lt some)⟩

/-! ## A push -/

/-- A push of a value that finds room, and the steps of the producer until it ends. -/
def Pushing (machine : Machine) (value : UInt8) (left : Nat) : Prop :=
  match machine.producer with
  | .idle => False
  | .started pushed =>
      pushed = value ∧
        left = 4 ∧
        (acceptedValues machine.events).length <
          (poppedValues machine.events).length + 255
  | .headLoaded pushed _ =>
      pushed = value ∧
        left = 3 ∧
        (acceptedValues machine.events).length <
          (poppedValues machine.events).length + 255
  | .writing pushed _ => pushed = value ∧ left = 2
  | .storing pushed _ => pushed = value ∧ left = 1

theorem events_consume
    (machine : Machine) :
    ∃ more,
      machine.consume.events = machine.events ++ more ∧
        more.find? Event.endsPush = none := by
  unfold consume
  cases machine.consumer with
  | tailLoaded tail =>
      dsimp only
      split
      · exact ⟨_, rfl, rfl⟩
      · exact ⟨[], (List.append_nil _).symm, rfl⟩
  | storing tail value => exact ⟨_, rfl, rfl⟩
  | _ => exact ⟨[], (List.append_nil _).symm, rfl⟩

theorem producer_consume
    (machine : Machine) :
    machine.consume.producer = machine.producer := by
  unfold consume
  cases machine.consumer with
  | tailLoaded tail =>
      dsimp only
      split <;> rfl
  | _ => rfl

theorem poppedValues_consume
    (machine : Machine) :
    (poppedValues machine.events).length ≤
      (poppedValues machine.consume.events).length := by
  obtain ⟨more, same, _⟩ := machine.events_consume
  rw [same, poppedValues_append, List.length_append]
  exact Nat.le_add_right _ _

theorem Pushing.consume
    (pushing : machine.Pushing value left) :
    machine.consume.Pushing value left := by
  have popped := machine.poppedValues_consume
  unfold Pushing at pushing ⊢
  rw [producer_consume, acceptedValues_consume]
  cases isAt : machine.producer with
  | idle =>
      simp only [isAt] at pushing
  | started pushed =>
      simp only [isAt] at pushing
      exact ⟨pushing.1, pushing.2.1, by omega⟩
  | headLoaded pushed head =>
      simp only [isAt] at pushing
      exact ⟨pushing.1, pushing.2.1, by omega⟩
  | writing pushed head =>
      simp only [isAt] at pushing
      exact pushing
  | storing pushed head =>
      simp only [isAt] at pushing
      exact pushing

theorem Pushing.produce
    (invariant : machine.Invariant)
    (pushing : machine.Pushing value left)
    (ignored : UInt8) :
    (∃ rest,
        left = rest + 1 ∧
          (machine.produce ignored).events = machine.events ∧
          (machine.produce ignored).Pushing value rest) ∨
      (left = 1 ∧
        (machine.produce ignored).events =
          machine.events ++ [.accepted value]) := by
  have producer := invariant.producer
  unfold Pushing at pushing
  unfold Machine.produce
  cases isAt : machine.producer with
  | idle =>
      simp only [isAt] at pushing
  | started pushed =>
      simp only [isAt] at pushing
      obtain ⟨rfl, rfl, room⟩ := pushing
      exact Or.inl ⟨3, rfl, rfl, rfl, rfl, room⟩
  | headLoaded pushed head =>
      simp only [isAt] at pushing
      simp only [ProducerFits, isAt] at producer
      obtain ⟨rfl, rfl, room⟩ := pushing
      have goesOn : ¬ head + 1 = machine.queue.tail := by
        rw [invariant.full_iff producer]
        omega
      dsimp only
      rw [if_neg goesOn]
      exact Or.inl ⟨2, rfl, rfl, rfl, rfl⟩
  | writing pushed head =>
      simp only [isAt] at pushing
      obtain ⟨rfl, rfl⟩ := pushing
      exact Or.inl ⟨1, rfl, rfl, rfl, rfl⟩
  | storing pushed head =>
      simp only [isAt] at pushing
      obtain ⟨rfl, rfl⟩ := pushing
      exact Or.inr ⟨rfl, rfl⟩

end Machine

/-- The step is one of the producer. -/
def Action.produces : Action → Bool
  | .produce _ => true
  | .consume => false

namespace Machine

variable {machine : Machine}

theorem Pushing.left_pos
    (pushing : machine.Pushing value left) :
    0 < left := by
  unfold Pushing at pushing
  split at pushing
  · exact pushing.elim
  · omega
  · omega
  · omega
  · omega

theorem Pushing.run
    (invariant : machine.Invariant)
    (pushing : machine.Pushing value left)
    {later : List Action}
    (enough : left ≤ later.countP Action.produces) :
    ∃ more,
      (machine.run later).events = machine.events ++ more ∧
        more.find? Event.endsPush = some (.accepted value) := by
  induction later generalizing machine left with
  | nil =>
      exact absurd enough (Nat.not_le_of_lt pushing.left_pos)
  | cons action rest inductionHypothesis =>
      cases action with
      | produce ignored =>
          rw [List.countP_cons_of_pos rfl] at enough
          rcases pushing.produce invariant ignored with
            ⟨fewer, rfl, same, goesOn⟩ | ⟨rfl, accepted⟩
          · obtain ⟨more, shown, ends⟩ :=
              inductionHypothesis (invariant.produce ignored) goesOn
                (Nat.le_of_succ_le_succ enough)
            exact ⟨more, shown.trans (by rw [same]), ends⟩
          · obtain ⟨more, shown⟩ :=
              (machine.produce ignored).events_run rest
            refine ⟨.accepted value :: more, ?_, rfl⟩
            rw [accepted, List.append_assoc] at shown
            exact shown.symm
      | consume =>
          rw [List.countP_cons_of_neg (by decide)] at enough
          obtain ⟨before, isBefore, noEnd⟩ := machine.events_consume
          obtain ⟨more, shown, ends⟩ :=
            inductionHypothesis invariant.consume pushing.consume enough
          refine ⟨before ++ more, ?_, ?_⟩
          · rw [← List.append_assoc, ← isBefore]
            exact shown
          · rw [List.find?_append, noEnd]
            exact ends

end Machine

/-! ## Every interleaving -/

/-- What the two sides rely on after some steps. -/
structure Delivers (actions : List Action) : Prop where
  inOrder :
    ∃ outstanding,
      acceptedValues (Machine.start.run actions).events =
          poppedValues (Machine.start.run actions).events ++ outstanding ∧
        outstanding.length ≤ 255
  written :
    ∀ value head tail,
      (Machine.start.run actions).producer = .writing value head →
      (Machine.start.run actions).consumer = .reading tail →
      head ≠ tail
  notEmpty :
    (Machine.start.run (actions ++ [.consume])).events =
        (Machine.start.run actions).events ++ [.foundEmpty] →
    acceptedValues (Machine.start.run actions).events =
      poppedValues (Machine.start.run actions).events
  drained :
    ∃ count,
      poppedValues
          (Machine.start.run
            (actions ++ List.replicate count .consume)).events =
        acceptedValues (Machine.start.run actions).events
  accepted :
    ∀ value later,
      (Machine.start.run actions).producer = .idle →
      (acceptedValues (Machine.start.run actions).events).length <
        (poppedValues (Machine.start.run actions).events).length + 255 →
      4 ≤ later.countP Action.produces →
      ∃ more,
        (Machine.start.run (actions ++ .produce value :: later)).events =
            (Machine.start.run actions).events ++ more ∧
          more.find? Event.endsPush = some (.accepted value)

theorem Machine.Invariant.values_of_foundEmpty
    {machine : Machine}
    (invariant : machine.Invariant)
    (found :
      machine.consume.events = machine.events ++ [.foundEmpty]) :
    acceptedValues machine.events = poppedValues machine.events := by
  have consumer := invariant.consumer
  have silent : machine.events ≠ machine.events ++ [.foundEmpty] := by
    intro same
    have lengths := congrArg List.length same
    rw [List.length_append, List.length_singleton] at lengths
    omega
  unfold Machine.consume at found
  cases isAt : machine.consumer with
  | idle =>
      simp only [isAt] at found
      exact absurd found silent
  | started =>
      simp only [isAt] at found
      exact absurd found silent
  | tailLoaded tail =>
      simp only [isAt] at found
      simp only [ConsumerFits, isAt] at consumer
      split at found
      · rename_i nothing
        rw [invariant.empty_iff consumer] at nothing
        exact (invariant.popped.eq_of_length nothing.symm).symm
      · exact absurd found silent
  | reading tail =>
      simp only [isAt] at found
      exact absurd found silent
  | storing tail value =>
      simp only [isAt] at found
      cases List.append_cancel_left found

theorem Machine.Invariant.apart
    {machine : Machine}
    (invariant : machine.Invariant)
    {value head tail : UInt8}
    (writes : machine.producer = .writing value head)
    (reads : machine.consumer = .reading tail) :
    head ≠ tail := by
  have producer := invariant.producer
  have consumer := invariant.consumer
  simp only [ProducerFits, writes] at producer
  simp only [ConsumerFits, reads] at consumer
  rw [producer.1, consumer.1]
  intro same
  rw [ofNat_eq_iff] at same
  omega

/-- The queue delivers what it accepts, in every interleaving of the two sides. -/
theorem scancodes_delivered (actions : List Action) : Delivers actions := by
  have invariant := Machine.Invariant.start.run actions
  constructor
  · obtain ⟨outstanding, same⟩ := invariant.popped
    refine ⟨outstanding, same.symm, ?_⟩
    have room := invariant.room
    rw [← same, List.length_append] at room
    omega
  · exact fun _ _ _ writes reads => invariant.apart writes reads
  · intro found
    rw [Machine.run_append] at found
    exact invariant.values_of_foundEmpty found
  · obtain ⟨count, drained⟩ := Machine.exists_drained _ invariant
    refine ⟨count, ?_⟩
    rw [Machine.run_append]
    exact drained
  · intro value later idle room enough
    have started :
        (Machine.start.run actions).produce value =
          { Machine.start.run actions with producer := .started value } := by
      unfold Machine.produce
      rw [idle]
    have pushing :
        ((Machine.start.run actions).produce value).Pushing value 4 := by
      rw [started]
      exact ⟨rfl, rfl, room⟩
    obtain ⟨more, shown, ends⟩ :=
      pushing.run (invariant.produce value) enough
    refine ⟨more, ?_, ends⟩
    rw [Machine.run_append]
    refine Eq.trans shown ?_
    rw [started]

end VibuxOS.Devices.Scancodes
