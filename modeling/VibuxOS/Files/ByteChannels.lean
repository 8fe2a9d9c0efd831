import VibuxOS.Files.FileViews
import VibuxOS.Syscall.Channels

namespace VibuxOS.Files

open VibuxOS.Lib

/-!
# Pipes and socket pairs deliver what they accept

Reads and writes of one buffer slot, in any order with anything that leaves the
slot alone: what was accepted is what was delivered and then what the buffer
holds.  The end of a pipe is seen by looking at the descriptors of the running
process, so a suspended parent that could still write is not counted.
-/

variable
  {change : State → State}
  {error : Errno}
  {world : World}
  {state : State}
  {fdNumber : Int}
  {count : Nat}
  {bytes : List UInt8}
  {fd : Fd}
  {slot : Nat}

/-- The slot that a read takes bytes from. -/
def readSlot (state : State) (fdNumber : Int) : Option Nat :=
  let fd := state.fds fdNumber.toNat
  match fd.kind with
  | .pipeRead => some fd.id
  | .socket => socketPipeFor state fd.id (fd.path.getD 1 0) false
  | _ => none

/-- The slot that a write puts bytes into. -/
def writeSlot (state : State) (fdNumber : Int) : Option Nat :=
  let fd := state.fds fdNumber.toNat
  match fd.kind with
  | .pipeWrite => some fd.id
  | .socket => socketPipeFor state fd.id (fd.path.getD 1 0) true
  | _ => none

/-! ## What a call does to the buffers -/

theorem unreadKinds_pipeBuffers (index : Nat) :
    UnreadKinds index State.pipeBuffers where
  eventFd := fun _ _ _ _ => rfl
  timerFd := fun _ _ _ _ => rfl
  terminal := fun _ _ => rfl
  pending := fun _ _ => rfl
  position := fun _ _ => rfl

theorem unwrittenKinds_pipeBuffers (index : Nat) :
    UnwrittenKinds index State.pipeBuffers where
  eventFd := fun _ _ _ _ => rfl
  contents := fun _ _ _ _ => rfl
  position := fun _ _ => rfl

/-! ## Taking bytes out of a slot -/

/-- How a read delivers bytes. -/
inductive Delivered
    (source : Option Nat)
    (before after : State) :
    List UInt8 →
    Prop
  | unchanged
      (bytes : List UInt8)
      (notHere : source = none ∨ bytes = [])
      (same : after.pipeBuffers = before.pipeBuffers) :
      Delivered source before after bytes
  | taken
      (slot amount : Nat)
      (isSource : source = some slot)
      (enough : amount ≤ (before.pipeBuffers slot).len)
      (taken :
        after.pipeBuffers =
          Function.update before.pipeBuffers slot
            ((before.pipeBuffers slot).take amount)) :
      Delivered source before after ((before.pipeBuffers slot).peek amount)

theorem pipeReadFd_of_open
    (isOpen : OpenFd state.fds fdNumber)
    (something : count ≠ 0)
    (isEnd :
      (state.fds fdNumber.toNat).kind = .pipeRead ∧
        (state.fds fdNumber.toNat).path.length = 1) :
    pipeReadFd world fdNumber count state =
      match pipeAvailable state (state.fds fdNumber.toNat).id with
      | none => .err .ebadf state
      | some available =>
          if available = 0 then
            if pipeHasWriter state (state.fds fdNumber.toNat).id then
              .err .eagain state
            else
              .ok [] state
          else if
              world.copied 0
                ((state.pipeBuffers (state.fds fdNumber.toNat).id).peek
                  (min count available)).length then
            .ok
              ((state.pipeBuffers (state.fds fdNumber.toNat).id).peek
                (min count available))
              (state.takePipe (state.fds fdNumber.toNat).id
                (min count available))
          else
            .err .efault state := by
  have rightEnd :
      ¬ ((state.fds fdNumber.toNat).kind ≠ .pipeRead ∨
        (state.fds fdNumber.toNat).path.length ≠ 1) := by
    tauto
  unfold pipeReadFd
  rw [if_neg something, Prog.bind_of_ok (fdSnapshot_of_open isOpen),
    if_neg rightEnd, Prog.gets_bind_apply, id]
  cases pipeAvailable state (state.fds fdNumber.toNat).id with
  | none =>
      rfl
  | some available =>
      dsimp only
      split
      · split <;> rfl
      · unfold copyUserOut
        split <;> rfl

theorem pipeReadFd_of_not_end
    (something : count ≠ 0)
    (notEnd :
      ¬ (OpenFd state.fds fdNumber ∧
        (state.fds fdNumber.toNat).kind = .pipeRead ∧
        (state.fds fdNumber.toNat).path.length = 1)) :
    pipeReadFd world fdNumber count state = .err .ebadf state := by
  unfold pipeReadFd
  rw [if_neg something]
  by_cases isOpen : OpenFd state.fds fdNumber
  · rw [Prog.bind_of_ok (fdSnapshot_of_open isOpen), if_pos (by tauto)]
    rfl
  · rw [Prog.bind_of_err (fdSnapshot_of_not_open isOpen)]

theorem pipeAvailable_eq_some
    {slot available : Nat}
    (isAvailable : pipeAvailable state slot = some available) :
    (state.pipeBuffers slot).len = available := by
  unfold pipeAvailable at isAvailable
  split at isAvailable
  · cases isAvailable
  · split at isAvailable
    · exact Option.some.inj isAvailable
    · cases isAvailable

/-- A read that delivers bytes, or fails and leaves the buffers alone. -/
def Delivers
    (state : State)
    (source : Option Nat)
    (program : Sys (List UInt8)) : Prop :=
  Prog.Ensures (fun current => current = state) program
    (fun bytes after => Delivered source state after bytes)
    (fun after => after.pipeBuffers = state.pipeBuffers)

section Deliveries

variable {source : Option Nat}

theorem delivers_nothing :
    Delivers state source (pure []) := by
  rintro _ rfl
  exact Prog.ends_ok rfl (.unchanged _ (Or.inr rfl) rfl)

theorem delivers_refused :
    Delivers state source (Prog.fail error) := by
  rintro _ rfl
  exact Prog.ends_err rfl rfl

theorem delivers_taken
    {amount : Nat}
    (enough : amount ≤ (state.pipeBuffers slot).len) :
    Delivers state (some slot)
      (copyUserOut world 0 ((state.pipeBuffers slot).peek amount) >>= fun _ =>
        Prog.modify (State.takePipe slot amount) >>= fun _ =>
          pure ((state.pipeBuffers slot).peek amount)) := by
  rintro _ rfl
  unfold copyUserOut
  split
  · exact Prog.ends_ok rfl (.taken _ _ rfl enough rfl)
  · exact Prog.ends_err rfl rfl

theorem delivers_pipeReadFd :
    Delivers state (some (state.fds fdNumber.toNat).id)
      (pipeReadFd world fdNumber count) := by
  apply Prog.Ensures.ite fun _ => delivers_nothing
  intro _
  apply ensures_fdSnapshot_bind
  · rfl
  intro _
  apply Prog.Ensures.ite fun _ => delivers_refused
  intro _
  apply Prog.Ensures.gets_bind
  dsimp only [id]
  split
  · exact delivers_refused
  case h_2 available isAvailable =>
    apply Prog.Ensures.ite
    · exact fun _ => .ite (fun _ => delivers_refused) fun _ => delivers_nothing
    · intro _
      apply delivers_taken
      rw [pipeAvailable_eq_some isAvailable]
      exact Nat.min_le_right _ _

theorem delivers_socketReadFd :
    Delivers state
      (socketPipeFor state (state.fds fdNumber.toNat).id
        ((state.fds fdNumber.toNat).path.getD 1 0) false)
      (socketReadFd world fdNumber count) := by
  apply ensures_fdSnapshot_bind
  · rfl
  intro _
  apply Prog.Ensures.ite fun _ => delivers_refused
  intro _
  apply Prog.Ensures.gets_bind
  dsimp only [id]
  cases socketPipeFor state (state.fds fdNumber.toNat).id
      ((state.fds fdNumber.toNat).path.getD 1 0) false with
  | none => exact delivers_refused
  | some slot =>
      apply Prog.Ensures.ite
      · exact fun _ => .ite (fun _ => delivers_refused) fun _ => delivers_nothing
      · exact fun _ => delivers_taken (Nat.min_le_right _ _)

theorem pipeBuffers_readKind
    (world : World)
    (fdNumber : Int)
    (notPipe : fd.kind ≠ .pipeRead)
    (notSocket : fd.kind ≠ .socket)
    (count : Nat) :
    Prog.Preserves State.pipeBuffers (readKind world fdNumber fd count) :=
  preserves_readKind (unreadKinds_pipeBuffers _)
    (fun isPipe => absurd isPipe notPipe)
    (fun isSocket => absurd isSocket notSocket)

theorem delivers_readKind :
    Delivers state (readSlot state fdNumber)
      (readKind world fdNumber (state.fds fdNumber.toNat) count) := by
  by_cases isPipe : (state.fds fdNumber.toNat).kind = .pipeRead
  · unfold readKind readSlot
    dsimp only
    rw [isPipe]
    exact delivers_pipeReadFd
  · by_cases isSocket : (state.fds fdNumber.toNat).kind = .socket
    · unfold readKind readSlot
      dsimp only
      rw [isSocket]
      exact delivers_socketReadFd
    · have noSource : readSlot state fdNumber = none := by
        unfold readSlot
        dsimp only
        split
        · exact absurd ‹_› isPipe
        · exact absurd ‹_› isSocket
        · rfl
      rw [noSource]
      rintro _ rfl
      obtain ⟨returns, fails⟩ :=
        pipeBuffers_readKind world fdNumber isPipe isSocket count _ _ rfl
      exact
        ⟨fun bytes final returned =>
          .unchanged bytes (Or.inl rfl) (returns _ _ returned), fails⟩

theorem delivers_readFd :
    Delivers state (readSlot state fdNumber) (readFd world fdNumber count) := by
  apply Prog.Ensures.ite fun _ => delivers_refused
  intro _
  apply Prog.Ensures.ite fun _ => delivers_nothing
  intro _
  apply ensures_fdSnapshot_bind
  · rfl
  intro _
  exact .ite (fun _ => delivers_refused) fun _ => delivers_readKind

end Deliveries

/-! ## Putting bytes into a slot -/

/-- How a write accepts bytes. -/
inductive Accepted
    (world : World)
    (target : Option Nat)
    (before after : State) :
    Nat →
    Prop
  | unchanged
      (amount : Nat)
      (notHere : target = none ∨ amount = 0)
      (same : after.pipeBuffers = before.pipeBuffers) :
      Accepted world target before after amount
  | put
      (slot amount : Nat)
      (isTarget : target = some slot)
      (room :
        amount ≤ Syscall.pipeCapacity - (before.pipeBuffers slot).len)
      (put :
        after.pipeBuffers =
          Function.update before.pipeBuffers slot
            ((before.pipeBuffers slot).put world.source amount)) :
      Accepted world target before after amount

/-- A write that accepts bytes, or fails and leaves the buffers alone. -/
def Accepts
    (world : World)
    (state : State)
    (target : Option Nat)
    (program : Sys Nat) : Prop :=
  Prog.Ensures (fun current => current = state) program
    (fun amount after => Accepted world target state after amount)
    (fun after => after.pipeBuffers = state.pipeBuffers)

theorem accepts_refused
    {target : Option Nat} :
    Accepts world state target (Prog.fail error) := by
  rintro _ rfl
  exact Prog.ends_err rfl rfl

theorem accepts_put
    {amount : Nat}
    (room : amount ≤ Syscall.pipeCapacity - (state.pipeBuffers slot).len) :
    Accepts world state (some slot)
      (copyUserIn world 0 amount >>= fun _ =>
        Prog.modify (State.putPipe slot world.source amount) >>= fun _ =>
          pure amount) := by
  rintro _ rfl
  unfold copyUserIn
  split
  · exact Prog.ends_ok rfl (.put slot amount rfl room rfl)
  · exact Prog.ends_err rfl rfl

theorem accepts_pipeWriteFd :
    Accepts world state (some (state.fds fdNumber.toNat).id)
      (pipeWriteFd world fdNumber count) := by
  apply ensures_fdSnapshot_bind
  · rfl
  intro _
  apply Prog.Ensures.ite fun _ => accepts_refused
  intro _
  apply Prog.Ensures.gets_bind
  dsimp only [id]
  split
  · exact accepts_refused
  case h_2 available isAvailable =>
    apply Prog.Ensures.ite fun _ => accepts_refused
    intro _
    apply Prog.Ensures.ite fun _ => accepts_refused
    intro _
    apply accepts_put
    rw [pipeAvailable_eq_some isAvailable]
    exact Nat.min_le_right _ _

theorem accepts_socketWriteFd :
    Accepts world state
      (socketPipeFor state (state.fds fdNumber.toNat).id
        ((state.fds fdNumber.toNat).path.getD 1 0) true)
      (socketWriteFd world fdNumber count) := by
  apply ensures_fdSnapshot_bind
  · rfl
  intro _
  apply Prog.Ensures.ite fun _ => accepts_refused
  intro _
  apply Prog.Ensures.gets_bind
  dsimp only [id]
  cases socketPipeFor state (state.fds fdNumber.toNat).id
      ((state.fds fdNumber.toNat).path.getD 1 0) true with
  | none => exact accepts_refused
  | some slot =>
      apply Prog.Ensures.ite fun _ => accepts_refused
      exact fun _ => accepts_put (Nat.min_le_right _ _)

theorem pipeBuffers_writeKind
    (world : World)
    (fdNumber : Int)
    (notPipe : fd.kind ≠ .pipeWrite)
    (notSocket : fd.kind ≠ .socket)
    (count : Nat) :
    Prog.Preserves State.pipeBuffers (writeKind world fdNumber fd count) :=
  preserves_writeKind (unwrittenKinds_pipeBuffers _)
    (fun isPipe => absurd isPipe notPipe)
    (fun isSocket => absurd isSocket notSocket)

theorem accepts_writeKind :
    Accepts world state (writeSlot state fdNumber)
      (writeKind world fdNumber (state.fds fdNumber.toNat) count) := by
  by_cases isPipe : (state.fds fdNumber.toNat).kind = .pipeWrite
  · unfold writeKind writeSlot
    dsimp only
    rw [isPipe]
    exact accepts_pipeWriteFd
  · by_cases isSocket : (state.fds fdNumber.toNat).kind = .socket
    · unfold writeKind writeSlot
      dsimp only
      rw [isSocket]
      exact accepts_socketWriteFd
    · have noTarget : writeSlot state fdNumber = none := by
        unfold writeSlot
        dsimp only
        split
        · exact absurd ‹_› isPipe
        · exact absurd ‹_› isSocket
        · rfl
      rw [noTarget]
      rintro _ rfl
      obtain ⟨returns, fails⟩ :=
        pipeBuffers_writeKind world fdNumber isPipe isSocket count _ _ rfl
      exact
        ⟨fun amount final returned =>
          .unchanged amount (Or.inl rfl) (returns _ _ returned), fails⟩

theorem accepts_writeFd :
    Accepts world state (writeSlot state fdNumber)
      (writeFd world fdNumber count) := by
  apply Prog.Ensures.ite fun _ => accepts_refused
  intro _
  apply Prog.Ensures.ite
  · rintro _ _ rfl
    exact Prog.ends_ok rfl (.unchanged _ (Or.inr rfl) rfl)
  · intro _
    apply ensures_fdSnapshot_bind
    · rfl
    intro _
    exact .ite (fun _ => accepts_refused) fun _ => accepts_writeKind

/-! ## Runs -/

/-- A state, and what one slot has accepted and delivered on the way to it. -/
structure History where
  state : State
  accepted : List UInt8
  delivered : List UInt8

/--
A read, a write, or anything else that leaves the slot alone: other calls that
make, copy or drop descriptors, start or end a child, or take other slots.
-/
inductive History.Step (slot : Nat) (before : History) : History → Prop
  | read
      (world : World)
      (fdNumber : Int)
      (count : Nat)
      (bytes : List UInt8)
      (after : State)
      (returned : readFd world fdNumber count before.state = .ok bytes after) :
      Step slot before
        { before with
          state := after
          delivered :=
            before.delivered ++
              if readSlot before.state fdNumber = some slot then bytes
              else [] }
  | readFails
      (world : World)
      (fdNumber : Int)
      (count : Nat)
      (error : Errno)
      (after : State)
      (failed : readFd world fdNumber count before.state = .err error after) :
      Step slot before { before with state := after }
  | write
      (world : World)
      (fdNumber : Int)
      (count amount : Nat)
      (after : State)
      (returned :
        writeFd world fdNumber count before.state = .ok amount after) :
      Step slot before
        { before with
          state := after
          accepted :=
            before.accepted ++
              if writeSlot before.state fdNumber = some slot then
                window world.source 0 amount
              else [] }
  | writeFails
      (world : World)
      (fdNumber : Int)
      (count : Nat)
      (error : Errno)
      (after : State)
      (failed : writeFd world fdNumber count before.state = .err error after) :
      Step slot before { before with state := after }
  | elsewhere
      (after : State)
      (same : after.pipeBuffers slot = before.state.pipeBuffers slot) :
      Step slot before { before with state := after }

/-- The slot holds what it has accepted and not delivered. -/
structure History.Fifo (slot : Nat) (history : History) : Prop where
  wellFormed : (history.state.pipeBuffers slot).WellFormed
  bytes :
    history.accepted =
      history.delivered ++ (history.state.pipeBuffers slot).contents

theorem window_zero_start
    {α : Type}
    (data : Nat → α)
    (amount : Nat) :
    window data 0 amount = (List.range amount).map data := by
  unfold window
  apply List.map_congr_left
  intro index _
  rw [Nat.zero_add]

theorem History.Fifo.of_same
    {before after : History}
    (fifo : before.Fifo slot)
    (same :
      after.state.pipeBuffers slot = before.state.pipeBuffers slot)
    (accepted : after.accepted = before.accepted)
    (delivered : after.delivered = before.delivered) :
    after.Fifo slot := by
  refine ⟨same ▸ fifo.wellFormed, ?_⟩
  rw [same, accepted, delivered]
  exact fifo.bytes

theorem History.Fifo.delivers
    {before : History}
    (fifo : before.Fifo slot)
    {source : Option Nat}
    {after : State}
    (delivers : Delivered source before.state after bytes) :
    History.Fifo slot
      { before with
        state := after
        delivered :=
          before.delivered ++ if source = some slot then bytes else [] } := by
  cases delivers with
  | unchanged _ notHere same =>
      apply fifo.of_same
      · exact congrFun same slot
      · rfl
      · rcases notHere with noSource | nothing
        · rw [noSource, if_neg (Option.some_ne_none slot).symm,
            List.append_nil]
        · rw [nothing, ite_self, List.append_nil]
  | taken source amount isSource enough taken =>
      by_cases here : source = slot
      · subst here
        refine ⟨?_, ?_⟩
        · dsimp only
          rw [taken, Function.update_self]
          exact fifo.wellFormed.take enough
        · dsimp only
          rw [if_pos isSource, taken, Function.update_self, List.append_assoc,
            ← fifo.wellFormed.contents_take enough]
          exact fifo.bytes
      · apply fifo.of_same
        · dsimp only
          rw [taken, Function.update_of_ne (Ne.symm here)]
        · rfl
        · dsimp only
          rw [isSource, if_neg (fun same => here (Option.some.inj same)),
            List.append_nil]

theorem History.Fifo.accepts
    {before : History}
    (fifo : before.Fifo slot)
    {target : Option Nat}
    {after : State}
    {amount : Nat}
    (accepts : Accepted world target before.state after amount) :
    History.Fifo slot
      { before with
        state := after
        accepted :=
          before.accepted ++
            if target = some slot then window world.source 0 amount
            else [] } := by
  cases accepts with
  | unchanged _ notHere same =>
      apply fifo.of_same
      · exact congrFun same slot
      · rcases notHere with noTarget | nothing
        · rw [noTarget, if_neg (Option.some_ne_none slot).symm,
            List.append_nil]
        · rw [nothing, window_zero, ite_self, List.append_nil]
      · rfl
  | put target amount isTarget room put =>
      by_cases here : target = slot
      · subst here
        have fits :
            (before.state.pipeBuffers target).len + amount ≤
              Syscall.pipeCapacity := by
          have upper := fifo.wellFormed.len
          omega
        refine ⟨?_, ?_⟩
        · dsimp only
          rw [put, Function.update_self]
          exact fifo.wellFormed.put fits world.source
        · dsimp only
          rw [if_pos isTarget, put, Function.update_self,
            fifo.wellFormed.contents_put fits, window_zero_start,
            ← List.append_assoc, ← fifo.bytes]
      · apply fifo.of_same
        · dsimp only
          rw [put, Function.update_of_ne (Ne.symm here)]
        · dsimp only
          rw [isTarget, if_neg (fun same => here (Option.some.inj same)),
            List.append_nil]
        · rfl

theorem History.Fifo.step
    {before after : History}
    (fifo : before.Fifo slot)
    (step : before.Step slot after) :
    after.Fifo slot := by
  cases step with
  | read world fdNumber count bytes after returned =>
      exact fifo.delivers ((delivers_readFd _ rfl).1 _ _ returned)
  | readFails world fdNumber count error after failed =>
      exact
        fifo.of_same (congrFun ((delivers_readFd _ rfl).2 _ _ failed) slot) rfl
          rfl
  | write world fdNumber count amount after returned =>
      exact fifo.accepts ((accepts_writeFd _ rfl).1 _ _ returned)
  | writeFails world fdNumber count error after failed =>
      exact
        fifo.of_same (congrFun ((accepts_writeFd _ rfl).2 _ _ failed) slot) rfl
          rfl
  | elsewhere after same =>
      exact fifo.of_same same rfl rfl

theorem History.fifo_of_run
    {start : State}
    (fresh : start.pipeBuffers slot = Syscall.PipeBuffer.fresh)
    {history : History}
    (run :
      Relation.ReflTransGen (History.Step slot) ⟨start, [], []⟩ history) :
    history.Fifo slot := by
  refine invariant_of_run (History.Fifo slot) ?_ run ⟨?_, ?_⟩
  · exact fun before after step fifo => fifo.step step
  · rw [fresh]
    exact Syscall.PipeBuffer.wellFormed_fresh
  · dsimp only
    rw [fresh]
    rfl

/-! ## The end of a pipe -/

/-- An open write end of the pipe in a slot. -/
def OpenWriter (fds : Nat → Fd) (slot : Nat) : Prop :=
  ∃ index,
    index < Syscall.fileFdMax ∧
      (fds index).used = true ∧
      (fds index).kind = .pipeWrite ∧
      (fds index).path.length = 1 ∧
      (fds index).id = slot

/--
A read returns no bytes only when the pipe holds none and neither the running
process nor a suspended parent has an open write end of it.
-/
def EndsLate
    (world : World)
    (fdNumber : Int)
    (count : Nat)
    (state : State) : Prop :=
  ∀ after,
    pipeReadFd world fdNumber count state = .ok [] after →
    (state.pipeBuffers (state.fds fdNumber.toNat).id).len = 0 ∧
      ¬ OpenWriter state.fds (state.fds fdNumber.toNat).id ∧
      ∀ fds,
        state.parent = some fds →
        ¬ OpenWriter fds (state.fds fdNumber.toNat).id

/--
An open read end of an empty pipe that the running process cannot write to, and
the suspended parent can.
-/
def MissesWriter (fdNumber : Int) (state : State) : Prop :=
  OpenFd state.fds fdNumber ∧
    (state.fds fdNumber.toNat).kind = .pipeRead ∧
    (state.fds fdNumber.toNat).path.length = 1 ∧
    pipeAvailable state (state.fds fdNumber.toNat).id = some 0 ∧
    pipeHasWriter state (state.fds fdNumber.toNat).id = false ∧
    ∃ fds,
      state.parent = some fds ∧
        OpenWriter fds (state.fds fdNumber.toNat).id

theorem not_openWriter
    (none : pipeHasWriter state slot = false) :
    ¬ OpenWriter state.fds slot := by
  rintro ⟨index, inside, _, kind, length, isSlot⟩
  have absent :=
    List.any_eq_false.mp none index (List.mem_range.mpr inside)
  rw [kind, length, isSlot, beq_self_eq_true, beq_self_eq_true,
    beq_self_eq_true] at absent
  exact absent rfl

theorem endsLate_iff
    (something : 0 < count)
    (state : State) :
    EndsLate world fdNumber count state ↔ ¬ MissesWriter fdNumber state := by
  have notZero : count ≠ 0 := Nat.pos_iff_ne_zero.mp something
  constructor
  · rintro late ⟨isOpen, kind, length, empty, noWriter, fds, isParent, writer⟩
    have ended :
        pipeReadFd world fdNumber count state = .ok [] state := by
      rw [pipeReadFd_of_open isOpen notZero ⟨kind, length⟩, empty]
      dsimp only
      rw [if_pos rfl, noWriter, if_neg Bool.false_ne_true]
    exact (late state ended).2.2 fds isParent writer
  · intro misses after ended
    by_cases isEnd :
        OpenFd state.fds fdNumber ∧
          (state.fds fdNumber.toNat).kind = .pipeRead ∧
          (state.fds fdNumber.toNat).path.length = 1
    · rw [pipeReadFd_of_open isEnd.1 notZero isEnd.2] at ended
      cases isAvailable :
          pipeAvailable state (state.fds fdNumber.toNat).id with
      | none =>
          rw [isAvailable] at ended
          cases ended
      | some available =>
          rw [isAvailable] at ended
          dsimp only at ended
          by_cases empty : available = 0
          · subst empty
            rw [if_pos rfl] at ended
            cases writer :
                pipeHasWriter state (state.fds fdNumber.toNat).id with
            | true =>
                rw [writer, if_pos rfl] at ended
                cases ended
            | false =>
                refine
                  ⟨pipeAvailable_eq_some isAvailable, not_openWriter writer,
                    ?_⟩
                intro fds isParent parentWriter
                exact
                  misses
                    ⟨isEnd.1, isEnd.2.1, isEnd.2.2, isAvailable, writer, fds,
                      isParent, parentWriter⟩
          · rw [if_neg empty] at ended
            split at ended
            · injection ended with bytes _
              have length := congrArg List.length bytes
              rw [Syscall.PipeBuffer.length_peek, List.length_nil] at length
              omega
            · cases ended
    · rw [pipeReadFd_of_not_end notZero isEnd] at ended
      cases ended

/-! ## The channel -/

/--
In every run from the allocation of a slot, the slot delivers what it accepts in
order and holds the rest, its positions fit its length, calls that fail leave it
alone, and a read sees the end of a pipe only when nobody can write to it,
unless the one who can is a suspended parent.
-/
theorem channel_of_run
    (slot : Nat)
    (start : State)
    (fresh : start.pipeBuffers slot = Syscall.PipeBuffer.fresh)
    (history : History)
    (run :
      Relation.ReflTransGen (History.Step slot) ⟨start, [], []⟩ history) :
    history.delivered <+: history.accepted ∧
      history.accepted =
        history.delivered ++ (history.state.pipeBuffers slot).contents ∧
      (history.state.pipeBuffers slot).len ≤ Syscall.pipeCapacity ∧
      (history.state.pipeBuffers slot).writePos =
        ((history.state.pipeBuffers slot).readPos +
            (history.state.pipeBuffers slot).len) %
          Syscall.pipeCapacity ∧
      (∀ world fdNumber count error after,
        readFd world fdNumber count history.state = .err error after ∨
          writeFd world fdNumber count history.state = .err error after →
        after.pipeBuffers = history.state.pipeBuffers) ∧
      ∀ world fdNumber count,
        0 < count →
        (EndsLate world fdNumber count history.state ↔
          ¬ MissesWriter fdNumber history.state) := by
  have fifo := History.fifo_of_run fresh run
  refine
    ⟨⟨_, fifo.bytes.symm⟩, fifo.bytes, fifo.wellFormed.len,
      fifo.wellFormed.writePos, ?_, ?_⟩
  · rintro world fdNumber count error after (failed | failed)
    · exact (delivers_readFd _ rfl).2 _ _ failed
    · exact (accepts_writeFd _ rfl).2 _ _ failed
  · intro world fdNumber count something
    exact endsLate_iff something history.state

/-- An end of the pipe in slot 0. -/
def firstEnd (kind : FileKind) (flags : UInt64) : Fd where
  used := true
  kind := kind
  flags := flags
  position := 0
  path := [0]

/-- Descriptors 3 and 4 are the ends of a new pipe. -/
def pipedState : State :=
  { (State.new.setFd 3 (firstEnd .pipeRead 0)).setFd 4
      (firstEnd .pipeWrite Syscall.oWronly) with
    pipeBuffers :=
      Function.update State.new.pipeBuffers 0 Syscall.PipeBuffer.fresh }

/-- A child has closed its write end, and its parent waits for it. -/
def childState : State :=
  { pipedState.setFd 4 Fd.empty with parent := some pipedState.fds }

/-- A letter that was written is in the buffer. -/
theorem letter_in_pipe :
    ∃ history : History,
      Relation.ReflTransGen (History.Step 0) ⟨pipedState, [], []⟩ history ∧
        history.accepted = [97] ∧
        history.accepted =
          history.delivered ++ (history.state.pipeBuffers 0).contents := by
  have run :
      ∃ history : History,
        Relation.ReflTransGen (History.Step 0) ⟨pipedState, [], []⟩
            history ∧
          history.accepted = [97] :=
    ⟨_, .single (.write World.idle 4 1 1 _ rfl), rfl⟩
  obtain ⟨history, run, accepted⟩ := run
  exact
    ⟨history, run, accepted,
      (channel_of_run 0 pipedState rfl history run).2.1⟩

/-- The child reads the end of a pipe that its parent can still write to. -/
theorem parent_writer_missed :
    Relation.ReflTransGen (History.Step 0) ⟨pipedState, [], []⟩
        ⟨childState, [], []⟩ ∧
      ¬ EndsLate World.idle 3 1 childState := by
  constructor
  · exact .single (.elsewhere childState rfl)
  · intro late
    have ended := late childState rfl
    exact ended.2.2 _ rfl ⟨4, by decide, rfl, rfl, rfl, rfl⟩

end VibuxOS.Files
